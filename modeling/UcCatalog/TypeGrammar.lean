/-
This file compares what the type parser accepts with the grammar of the type
syntax. The parser ends a container at the last closing bracket and a decimal at
the first one and does not look at what follows, so it reads more than the
grammar derives. A reading ignores nothing exactly when the text is derivable as
the type that was read (`Derives.ignored_eq_nil`).

That a derivable text is read without a remainder is not plain from its outside:
the same text might be cut at another comma. The two cuts are told apart by the
commas in them, of which a reading has as many as a derivation of the same type
and those it ignores (`Derives.commas`).
-/

import UcCatalog.TypeBounds

namespace UcCatalog

open Nesting

/-! ### The grammar -/

/-- A struct field of the grammar. -/
structure GrammarField where
  name : Text
  typeStr : Text
  type : LogicalType

def GrammarField.text (field : GrammarField) : Text := field.name ++ ':' :: field.typeStr

/-- `T ::= primitive name | decimal(p,s) | array<T> | map<T,T> | struct<name:T,...,name:T>`, over
whole texts. -/
inductive Derives (castUInt8 : CastUInt8) : Text → LogicalType → Prop
  | primitive (name : Text) (type : LogicalType) (known : primitiveTypes.lookup name = some type) :
      Derives castUInt8 name type
  | decimal (precStr scaleStr : Text) (prec scale : UInt8)
      (precision : castUInt8 precStr = .ok prec) (scaling : castUInt8 scaleStr = .ok scale) :
      Derives castUInt8 ("decimal(".toList ++ ((precStr ++ ',' :: scaleStr) ++ [')']))
        (.decimal prec scale)
  | array (body : Text) (child : LogicalType) (element : Derives castUInt8 body child) :
      Derives castUInt8 ("array<".toList ++ (body ++ ['>'])) (.list child)
  | map (keyStr valueStr : Text) (key value : LogicalType) (keys : Derives castUInt8 keyStr key)
      (values : Derives castUInt8 valueStr value) :
      Derives castUInt8 ("map<".toList ++ ((keyStr ++ ',' :: valueStr) ++ ['>'])) (.map key value)
  | struct (fields : List GrammarField) (nonempty : fields ≠ [])
      (children : ∀ field ∈ fields, Derives castUInt8 field.typeStr field.type) :
      Derives castUInt8
        ("struct<".toList ++ ([','].intercalate (fields.map GrammarField.text) ++ ['>']))
        (.struct (fields.map fun field => (field.name, field.type)))

/-- A reading of the text that ignores some of it. -/
def IgnoresText (castUInt8 : CastUInt8) (typeText : Text) : Prop :=
  ∃ type ignored, Reads castUInt8 typeText type ignored ∧ ignored ≠ []

section Parser

variable {castUInt8 : CastUInt8}

/-! ### A reading that ignores nothing is a derivation -/

theorem intercalate_parts {body : Text} {parts : List Text}
    (same : split commaMarks 0 body = parts) : body = [','].intercalate parts := by
  rw [← same]
  exact (intercalate_split commaMarks 0 body).symm

theorem body_of_pair {body first second : Text}
    (same : split commaMarks 0 body = [first, second]) : body = first ++ ',' :: second := by
  rw [intercalate_parts same, List.intercalate_cons_cons, List.intercalate_singleton,
    List.append_assoc, List.singleton_append]

theorem Reads.derives {typeText : Text} {type : LogicalType} {ignored : Text}
    (read : Reads castUInt8 typeText type ignored) (whole : ignored = []) :
    Derives castUInt8 typeText type := by
  induction read with
  | primitive name type known => exact .primitive name type known
  | decimal precStr scaleStr after prec scale firstComma firstEnd precision scaling legal =>
    subst whole
    exact .decimal precStr scaleStr prec scale precision scaling
  | array body after ignored child last read inductionHypothesis =>
    obtain ⟨inside, rfl⟩ := List.append_eq_nil_iff.mp whole
    exact .array body child (inductionHypothesis inside)
  | map body after keyStr valueStr keyIgnored valueIgnored key value last parts readKey readValue
      derivesKey derivesValue =>
    obtain ⟨inside, rfl⟩ := List.append_eq_nil_iff.mp whole
    obtain ⟨inKey, inValue⟩ := List.append_eq_nil_iff.mp inside
    rw [body_of_pair parts]
    exact .map keyStr valueStr key value (derivesKey inKey) (derivesValue inValue)
  | struct body after fields last parts named read derives =>
    obtain ⟨inside, rfl⟩ := List.append_eq_nil_iff.mp whole
    have nothing : ∀ field ∈ fields, field.ignored = [] := fun field member =>
      List.flatten_eq_nil_iff.mp inside field.ignored (List.mem_map_of_mem member)
    let forget : ReadField → GrammarField := fun field => ⟨field.name, field.typeStr, field.type⟩
    have nonempty : fields.map forget ≠ [] := fun empty => by
      rw [List.map_eq_nil_iff.mp empty] at parts
      exact split_ne_nil commaMarks 0 body parts
    have derived : Derives castUInt8 _ _ := .struct (fields.map forget) nonempty
      fun field member => by
        obtain ⟨readField, inFields, rfl⟩ := List.mem_map.mp member
        exact derives readField inFields (nothing readField inFields)
    rw [List.map_map, List.map_map] at derived
    rw [intercalate_parts parts]
    exact derived

/-! ### Readings by the type that is read -/

/-- The types that are named by one word each. -/
def LogicalType.isPlain : LogicalType → Bool
  | .decimal _ _ | .list _ | .map _ _ | .struct _ => false
  | _ => true

theorem plain_of_lookup {name : Text} {type : LogicalType}
    (known : primitiveTypes.lookup name = some type) : type.isPlain = true ∧ ',' ∉ name := by
  have table : ∀ entry ∈ primitiveTypes, entry.2.isPlain = true ∧ ',' ∉ entry.1 := by decide
  obtain ⟨front, rest, whole, _⟩ := List.lookup_eq_some_iff.mp known
  exact table (name, type) (by rw [whole]; simp)

theorem Reads.decimal_inv {typeText ignored : Text} {prec scale : UInt8}
    (read : Reads castUInt8 typeText (.decimal prec scale) ignored) :
    ∃ precStr scaleStr,
      typeText = "decimal(".toList ++ ((precStr ++ ',' :: scaleStr) ++ ')' :: ignored) ∧
        ')' ∉ precStr ++ ',' :: scaleStr ∧ castUInt8 precStr = .ok prec ∧
          castUInt8 scaleStr = .ok scale := by
  cases read with
  | primitive name type known => exact absurd (plain_of_lookup known).1 Bool.false_ne_true
  | decimal precStr scaleStr after prec scale firstComma firstEnd precision scaling legal =>
    exact ⟨precStr, scaleStr, rfl, firstEnd, precision, scaling⟩

theorem Reads.array_inv {typeText ignored : Text} {child : LogicalType}
    (read : Reads castUInt8 typeText (.list child) ignored) :
    ∃ body after inside, typeText = "array<".toList ++ (body ++ '>' :: after) ∧ '>' ∉ after ∧
      Reads castUInt8 body child inside ∧ ignored = inside ++ after := by
  cases read with
  | primitive name type known => exact absurd (plain_of_lookup known).1 Bool.false_ne_true
  | array body after inside child last read => exact ⟨body, after, inside, rfl, last, read, rfl⟩

theorem Reads.map_inv {typeText ignored : Text} {key value : LogicalType}
    (read : Reads castUInt8 typeText (.map key value) ignored) :
    ∃ keyStr valueStr after inKey inValue,
      typeText = "map<".toList ++ ((keyStr ++ ',' :: valueStr) ++ '>' :: after) ∧ '>' ∉ after ∧
        Reads castUInt8 keyStr key inKey ∧ Reads castUInt8 valueStr value inValue ∧
          ignored = inKey ++ inValue ++ after := by
  cases read with
  | primitive name type known => exact absurd (plain_of_lookup known).1 Bool.false_ne_true
  | map body after keyStr valueStr inKey inValue key value last parts readKey readValue =>
    refine ⟨keyStr, valueStr, after, inKey, inValue, ?_, last, readKey, readValue, rfl⟩
    rw [body_of_pair parts]

theorem Reads.struct_inv {typeText ignored : Text} {children : List (Text × LogicalType)}
    (read : Reads castUInt8 typeText (.struct children) ignored) :
    ∃ (fields : List ReadField) (after : Text),
      typeText = "struct<".toList ++
          ([','].intercalate (fields.map ReadField.text) ++ '>' :: after) ∧ '>' ∉ after ∧
        (∀ field ∈ fields, Reads castUInt8 field.typeStr field.type field.ignored) ∧
          children = fields.map (fun field => (field.name, field.type)) ∧
            ignored = (fields.map ReadField.ignored).flatten ++ after := by
  cases read with
  | primitive name type known => exact absurd (plain_of_lookup known).1 Bool.false_ne_true
  | struct body after fields last parts named read =>
    refine ⟨fields, after, ?_, last, read, rfl, rfl⟩
    rw [intercalate_parts parts]

/-! ### A derivable text is read without a remainder -/

/-- The fields of a derivation and of a reading of the same struct type, one by one. -/
theorem paired_fields {fields : List GrammarField} {readFields : List ReadField}
    {Related : GrammarField → ReadField → Prop}
    (same : fields.map (fun field => (field.name, field.type)) =
      readFields.map (fun field => (field.name, field.type)))
    (related : ∀ field ∈ fields, ∀ readField ∈ readFields, field.type = readField.type →
      Related field readField) :
    List.Forall₂ (fun field readField => field.name = readField.name ∧ Related field readField)
      fields readFields := by
  induction fields generalizing readFields with
  | nil =>
    rw [List.map_eq_nil_iff.mp same.symm]
    exact .nil
  | cons field fields inductionHypothesis =>
    cases readFields with
    | nil => exact nomatch same
    | cons readField readFields =>
      obtain ⟨heads, tails⟩ := List.cons.inj same
      obtain ⟨names, types⟩ := Prod.mk.inj heads
      refine .cons ⟨names, related field List.mem_cons_self readField List.mem_cons_self types⟩
        (inductionHypothesis tails fun other inFields readOther inReadFields =>
          related other (List.mem_cons_of_mem _ inFields) readOther
            (List.mem_cons_of_mem _ inReadFields))

theorem commas_text {field : GrammarField} {readField : ReadField}
    (names : field.name = readField.name)
    (counted : readField.typeStr.count ',' =
      field.typeStr.count ',' + readField.ignored.count ',') :
    readField.text.count ',' = field.text.count ',' + readField.ignored.count ',' := by
  simp only [ReadField.text, GrammarField.text, List.count_append, List.count_cons, names, counted]
  omega

theorem commas_fields {fields : List GrammarField} {readFields : List ReadField}
    (paired : List.Forall₂ (fun field readField => field.name = readField.name ∧
      readField.typeStr.count ',' = field.typeStr.count ',' + readField.ignored.count ',')
      fields readFields) :
    ([','].intercalate (readFields.map ReadField.text)).count ',' =
      ([','].intercalate (fields.map GrammarField.text)).count ',' +
        (readFields.map ReadField.ignored).flatten.count ',' := by
  induction paired with
  | nil => rfl
  | cons head tail inductionHypothesis =>
    have counted := commas_text head.1 head.2
    cases tail with
    | nil => simpa using counted
    | cons next more =>
      simp only [List.map_cons, List.flatten_cons, List.count_append] at inductionHypothesis ⊢
      rw [count_intercalate_cons_cons, count_intercalate_cons_cons, inductionHypothesis, counted]
      omega

/-- The fields of one struct text, cut in two ways, are cut at the same commas. -/
theorem nothing_ignored {fields : List GrammarField} {readFields : List ReadField}
    (paired : List.Forall₂ (fun field readField => field.name = readField.name ∧
      readField.typeStr.count ',' = field.typeStr.count ',' + readField.ignored.count ',' ∧
        (field.typeStr = readField.typeStr → readField.ignored = [])) fields readFields)
    (same : [','].intercalate (fields.map GrammarField.text) =
      [','].intercalate (readFields.map ReadField.text)) :
    (readFields.map ReadField.ignored).flatten = [] := by
  have nothing : ∀ {field : GrammarField} {readField : ReadField},
      field.name = readField.name → (field.typeStr = readField.typeStr → readField.ignored = []) →
        field.text = readField.text → readField.ignored = [] := by
    intro field readField names whole texts
    rw [GrammarField.text, names] at texts
    exact whole (List.cons.inj (List.append_cancel_left texts)).2
  induction paired with
  | nil => rfl
  | cons head tail inductionHypothesis =>
    obtain ⟨names, counted, whole⟩ := head
    cases tail with
    | nil => simpa using nothing names whole (by simpa using same)
    | cons next more =>
      have rest := commas_fields
        (List.Forall₂.imp (fun _ _ both => ⟨both.1, both.2.1⟩) (List.Forall₂.cons next more))
      have total := congrArg (List.count ',') same
      have first := commas_text names counted
      simp only [List.map_cons] at same total rest inductionHypothesis
      rw [count_intercalate_cons_cons, count_intercalate_cons_cons] at total
      rw [List.intercalate_cons_cons, List.intercalate_cons_cons, List.append_assoc,
        List.append_assoc] at same
      obtain ⟨texts, bodies⟩ := append_separator_unique ',' (by omega) same
      rw [List.map_cons, List.flatten_cons, nothing names whole texts]
      exact inductionHypothesis bodies

theorem primitive_reading {name : Text} {type : LogicalType} {ignored : Text}
    (known : primitiveTypes.lookup name = some type)
    (read : Reads castUInt8 name type ignored) : ignored = [] := by
  cases read with
  | primitive => rfl
  | decimal | array | map | struct => exact absurd (plain_of_lookup known).1 Bool.false_ne_true

/-- A reading has the commas of a derivation of the same type and those it ignores. -/
theorem Derives.commas (numbersOnly : CastsNumbersOnly castUInt8) {typeText : Text}
    {type : LogicalType} (derives : Derives castUInt8 typeText type) {other ignored : Text}
    (read : Reads castUInt8 other type ignored) :
    other.count ',' = typeText.count ',' + ignored.count ',' := by
  have numeral : ∀ text number, castUInt8 text = .ok number → text.count ',' = 0 :=
    fun text number accepted =>
      List.count_eq_zero.mpr (numbersOnly text number accepted ',' (by decide))
  induction derives generalizing other ignored with
  | primitive name type known =>
    obtain ⟨plain, noComma⟩ := plain_of_lookup known
    cases read with
    | primitive other type otherKnown =>
      rw [List.count_eq_zero.mpr noComma, List.count_eq_zero.mpr (plain_of_lookup otherKnown).2]
      rfl
    | decimal | array | map | struct => exact absurd plain Bool.false_ne_true
  | decimal precStr scaleStr prec scale precision scaling =>
    obtain ⟨otherPrec, otherScale, rfl, _, otherPrecision, otherScaling⟩ := read.decimal_inv
    simp only [List.count_append, List.count_cons, numeral _ _ precision, numeral _ _ scaling,
      numeral _ _ otherPrecision, numeral _ _ otherScaling]
    simp
  | array body child element inductionHypothesis =>
    obtain ⟨otherBody, after, inside, rfl, _, readElement, rfl⟩ := read.array_inv
    have counted := inductionHypothesis readElement
    simp only [List.count_append, List.count_cons, counted]
    simp
    omega
  | map keyStr valueStr key value keys values countedKey countedValue =>
    obtain ⟨otherKey, otherValue, after, inKey, inValue, rfl, _, readKey, readValue, rfl⟩ :=
      read.map_inv
    simp only [List.count_append, List.count_cons, countedKey readKey, countedValue readValue]
    simp
    omega
  | struct fields nonempty children counted =>
    obtain ⟨readFields, after, rfl, _, readChildren, same, rfl⟩ := read.struct_inv
    have paired := paired_fields same fun field inFields readField inReadFields types =>
      counted field inFields (types ▸ readChildren readField inReadFields)
    simp only [List.count_append, List.count_cons, commas_fields paired]
    simp
    omega

/-- Nothing is ignored when a derivable text is read as the type it is derivable as. -/
theorem Derives.ignored_eq_nil (numbersOnly : CastsNumbersOnly castUInt8) {typeText : Text}
    {type : LogicalType} (derives : Derives castUInt8 typeText type) {ignored : Text}
    (read : Reads castUInt8 typeText type ignored) : ignored = [] := by
  induction derives generalizing ignored with
  | primitive name type known => exact primitive_reading known read
  | decimal precStr scaleStr prec scale precision scaling =>
    obtain ⟨otherPrec, otherScale, same, otherFirst, _⟩ := read.decimal_inv
    have first : ')' ∉ precStr ++ ',' :: scaleStr := by
      rw [List.mem_append, List.mem_cons]
      rintro (inPrec | symbol | inScale)
      · exact numbersOnly precStr prec precision ')' (by decide) inPrec
      · exact absurd symbol (by decide)
      · exact numbersOnly scaleStr scale scaling ')' (by decide) inScale
    exact (first_unique first otherFirst (List.append_cancel_left same)).2.symm
  | array body child element inductionHypothesis =>
    obtain ⟨otherBody, after, inside, same, last, readElement, rfl⟩ := read.array_inv
    obtain ⟨rfl, rfl⟩ := last_unique List.not_mem_nil last (List.append_cancel_left same)
    rw [inductionHypothesis readElement]
    rfl
  | map keyStr valueStr key value keys values ignoredKey ignoredValue =>
    obtain ⟨otherKey, otherValue, after, inKey, inValue, same, last, readKey, readValue, rfl⟩ :=
      read.map_inv
    obtain ⟨bodies, rfl⟩ := last_unique List.not_mem_nil last (List.append_cancel_left same)
    -- the commas of the two bodies leave none for what the parts ignore
    have keyCommas := keys.commas numbersOnly readKey
    have valueCommas := values.commas numbersOnly readValue
    have total := congrArg (List.count ',') bodies
    rw [List.count_append, List.count_append, List.count_cons_self, List.count_cons_self] at total
    obtain ⟨rfl, rfl⟩ := append_separator_unique ',' (by omega) bodies
    rw [ignoredKey readKey, ignoredValue readValue]
    rfl
  | struct fields nonempty children ignoredChild =>
    obtain ⟨readFields, after, same, last, readChildren, types, rfl⟩ := read.struct_inv
    obtain ⟨bodies, rfl⟩ := last_unique List.not_mem_nil last (List.append_cancel_left same)
    rw [nothing_ignored (paired_fields types fun field inFields readField inReadFields same =>
      have readChild := same ▸ readChildren readField inReadFields
      ⟨(children field inFields).commas numbersOnly readChild, fun sameText =>
        ignoredChild field inFields (sameText ▸ readChild)⟩) bodies]
    rfl

/-! ### Accepting whole texts -/

/-- The parser takes the text for a type it is derivable as, or raises. -/
def AcceptsWhole (castUInt8 : CastUInt8) (typeText : Text) : Prop :=
  (∃ type, typeToLogicalType castUInt8 typeText = .ok type ∧ Derives castUInt8 typeText type) ∨
    ∃ exception, typeToLogicalType castUInt8 typeText = .error (.raised exception)

end Parser

/-- The parser accepts whole texts only, except where it ignores some of the text or overruns
it. -/
theorem acceptsWhole_iff (castUInt8 : CastUInt8) (numbersOnly : CastsNumbersOnly castUInt8)
    (typeText : Text) :
    AcceptsWhole castUInt8 typeText ↔
      ¬ IgnoresText castUInt8 typeText ∧ ¬ Overruns castUInt8 typeText := by
  constructor
  · rintro (⟨type, returned, derives⟩ | ⟨exception, raised⟩)
    · refine ⟨?_, fun overruns => nomatch returned.symm.trans overruns.undefined⟩
      rintro ⟨other, ignored, read, nonempty⟩
      cases Except.ok.inj (returned.symm.trans read.returned)
      exact nonempty (derives.ignored_eq_nil numbersOnly read)
    · refine ⟨?_, fun overruns => nomatch Except.error.inj (raised.symm.trans overruns.undefined)⟩
      rintro ⟨other, ignored, read, _⟩
      exact nomatch raised.symm.trans read.returned
  · rintro ⟨whole, inside⟩
    rcases @settled_typeToLogicalType castUInt8 typeText with ⟨type, returned⟩ | raised | failed
    · obtain ⟨ignored, read⟩ := exists_reads numbersOnly typeText type returned
      have nothing : ignored = [] := by
        by_contra nonempty
        exact whole ⟨type, ignored, read, nonempty⟩
      exact Or.inl ⟨type, returned, read.derives nothing⟩
    · exact Or.inr raised
    · exact absurd (overruns_of_undefined numbersOnly typeText failed) inside

theorem acceptsWhole_arrayMap :
    AcceptsWhole castPlainNumeral "map<int,array<string>>".toList := by
  have derives : Derives castPlainNumeral "map<int,array<string>>".toList
      (.map .integer (.list .varchar)) :=
    .map "int".toList "array<string>".toList _ _ (.primitive _ _ rfl)
      (.array "string".toList _ (.primitive _ _ rfl))
  have returned : typeToLogicalType castPlainNumeral "map<int,array<string>>".toList =
      .ok (.map .integer (.list .varchar)) := by rfl
  refine (acceptsWhole_iff castPlainNumeral castPlainNumeral_numbersOnly _).mpr
    ⟨?_, fun overruns => nomatch returned.symm.trans overruns.undefined⟩
  rintro ⟨type, ignored, read, nonempty⟩
  cases Except.ok.inj (returned.symm.trans read.returned)
  exact nonempty (derives.ignored_eq_nil castPlainNumeral_numbersOnly read)

/-- The parser takes `array<int>xyz` for an array of integers. -/
theorem acceptsWhole_trailing :
    ¬ ∀ castUInt8, CastsNumbersOnly castUInt8 → ∀ typeText, AcceptsWhole castUInt8 typeText := by
  intro accepts
  have read : Reads castPlainNumeral "array<int>xyz".toList (.list .integer) "xyz".toList :=
    .array "int".toList "xyz".toList [] _ (by decide) (.primitive _ _ rfl)
  rcases accepts castPlainNumeral castPlainNumeral_numbersOnly "array<int>xyz".toList with
    ⟨type, returned, derives⟩ | ⟨exception, raised⟩
  · cases Except.ok.inj (returned.symm.trans read.returned)
    have nothing := derives.ignored_eq_nil castPlainNumeral_numbersOnly read
    exact absurd nothing (by decide)
  · exact nomatch raised.symm.trans read.returned

end UcCatalog
