/-
This file describes the type parser's outcomes by the shape of its input.
`Reads` is the language the parser accepts, with the type it reads and the text
it ignores on the way: whatever stands behind the closing bracket of a decimal,
array, map or struct. `Overruns` is the language on which it reads past the end
of the string, because a map or struct body is empty or ends in a comma. On
every other text it raises (`typeToLogicalType_ends`).

Both are languages of texts, defined without the parser. The equivalences with
the parser go by rule induction in one direction and by strong induction on the
length of the text, along its shape, in the other.
-/

import UcCatalog.TypeEquations

namespace UcCatalog

open Nesting

/-! ### The two languages -/

/-- A struct field as it is read: its name, the text behind the colon, the type read from that
text, and what was ignored of it. -/
structure ReadField where
  name : Text
  typeStr : Text
  type : LogicalType
  ignored : Text

def ReadField.text (field : ReadField) : Text := field.name ++ ':' :: field.typeStr

/-- `Reads typeText type ignored`: the text is a type up to the texts behind closing brackets,
which `ignored` collects in order. -/
inductive Reads (castUInt8 : CastUInt8) : Text → LogicalType → Text → Prop
  | primitive (name : Text) (type : LogicalType) (known : primitiveTypes.lookup name = some type) :
      Reads castUInt8 name type []
  | decimal (precStr scaleStr after : Text) (prec scale : UInt8) (firstComma : ',' ∉ precStr)
      (firstEnd : ')' ∉ precStr ++ ',' :: scaleStr) (precision : castUInt8 precStr = .ok prec)
      (scaling : castUInt8 scaleStr = .ok scale) (legal : prec ≤ 38) :
      Reads castUInt8 ("decimal(".toList ++ ((precStr ++ ',' :: scaleStr) ++ ')' :: after))
        (.decimal prec scale) after
  | array (body after ignored : Text) (child : LogicalType) (last : '>' ∉ after)
      (read : Reads castUInt8 body child ignored) :
      Reads castUInt8 ("array<".toList ++ (body ++ '>' :: after)) (.list child) (ignored ++ after)
  | map (body after keyStr valueStr keyIgnored valueIgnored : Text) (key value : LogicalType)
      (last : '>' ∉ after) (parts : split commaMarks 0 body = [keyStr, valueStr])
      (readKey : Reads castUInt8 keyStr key keyIgnored)
      (readValue : Reads castUInt8 valueStr value valueIgnored) :
      Reads castUInt8 ("map<".toList ++ (body ++ '>' :: after)) (.map key value)
        (keyIgnored ++ valueIgnored ++ after)
  | struct (body after : Text) (fields : List ReadField) (last : '>' ∉ after)
      (parts : split commaMarks 0 body = fields.map ReadField.text)
      (named : ∀ field ∈ fields, ':' ∉ field.name)
      (read : ∀ field ∈ fields, Reads castUInt8 field.typeStr field.type field.ignored) :
      Reads castUInt8 ("struct<".toList ++ (body ++ '>' :: after))
        (.struct (fields.map fun field => (field.name, field.type)))
        ((fields.map ReadField.ignored).flatten ++ after)

/-- A text that is read as some type. -/
def Readable (castUInt8 : CastUInt8) (typeText : Text) : Prop :=
  ∃ type ignored, Reads castUInt8 typeText type ignored

/-- A text that is read as a struct field. -/
def ReadableField (castUInt8 : CastUInt8) (childStr : Text) : Prop :=
  ∃ name typeStr, childStr = name ++ ':' :: typeStr ∧ ':' ∉ name ∧ Readable castUInt8 typeStr

/-- `Overruns typeText`: reading the text leaves it. Either all parts handed to the child parser
are read and the body ends empty, or an overrunning part stands behind parts that are read. -/
inductive Overruns (castUInt8 : CastUInt8) : Text → Prop
  | array (body after : Text) (last : '>' ∉ after) (child : Overruns castUInt8 body) :
      Overruns castUInt8 ("array<".toList ++ (body ++ '>' :: after))
  | mapEnd (body after : Text) (last : '>' ∉ after) (ends : EndsEmpty 0 body)
      (read : ∀ part ∈ handedParts 0 body after, Readable castUInt8 part) :
      Overruns castUInt8 ("map<".toList ++ (body ++ '>' :: after))
  | mapChild (body after part : Text) (done more : List Text) (last : '>' ∉ after)
      (parts : handedParts 0 body after = done ++ part :: more)
      (read : ∀ earlier ∈ done, Readable castUInt8 earlier) (child : Overruns castUInt8 part) :
      Overruns castUInt8 ("map<".toList ++ (body ++ '>' :: after))
  | structEnd (body after : Text) (last : '>' ∉ after) (ends : EndsEmpty 0 body)
      (read : ∀ part ∈ handedParts 0 body after, ReadableField castUInt8 part) :
      Overruns castUInt8 ("struct<".toList ++ (body ++ '>' :: after))
  | structChild (body after name typeStr : Text) (done more : List Text) (last : '>' ∉ after)
      (parts : handedParts 0 body after = done ++ (name ++ ':' :: typeStr) :: more)
      (named : ':' ∉ name) (read : ∀ earlier ∈ done, ReadableField castUInt8 earlier)
      (child : Overruns castUInt8 typeStr) :
      Overruns castUInt8 ("struct<".toList ++ (body ++ '>' :: after))

section Parser

variable {castUInt8 : CastUInt8}

/-! ### What is read is returned -/

theorem Reads.ne_nil {typeText : Text} {type : LogicalType} {ignored : Text}
    (read : Reads castUInt8 typeText type ignored) : typeText ≠ [] := by
  cases read with
  | primitive name type known =>
    rintro rfl
    exact nomatch known
  | decimal | array | map | struct => exact List.append_ne_nil_of_left_ne_nil (by decide) _

theorem ofDecimal_eq_ok (prec scale : UInt8) (type : LogicalType) :
    LogicalType.ofDecimal prec scale = .ok type ↔ prec ≤ 38 ∧ type = .decimal prec scale := by
  unfold LogicalType.ofDecimal raise
  split_ifs with legal
  · simpa [legal] using eq_comm
  · simp [legal]

/-- `LogicalType::DECIMAL` makes its type or raises. -/
theorem ofDecimal_cases (prec scale : UInt8) :
    LogicalType.ofDecimal prec scale = .ok (.decimal prec scale) ∨
      ∃ exception, LogicalType.ofDecimal prec scale = .error (.raised exception) := by
  unfold LogicalType.ofDecimal
  split
  · exact Or.inl rfl
  · exact Or.inr ⟨_, rfl⟩

/-- Two texts are both numbers, or what needs the numbers raises. -/
theorem castBoth_cases (castUInt8 : CastUInt8) (precStr scaleStr : Text)
    (next : UInt8 → UInt8 → Outcome LogicalType) :
    (∃ prec scale, castUInt8 precStr = .ok prec ∧ castUInt8 scaleStr = .ok scale) ∨
      ∃ exception, (Outcome.ofExcept (castUInt8 precStr) >>= fun prec =>
        Outcome.ofExcept (castUInt8 scaleStr) >>= next prec) = .error (.raised exception) := by
  cases precision : castUInt8 precStr with
  | error exception => exact Or.inr ⟨exception, rfl⟩
  | ok prec =>
    cases castUInt8 scaleStr with
    | error exception => exact Or.inr ⟨exception, rfl⟩
    | ok scale => exact Or.inl ⟨prec, scale, rfl, rfl⟩

/-- A struct child is a text with a colon and what its tail is read as, or no child at all. -/
theorem structChild_cases (self : Text → Outcome LogicalType) (childStr : Text) :
    (∃ name typeStr, childStr = name ++ ':' :: typeStr ∧ ':' ∉ name ∧
        structChild self childStr = self typeStr >>= fun type => pure (name, type)) ∨
      ':' ∉ childStr ∧ ∃ exception, structChild self childStr = .error (.raised exception) := by
  by_cases colon : ':' ∈ childStr
  · obtain ⟨name, typeStr, rfl, first⟩ := List.eq_append_cons_of_mem colon
    exact Or.inl ⟨name, typeStr, rfl, first, structChild_eq self name typeStr first⟩
  · exact Or.inr ⟨colon, _, structChild_of_not_mem self childStr colon⟩

theorem structChild_eq_ok (self : Text → Outcome LogicalType) (name typeStr : Text)
    (type : LogicalType) (first : ':' ∉ name) (read : self typeStr = .ok type) :
    structChild self (name ++ ':' :: typeStr) = .ok (name, type) := by
  rw [structChild_eq self name typeStr first, read]
  rfl

/-- The parser returns what a reading says. -/
theorem Reads.returned {typeText : Text} {type : LogicalType} {ignored : Text}
    (read : Reads castUInt8 typeText type ignored) :
    typeToLogicalType castUInt8 typeText = .ok type := by
  induction read with
  | primitive name type known => exact typeToLogicalType_primitive castUInt8 name type known
  | decimal precStr scaleStr after prec scale firstComma firstEnd precision scaling legal =>
    rw [typeToLogicalType_decimal castUInt8 precStr scaleStr after firstComma firstEnd, precision,
      scaling]
    exact (ofDecimal_eq_ok prec scale _).mpr ⟨legal, rfl⟩
  | array body after ignored child last read inductionHypothesis =>
    rw [typeToLogicalType_array castUInt8 body after last, inductionHypothesis]
    rfl
  | map body after keyStr valueStr keyIgnored valueIgnored key value last parts readKey readValue
      returnedKey returnedValue =>
    have nonempty : ¬ EndsEmpty 0 body := by
      rw [EndsEmpty, parts]
      exact fun same => readValue.ne_nil (Option.some.inj same)
    have children := (bodyChildren_eq_ok (typeToLogicalType castUInt8) 0 body after
      [key, value]).mpr ⟨nonempty, by
        rw [parts, mapM_eq_ok]
        exact .cons returnedKey (.cons returnedValue .nil)⟩
    rw [typeToLogicalType_map castUInt8 body after last, children]
    rfl
  | struct body after fields last parts named read returned =>
    have nonempty : ¬ EndsEmpty 0 body := by
      rw [EndsEmpty, parts]
      intro same
      obtain ⟨field, _, empty⟩ := List.mem_map.mp (List.mem_of_getLast? same)
      exact List.append_ne_nil_of_right_ne_nil _ (List.cons_ne_nil _ _) empty
    have children := (bodyChildren_eq_ok (structChild (typeToLogicalType castUInt8)) 0 body after
      (fields.map fun field => (field.name, field.type))).mpr ⟨nonempty, by
        rw [parts, mapM_eq_ok, List.forall₂_map_left_iff, List.forall₂_map_right_iff,
          List.forall₂_same]
        exact fun field member =>
          structChild_eq_ok _ field.name field.typeStr field.type (named field member)
            (returned field member)⟩
    rw [typeToLogicalType_struct castUInt8 body after last, children]
    rfl

/-! ### What is returned is read -/

theorem mapOfChildren_eq_ok (children : List LogicalType) (type : LogicalType) :
    mapOfChildren children = .ok type ↔
      ∃ key value, children = [key, value] ∧ type = .map key value := by
  unfold mapOfChildren raise
  split
  · simpa using eq_comm
  · rename_i notPair
    refine ⟨nofun, ?_⟩
    rintro ⟨key, value, rfl, _⟩
    exact absurd rfl (notPair key value)

/-- Fields read one by one are read together. -/
theorem exists_readFields {parts : List Text} {children : List (Text × LogicalType)}
    (read : List.Forall₂ (fun part child => ∃ typeStr ignored,
      part = child.1 ++ ':' :: typeStr ∧ ':' ∉ child.1 ∧ Reads castUInt8 typeStr child.2 ignored)
      parts children) :
    ∃ fields : List ReadField, parts = fields.map ReadField.text ∧
      children = fields.map (fun field => (field.name, field.type)) ∧
      (∀ field ∈ fields, ':' ∉ field.name) ∧
      ∀ field ∈ fields, Reads castUInt8 field.typeStr field.type field.ignored := by
  induction read with
  | nil => exact ⟨[], rfl, rfl, by simp, by simp⟩
  | cons head _ inductionHypothesis =>
    obtain ⟨typeStr, ignored, rfl, first, read⟩ := head
    obtain ⟨fields, rfl, rfl, named, reads⟩ := inductionHypothesis
    refine ⟨⟨_, typeStr, _, ignored⟩ :: fields, rfl, rfl, ?_, ?_⟩
    · simpa using ⟨first, named⟩
    · simpa using ⟨read, reads⟩

theorem exists_reads_decimal (numbersOnly : CastsNumbersOnly castUInt8) {inner after : Text}
    (firstEnd : ')' ∉ inner) {type : LogicalType}
    (returned : typeToLogicalType castUInt8 ("decimal(".toList ++ (inner ++ ')' :: after)) =
      .ok type) :
    ∃ ignored, Reads castUInt8 ("decimal(".toList ++ (inner ++ ')' :: after)) type ignored := by
  obtain ⟨precStr, scaleStr, place, equation⟩ :=
    typeToLogicalType_decimal_closed castUInt8 inner after firstEnd
  rw [equation] at returned
  obtain ⟨prec, precision, returned⟩ := (Outcome.bind_eq_ok _ _ _).mp returned
  obtain ⟨scale, scaling, returned⟩ := (Outcome.bind_eq_ok _ _ _).mp returned
  obtain ⟨legal, rfl⟩ := (ofDecimal_eq_ok prec scale type).mp returned
  rw [Outcome.ofExcept_eq_ok] at precision scaling
  rcases place with ⟨rfl, firstComma⟩ | closing
  · exact ⟨after, .decimal precStr scaleStr after prec scale firstComma firstEnd precision scaling
      legal⟩
  · exact absurd closing (numbersOnly precStr prec precision ')' (by decide))

/-- The parts of a body are shorter than the text. -/
theorem length_lt_of_mem_body (opened after : Text) {body part : Text}
    (member : part ∈ split commaMarks 0 body) :
    part.length < (opened ++ (body ++ '>' :: after)).length := by
  have bound := length_le_of_mem_split commaMarks 0 body part member
  rw [List.length_append, List.length_append, List.length_cons]
  omega

theorem exists_reads_map {body after : Text} (last : '>' ∉ after)
    (readPart : ∀ part ∈ split commaMarks 0 body, ∀ child,
      typeToLogicalType castUInt8 part = .ok child → ∃ ignored, Reads castUInt8 part child ignored)
    {type : LogicalType}
    (returned : typeToLogicalType castUInt8 ("map<".toList ++ (body ++ '>' :: after)) = .ok type) :
    ∃ ignored, Reads castUInt8 ("map<".toList ++ (body ++ '>' :: after)) type ignored := by
  rw [typeToLogicalType_map castUInt8 body after last] at returned
  obtain ⟨children, read, returned⟩ := (Outcome.bind_eq_ok _ _ _).mp returned
  obtain ⟨key, value, rfl, rfl⟩ := (mapOfChildren_eq_ok children type).mp returned
  have pairs := (mapM_eq_ok _ _ _).mp ((bodyChildren_eq_ok _ 0 body after _).mp read).2
  rcases parts : split commaMarks 0 body with _ | ⟨keyStr, _ | ⟨valueStr, _ | _⟩⟩ <;>
    rw [parts] at pairs readPart <;> simp only [List.forall₂_nil_left_iff, List.forall₂_cons,
      List.forall₂_nil_right_iff, reduceCtorEq, and_false] at pairs
  obtain ⟨returnedKey, returnedValue, _⟩ := pairs
  obtain ⟨keyIgnored, readKey⟩ := readPart keyStr (by simp) key returnedKey
  obtain ⟨valueIgnored, readValue⟩ := readPart valueStr (by simp) value returnedValue
  exact ⟨_, .map body after keyStr valueStr keyIgnored valueIgnored key value last parts
    readKey readValue⟩

theorem exists_reads_struct {body after : Text} (last : '>' ∉ after)
    (readTail : ∀ name typeStr, name ++ ':' :: typeStr ∈ split commaMarks 0 body → ∀ child,
      typeToLogicalType castUInt8 typeStr = .ok child →
        ∃ ignored, Reads castUInt8 typeStr child ignored)
    {type : LogicalType}
    (returned : typeToLogicalType castUInt8 ("struct<".toList ++ (body ++ '>' :: after)) =
      .ok type) :
    ∃ ignored, Reads castUInt8 ("struct<".toList ++ (body ++ '>' :: after)) type ignored := by
  rw [typeToLogicalType_struct castUInt8 body after last] at returned
  obtain ⟨children, read, same⟩ := (Outcome.bind_eq_ok _ _ _).mp returned
  cases Except.ok.inj same
  have pairs := (mapM_eq_ok _ _ _).mp ((bodyChildren_eq_ok _ 0 body after _).mp read).2
  have readPairs : List.Forall₂ (fun part child => ∃ typeStr ignored,
      part = child.1 ++ ':' :: typeStr ∧ ':' ∉ child.1 ∧
        Reads castUInt8 typeStr child.2 ignored) (split commaMarks 0 body) children := by
    refine ((List.forall₂_and_left _ _).mpr ⟨fun _ member => member, pairs⟩).imp ?_
    rintro part child ⟨member, returned⟩
    rcases structChild_cases (typeToLogicalType castUInt8) part with
      ⟨name, typeStr, rfl, first, equation⟩ | ⟨_, exception, raised⟩
    · rw [equation] at returned
      obtain ⟨type, read, same⟩ := (Outcome.bind_eq_ok _ _ _).mp returned
      cases Except.ok.inj same
      obtain ⟨ignored, read⟩ := readTail name typeStr member type read
      exact ⟨typeStr, ignored, rfl, first, read⟩
    · rw [raised] at returned
      exact nomatch returned
  obtain ⟨fields, parts, rfl, named, reads⟩ := exists_readFields readPairs
  exact ⟨_, .struct body after fields last parts named reads⟩

/-- The parser's results are readings, if the cast accepts numbers only. -/
theorem exists_reads (numbersOnly : CastsNumbersOnly castUInt8) (typeText : Text)
    (type : LogicalType) (returned : typeToLogicalType castUInt8 typeText = .ok type) :
    ∃ ignored, Reads castUInt8 typeText type ignored := by
  induction bound : typeText.length using Nat.strongRecOn generalizing typeText type with
  | _ bound inductionHypothesis =>
    subst bound
    have shorter : ∀ part : Text, part.length < typeText.length → ∀ child,
        typeToLogicalType castUInt8 part = .ok child →
          ∃ ignored, Reads castUInt8 part child ignored := fun part less child read =>
      inductionHypothesis part.length less part child read rfl
    cases shape castUInt8 typeText with
    | primitive _ other known =>
      rw [typeToLogicalType_primitive castUInt8 typeText other known] at returned
      cases Except.ok.inj returned
      exact ⟨[], .primitive typeText type known⟩
    | decimal inner after firstEnd => exact exists_reads_decimal numbersOnly firstEnd returned
    | array body after last =>
      rw [typeToLogicalType_array castUInt8 body after last] at returned
      obtain ⟨child, read, same⟩ := (Outcome.bind_eq_ok _ _ _).mp returned
      cases Except.ok.inj same
      obtain ⟨ignored, read⟩ := shorter body (by simp; omega) child read
      exact ⟨ignored ++ after, .array body after ignored child last read⟩
    | map body after last =>
      exact exists_reads_map last
        (fun part member => shorter part (length_lt_of_mem_body _ after member)) returned
    | struct body after last =>
      refine exists_reads_struct last (fun name typeStr member => shorter typeStr ?_) returned
      have tail : typeStr.length < (name ++ ':' :: typeStr).length := by simp; omega
      exact Nat.lt_trans tail (length_lt_of_mem_body _ after member)
    | unknown _ rejected =>
      rw [typeToLogicalType_unknown castUInt8 typeText rejected] at returned
      exact nomatch returned

theorem readable_iff (numbersOnly : CastsNumbersOnly castUInt8) (typeText : Text) :
    Readable castUInt8 typeText ↔ ∃ type, typeToLogicalType castUInt8 typeText = .ok type :=
  ⟨fun ⟨type, _, read⟩ => ⟨type, read.returned⟩, fun ⟨type, returned⟩ =>
    ⟨type, exists_reads numbersOnly typeText type returned⟩⟩

end Parser

end UcCatalog
