/-
This file is about the decimals the type parser makes. DuckDB has decimals of a
width from 1 to 38 and a scale of at most the width. The parser leaves the check to
`LogicalType::DECIMAL`, which in a release build compares the width with 38 and looks
at nothing else, so that `decimal(0,0)` and `decimal(5,10)` are read as types.

A decimal of a type that is returned stands in the text at a place where the parser
reads a type (`TypeWithin`), and the other way round. The decimals are therefore legal
exactly where the numbers written at these places are.
-/

import UcCatalog.TypeGrammar

namespace UcCatalog

open Nesting

/-! ### Decimals of a type -/

/-- The type has a decimal of this width and scale, at any depth. -/
inductive LogicalType.HasDecimal (width scale : UInt8) : LogicalType → Prop
  | here : HasDecimal width scale (.decimal width scale)
  | list {child : LogicalType} (inside : HasDecimal width scale child) :
      HasDecimal width scale (.list child)
  | key {key value : LogicalType} (inside : HasDecimal width scale key) :
      HasDecimal width scale (.map key value)
  | value {key value : LogicalType} (inside : HasDecimal width scale value) :
      HasDecimal width scale (.map key value)
  | field {children : List (Text × LogicalType)} {name : Text} {child : LogicalType}
      (member : (name, child) ∈ children) (inside : HasDecimal width scale child) :
      HasDecimal width scale (.struct children)

/-- The decimals DuckDB has. -/
structure LegalDecimal (width scale : UInt8) : Prop where
  positive : 1 ≤ width
  supported : width ≤ 38
  scaled : scale ≤ width

theorem not_hasDecimal_of_plain {type : LogicalType} (plain : type.isPlain = true)
    (width scale : UInt8) : ¬ type.HasDecimal width scale := by
  intro decimal
  cases decimal <;> exact Bool.false_ne_true plain

/-! ### Decimals of a text -/

/-- `TypeWithin part typeText`: the part is the text itself, or stands in it where the parser
reads a type. -/
inductive TypeWithin (part : Text) : Text → Prop
  | here : TypeWithin part part
  | array (body after : Text) (last : '>' ∉ after) (inside : TypeWithin part body) :
      TypeWithin part ("array<".toList ++ (body ++ '>' :: after))
  | map (body after child : Text) (last : '>' ∉ after) (member : child ∈ split commaMarks 0 body)
      (inside : TypeWithin part child) : TypeWithin part ("map<".toList ++ (body ++ '>' :: after))
  | struct (body after name typeStr : Text) (last : '>' ∉ after) (named : ':' ∉ name)
      (member : name ++ ':' :: typeStr ∈ split commaMarks 0 body)
      (inside : TypeWithin part typeStr) :
      TypeWithin part ("struct<".toList ++ (body ++ '>' :: after))

/-- The text of a decimal: two numerals with a comma between them, in brackets. What follows the
closing bracket does not matter. -/
inductive DecimalText (castUInt8 : CastUInt8) (prec scale : UInt8) : Text → Prop
  | mk (precStr scaleStr after : Text) (written : precStr ≠ [] ∧ scaleStr ≠ [])
      (firstComma : ',' ∉ precStr) (firstEnd : ')' ∉ precStr ++ ',' :: scaleStr)
      (precision : castUInt8 precStr = .ok prec) (scaling : castUInt8 scaleStr = .ok scale) :
      DecimalText castUInt8 prec scale
        ("decimal(".toList ++ ((precStr ++ ',' :: scaleStr) ++ ')' :: after))

/-- The text of a legal decimal. -/
def LegalDecimalText (castUInt8 : CastUInt8) (part : Text) : Prop :=
  ∃ prec scale, DecimalText castUInt8 prec scale part ∧ LegalDecimal prec scale

/-- The cast does not take the empty text for a number. -/
def RejectsEmpty (castUInt8 : CastUInt8) : Prop := ∀ number, castUInt8 [] ≠ .ok number

theorem castPlainNumeral_rejectsEmpty : RejectsEmpty castPlainNumeral := by
  intro number accepted
  exact nomatch accepted

section Parser

variable {castUInt8 : CastUInt8}

theorem RejectsEmpty.ne_nil (rejectsEmpty : RejectsEmpty castUInt8) {text : Text} {number : UInt8}
    (accepted : castUInt8 text = .ok number) : text ≠ [] := by
  rintro rfl
  exact rejectsEmpty number accepted

/-! ### What the parser makes of decimals -/

theorem DecimalText.outcome {prec scale : UInt8} {part : Text}
    (decimal : DecimalText castUInt8 prec scale part) :
    typeToLogicalType castUInt8 part = LogicalType.ofDecimal prec scale := by
  obtain ⟨precStr, scaleStr, after, _, firstComma, firstEnd, precision, scaling⟩ := decimal
  rw [typeToLogicalType_decimal castUInt8 precStr scaleStr after firstComma firstEnd, precision,
    scaling]
  rfl

/-- A text that begins as a decimal is the text of one, or the parser raises on it: the bracket is
not closed, or there is no comma in it, or one of the two texts around the comma is no number. -/
theorem decimalText_or_raised (numbersOnly : CastsNumbersOnly castUInt8)
    (rejectsEmpty : RejectsEmpty castUInt8) (rest : Text) :
    (∃ prec scale, DecimalText castUInt8 prec scale ("decimal(".toList ++ rest)) ∨
      ∃ exception,
        typeToLogicalType castUInt8 ("decimal(".toList ++ rest) = .error (.raised exception) := by
  by_cases closed : ')' ∈ rest
  · obtain ⟨inner, after, rfl, firstEnd⟩ := List.eq_append_cons_of_mem closed
    obtain ⟨precStr, scaleStr, place, equation⟩ :=
      typeToLogicalType_decimal_closed castUInt8 inner after firstEnd
    rw [equation]
    rcases castBoth_cases castUInt8 precStr scaleStr LogicalType.ofDecimal with
      ⟨prec, scale, precision, scaling⟩ | raised
    · rcases place with ⟨rfl, firstComma⟩ | closing
      · have written := And.intro (rejectsEmpty.ne_nil precision) (rejectsEmpty.ne_nil scaling)
        exact Or.inl ⟨prec, scale,
          .mk precStr scaleStr after written firstComma firstEnd precision scaling⟩
      · exact absurd closing (numbersOnly precStr prec precision ')' (by decide))
    · exact Or.inr raised
  · rw [typeToLogicalType_decimal_open castUInt8 rest closed]
    exact Or.inr ⟨_, rfl⟩

/-! ### Places in the text and places in the type -/

/-- Where a text is read as a type, so is every part of it, and the decimals of the part are
decimals of the type. -/
theorem returned_within {part typeText : Text} (within : TypeWithin part typeText)
    {type : LogicalType} (returned : typeToLogicalType castUInt8 typeText = .ok type) :
    ∃ child, typeToLogicalType castUInt8 part = .ok child ∧
      ∀ width scale, child.HasDecimal width scale → type.HasDecimal width scale := by
  induction within generalizing type with
  | here => exact ⟨type, returned, fun _ _ => id⟩
  | array body after last inside inductionHypothesis =>
    rw [typeToLogicalType_array castUInt8 body after last] at returned
    obtain ⟨element, readElement, same⟩ := (Outcome.bind_eq_ok _ _ _).mp returned
    cases same
    obtain ⟨child, readPart, carries⟩ := inductionHypothesis readElement
    exact ⟨child, readPart, fun width scale decimal => .list (carries width scale decimal)⟩
  | map body after child last member inside inductionHypothesis =>
    rw [typeToLogicalType_map castUInt8 body after last] at returned
    obtain ⟨children, read, made⟩ := (Outcome.bind_eq_ok _ _ _).mp returned
    obtain ⟨key, value, rfl, rfl⟩ := (mapOfChildren_eq_ok children type).mp made
    have pairs := (mapM_eq_ok _ _ _).mp ((bodyChildren_eq_ok _ 0 body after _).mp read).2
    obtain ⟨childType, inChildren, readChild⟩ := related_of_mem pairs member
    obtain ⟨partType, readPart, carries⟩ := inductionHypothesis readChild
    refine ⟨partType, readPart, fun width scale decimal => ?_⟩
    have carried := carries width scale decimal
    rcases List.mem_pair.mp inChildren with rfl | rfl
    · exact .key carried
    · exact .value carried
  | struct body after name typeStr last named member inside inductionHypothesis =>
    rw [typeToLogicalType_struct castUInt8 body after last] at returned
    obtain ⟨children, read, same⟩ := (Outcome.bind_eq_ok _ _ _).mp returned
    cases same
    have pairs := (mapM_eq_ok _ _ _).mp ((bodyChildren_eq_ok _ 0 body after _).mp read).2
    obtain ⟨child, inChildren, readField⟩ := related_of_mem pairs member
    rw [structChild_eq _ name typeStr named] at readField
    obtain ⟨childType, readChild, sameChild⟩ := (Outcome.bind_eq_ok _ _ _).mp readField
    cases sameChild
    obtain ⟨partType, readPart, carries⟩ := inductionHypothesis readChild
    exact ⟨partType, readPart, fun width scale decimal =>
      .field inChildren (carries width scale decimal)⟩

/-- Every decimal of a type that is read stands in the text. -/
theorem Reads.decimal_within (rejectsEmpty : RejectsEmpty castUInt8) {typeText ignored : Text}
    {type : LogicalType} (read : Reads castUInt8 typeText type ignored) {width scale : UInt8}
    (decimal : type.HasDecimal width scale) :
    width ≤ 38 ∧ ∃ part, TypeWithin part typeText ∧ DecimalText castUInt8 width scale part := by
  induction read with
  | primitive name type known =>
    exact absurd decimal (not_hasDecimal_of_plain (plain_of_lookup known).1 width scale)
  | decimal precStr scaleStr after prec digits firstComma firstEnd precision scaling legal =>
    cases decimal with
    | here =>
      have written := And.intro (rejectsEmpty.ne_nil precision) (rejectsEmpty.ne_nil scaling)
      exact ⟨legal, _, .here,
        .mk precStr scaleStr after written firstComma firstEnd precision scaling⟩
  | array body after ignored child last read inductionHypothesis =>
    cases decimal with
    | list inside =>
      obtain ⟨supported, part, within, text⟩ := inductionHypothesis inside
      exact ⟨supported, part, .array body after last within, text⟩
  | map body after keyStr valueStr keyIgnored valueIgnored key value last parts readKey readValue
      inKey inValue =>
    cases decimal with
    | key inside =>
      obtain ⟨supported, part, within, text⟩ := inKey inside
      exact ⟨supported, part, .map body after keyStr last (by simp [parts]) within, text⟩
    | value inside =>
      obtain ⟨supported, part, within, text⟩ := inValue inside
      exact ⟨supported, part, .map body after valueStr last (by simp [parts]) within, text⟩
  | struct body after fields last parts named read inField =>
    cases decimal with
    | field member inside =>
      obtain ⟨field, inFields, same⟩ := List.mem_map.mp member
      cases same
      obtain ⟨supported, part, within, text⟩ := inField field inFields inside
      have inBody : field.name ++ ':' :: field.typeStr ∈ split commaMarks 0 body := by
        rw [parts]
        exact List.mem_map_of_mem inFields
      exact ⟨supported, part,
        .struct body after field.name field.typeStr last (named field inFields) inBody within, text⟩

/-! ### Legal decimals -/

/-- What is asked of the decimals the parser reads: those of a returned type are legal, and any
other decimal text raises, by itself and in a text that is not overrun. -/
structure DecimalsLegal (castUInt8 : CastUInt8) (typeText : Text) : Prop where
  legal : ∀ type, typeToLogicalType castUInt8 typeText = .ok type →
    ∀ width scale, type.HasDecimal width scale → LegalDecimal width scale
  raised : "decimal(".toList <+: typeText → ¬ LegalDecimalText castUInt8 typeText →
    ∃ exception, typeToLogicalType castUInt8 typeText = .error (.raised exception)
  raisedInside : ∀ part, TypeWithin part typeText → "decimal(".toList <+: part →
    ¬ LegalDecimalText castUInt8 part → ¬ Overruns castUInt8 typeText →
    ∃ exception, typeToLogicalType castUInt8 typeText = .error (.raised exception)

/-- The text is not read as a type, or the decimals in it have a precision from 1 on and a scale
up to the precision. -/
def DecimalsFit (castUInt8 : CastUInt8) (typeText : Text) : Prop :=
  Readable castUInt8 typeText → ∀ part prec scale, TypeWithin part typeText →
    DecimalText castUInt8 prec scale part → 1 ≤ prec ∧ scale ≤ prec

/-- A decimal of a text that is read is a decimal of the type. -/
theorem DecimalText.returned {prec scale : UInt8} {part typeText : Text}
    (decimal : DecimalText castUInt8 prec scale part) (within : TypeWithin part typeText)
    {type : LogicalType} (returned : typeToLogicalType castUInt8 typeText = .ok type) :
    prec ≤ 38 ∧ type.HasDecimal prec scale := by
  obtain ⟨child, readPart, carries⟩ := returned_within within returned
  rw [decimal.outcome] at readPart
  obtain ⟨supported, rfl⟩ := (ofDecimal_eq_ok prec scale child).mp readPart
  exact ⟨supported, carries prec scale .here⟩

section Fit

variable {typeText : Text} (fit : DecimalsFit castUInt8 typeText)
  (numbersOnly : CastsNumbersOnly castUInt8)

include fit numbersOnly

/-- In a text that is read and whose decimals fit, the decimals are legal. -/
theorem DecimalsFit.legalText {part : Text} {prec scale : UInt8} {type : LogicalType}
    (returned : typeToLogicalType castUInt8 typeText = .ok type)
    (within : TypeWithin part typeText) (decimal : DecimalText castUInt8 prec scale part) :
    LegalDecimalText castUInt8 part := by
  have readable := (readable_iff numbersOnly typeText).mpr ⟨type, returned⟩
  obtain ⟨positive, scaled⟩ := fit readable part prec scale within decimal
  exact ⟨prec, scale, decimal, positive, (decimal.returned within returned).1, scaled⟩

variable (rejectsEmpty : RejectsEmpty castUInt8)

include rejectsEmpty

theorem DecimalsFit.legal {type : LogicalType}
    (returned : typeToLogicalType castUInt8 typeText = .ok type) {width scale : UInt8}
    (decimal : type.HasDecimal width scale) : LegalDecimal width scale := by
  obtain ⟨ignored, read⟩ := exists_reads numbersOnly typeText type returned
  obtain ⟨supported, part, within, text⟩ := read.decimal_within rejectsEmpty decimal
  obtain ⟨positive, scaled⟩ := fit ⟨type, ignored, read⟩ part width scale within text
  exact ⟨positive, supported, scaled⟩

/-- A text that is read has no decimal text in it but legal ones. -/
theorem DecimalsFit.not_returned {part : Text} (within : TypeWithin part typeText)
    (begins : "decimal(".toList <+: part) (illegal : ¬ LegalDecimalText castUInt8 part)
    (type : LogicalType) : typeToLogicalType castUInt8 typeText ≠ .ok type := by
  intro returned
  obtain ⟨rest, rfl⟩ := begins
  rcases decimalText_or_raised numbersOnly rejectsEmpty rest with
    ⟨prec, scale, decimal⟩ | ⟨exception, raised⟩
  · exact illegal (fit.legalText numbersOnly returned within decimal)
  · obtain ⟨child, readPart, _⟩ := returned_within within returned
    exact nomatch raised.symm.trans readPart

end Fit

end Parser

/-- The decimals are legal exactly where those written in the text fit. -/
theorem decimalsLegal_iff (castUInt8 : CastUInt8) (numbersOnly : CastsNumbersOnly castUInt8)
    (rejectsEmpty : RejectsEmpty castUInt8) (typeText : Text) :
    DecimalsLegal castUInt8 typeText ↔ DecimalsFit castUInt8 typeText := by
  constructor
  · intro decimals readable part prec scale within decimal
    obtain ⟨type, returned⟩ := (readable_iff numbersOnly typeText).mp readable
    have legal := decimals.legal type returned prec scale (decimal.returned within returned).2
    exact ⟨legal.positive, legal.scaled⟩
  · intro fit
    refine ⟨fun type returned width scale => fit.legal numbersOnly rejectsEmpty returned, ?_, ?_⟩
    · rintro ⟨rest, rfl⟩ illegal
      have rejected := fit.not_returned numbersOnly rejectsEmpty .here
        (List.prefix_append _ _) illegal
      rcases decimalText_or_raised numbersOnly rejectsEmpty rest with
        ⟨prec, scale, decimal⟩ | raised
      · rcases ofDecimal_cases prec scale with returned | ⟨exception, raised⟩
        · exact absurd (decimal.outcome.trans returned) (rejected _)
        · exact ⟨exception, decimal.outcome.trans raised⟩
      · exact raised
    · intro part within begins illegal inside
      rcases @settled_typeToLogicalType castUInt8 typeText with ⟨type, returned⟩ | raised | failed
      · exact absurd returned
          (fit.not_returned numbersOnly rejectsEmpty within begins illegal type)
      · exact raised
      · exact absurd (overruns_of_undefined numbersOnly typeText failed) inside

theorem decimalsLegal_iff_widest :
    DecimalsLegal castPlainNumeral "array<decimal(38,38)>".toList := by
  have returned : typeToLogicalType castPlainNumeral "array<decimal(38,38)>".toList =
      .ok (.list (.decimal 38 38)) := by rfl
  refine (decimalsLegal_iff castPlainNumeral castPlainNumeral_numbersOnly
    castPlainNumeral_rejectsEmpty _).mpr ?_
  intro _ part prec scale within decimal
  cases (decimal.returned within returned).2 with
  | list inside =>
    cases inside
    decide

/-- The parser makes a decimal of width 5 and scale 10. -/
theorem decimalsLegal_largeScale :
    ¬ ∀ castUInt8, CastsNumbersOnly castUInt8 → RejectsEmpty castUInt8 →
      ∀ typeText, DecimalsLegal castUInt8 typeText := by
  intro decimals
  have returned : typeToLogicalType castPlainNumeral "decimal(5,10)".toList =
      .ok (.decimal 5 10) := by rfl
  have legal := (decimals castPlainNumeral castPlainNumeral_numbersOnly
    castPlainNumeral_rejectsEmpty "decimal(5,10)".toList).legal _ returned 5 10 .here
  exact absurd legal.scaled (by decide)

end UcCatalog
