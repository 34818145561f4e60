/-
This file describes the exceptions of the type parser. `Rejects` is the language on
which it raises, with what it raises: next to `Reads` and `Overruns` it is the third
one, and on a text the parser ends as the one language says that has the text.

An exception comes from the first part in the order of the text that is rejected,
behind parts that are read, and it is about a piece of the text: one that no branch
reads, one that is no number, or a struct field without a colon.
-/

import Mathlib.Data.List.TakeWhile
import UcCatalog.TypeBounds

namespace UcCatalog

open Nesting

/-! ### What the parser says -/

/-- What `unknownType` raises. -/
def unknownTypeException (typeText : Text) : Exception where
  type := .notImplementedException
  message := "Tried to fallback to unknown type for '".toList ++ typeText ++ "'".toList

/-- What `LogicalType::DECIMAL` raises. -/
def widthException (width : UInt8) : Exception where
  type := .internalException
  message := "Decimal has a width of ".toList ++ Nat.toDigits 10 width.toNat ++
    " which is bigger than the maximum supported width of 38".toList

/-- What the `map<` branch raises after its loop. -/
def mapSizeException (count : Nat) : Exception where
  type := .notImplementedException
  message := "Invalid map specification with ".toList ++ Nat.toDigits 10 count ++ " types".toList

/-- What the `struct<` branch raises for a field without a colon. -/
def unnamedException (childStr : Text) : Exception where
  type := .notImplementedException
  message := "Invalid struct child type specifier: ".toList ++ childStr

/-! ### The texts that are rejected -/

/-- A text does not begin with an opening and go on to the closing character. -/
def Unclosed (opened : Text) (closing : Char) (typeText : Text) : Prop :=
  ∀ rest, typeText = opened ++ rest → closing ∉ rest

/-- The texts that no branch of the parser reads. -/
structure Unread (typeText : Text) : Prop where
  noName : primitiveTypes.lookup typeText = none
  noDecimal : Unclosed "decimal(".toList ')' typeText
  noArray : Unclosed "array<".toList '>' typeText
  noMap : Unclosed "map<".toList '>' typeText
  noStruct : Unclosed "struct<".toList '>' typeText

/-- The text up to its first comma. -/
def upToComma (text : Text) : Text := text.takeWhile fun char => char ≠ ','

/-- `Rejects typeText exception`: reading the text raises the exception. -/
inductive Rejects (castUInt8 : CastUInt8) : Text → Exception → Prop
  | unread (typeText : Text) (unread : Unread typeText) :
      Rejects castUInt8 typeText (unknownTypeException typeText)
  | precision (rest : Text) (exception : Exception) (closed : ')' ∈ rest)
      (cast : castUInt8 (upToComma rest) = .error exception) :
      Rejects castUInt8 ("decimal(".toList ++ rest) exception
  | scaling (precStr scaleStr after : Text) (prec : UInt8) (exception : Exception)
      (firstComma : ',' ∉ precStr) (firstEnd : ')' ∉ precStr ++ ',' :: scaleStr)
      (precision : castUInt8 precStr = .ok prec) (cast : castUInt8 scaleStr = .error exception) :
      Rejects castUInt8 ("decimal(".toList ++ ((precStr ++ ',' :: scaleStr) ++ ')' :: after))
        exception
  | width (precStr scaleStr after : Text) (prec scale : UInt8) (firstComma : ',' ∉ precStr)
      (firstEnd : ')' ∉ precStr ++ ',' :: scaleStr) (precision : castUInt8 precStr = .ok prec)
      (scaling : castUInt8 scaleStr = .ok scale) (wide : ¬ prec ≤ 38) :
      Rejects castUInt8 ("decimal(".toList ++ ((precStr ++ ',' :: scaleStr) ++ ')' :: after))
        (widthException prec)
  | array (body after : Text) (exception : Exception) (last : '>' ∉ after)
      (child : Rejects castUInt8 body exception) :
      Rejects castUInt8 ("array<".toList ++ (body ++ '>' :: after)) exception
  | mapChild (body after part : Text) (done more : List Text) (exception : Exception)
      (last : '>' ∉ after) (parts : handedParts 0 body after = done ++ part :: more)
      (read : ∀ earlier ∈ done, Readable castUInt8 earlier)
      (child : Rejects castUInt8 part exception) :
      Rejects castUInt8 ("map<".toList ++ (body ++ '>' :: after)) exception
  | mapSize (body after : Text) (last : '>' ∉ after) (ends : ¬ EndsEmpty 0 body)
      (read : ∀ part ∈ split commaMarks 0 body, Readable castUInt8 part)
      (size : (split commaMarks 0 body).length ≠ 2) :
      Rejects castUInt8 ("map<".toList ++ (body ++ '>' :: after))
        (mapSizeException (split commaMarks 0 body).length)
  | structChild (body after name typeStr : Text) (done more : List Text) (exception : Exception)
      (last : '>' ∉ after)
      (parts : handedParts 0 body after = done ++ (name ++ ':' :: typeStr) :: more)
      (named : ':' ∉ name) (read : ∀ earlier ∈ done, ReadableField castUInt8 earlier)
      (child : Rejects castUInt8 typeStr exception) :
      Rejects castUInt8 ("struct<".toList ++ (body ++ '>' :: after)) exception
  | unnamed (body after part : Text) (done more : List Text) (last : '>' ∉ after)
      (parts : handedParts 0 body after = done ++ part :: more) (unnamed : ':' ∉ part)
      (read : ∀ earlier ∈ done, ReadableField castUInt8 earlier) :
      Rejects castUInt8 ("struct<".toList ++ (body ++ '>' :: after)) (unnamedException part)

section Parser

variable {castUInt8 : CastUInt8}

/-! ### Texts that no branch reads -/

theorem rfindChar_of_unclosed {opened typeText : Text} {closing : Char} (plain : closing ∉ opened)
    (unclosed : Unclosed opened closing typeText) (begins : opened <+: typeText) :
    rfindChar closing typeText = npos := by
  obtain ⟨rest, rfl⟩ := begins
  exact rfindChar_of_not_mem closing _ (by simp [plain, unclosed rest rfl])

/-- A text that no branch reads falls to the end of the function. -/
theorem Unread.unknown {typeText : Text} (unread : Unread typeText) :
    typeToLogicalType castUInt8 typeText = unknownType typeText := by
  rw [typeToLogicalType_eq, typeFrame, unread.noName]
  simp only [find_eq_zero]
  split_ifs with decimal array map struct
  · obtain ⟨rest, rfl⟩ := decimal
    have absent : ')' ∉ "decimal(".toList ++ rest := by
      simpa using unread.noDecimal rest rfl
    rw [decimalType]
    simp only [findChar_of_not_mem ')' _ absent]
    rw [if_neg (fun differ => differ rfl)]
  · rw [arrayType]
    simp only [rfindChar_of_unclosed (by decide) unread.noArray array]
    rw [if_neg (fun differ => differ rfl)]
  · rw [mapType]
    simp only [rfindChar_of_unclosed (by decide) unread.noMap map]
    rw [if_neg (fun differ => differ rfl)]
  · rw [structType]
    simp only [rfindChar_of_unclosed (by decide) unread.noStruct struct]
    rw [if_neg (fun differ => differ rfl)]
  · rfl

/-- The texts that a branch reads. -/
inductive Branched : Text → Prop
  | primitive (typeText : Text) (type : LogicalType)
      (known : primitiveTypes.lookup typeText = some type) : Branched typeText
  | decimal (inner after : Text) (first : ')' ∉ inner) :
      Branched ("decimal(".toList ++ (inner ++ ')' :: after))
  | array (body after : Text) (last : '>' ∉ after) :
      Branched ("array<".toList ++ (body ++ '>' :: after))
  | map (body after : Text) (last : '>' ∉ after) :
      Branched ("map<".toList ++ (body ++ '>' :: after))
  | struct (body after : Text) (last : '>' ∉ after) :
      Branched ("struct<".toList ++ (body ++ '>' :: after))

theorem unclosed_or_first (opened typeText : Text) (closing : Char) :
    Unclosed opened closing typeText ∨
      ∃ inner after, typeText = opened ++ (inner ++ closing :: after) ∧ closing ∉ inner := by
  by_cases unclosed : Unclosed opened closing typeText
  · exact Or.inl unclosed
  · simp only [Unclosed, not_forall, not_not] at unclosed
    obtain ⟨rest, rfl, closed⟩ := unclosed
    obtain ⟨inner, after, rfl, first⟩ := List.eq_append_cons_of_mem closed
    exact Or.inr ⟨inner, after, rfl, first⟩

theorem unclosed_or_last (opened typeText : Text) (closing : Char) :
    Unclosed opened closing typeText ∨
      ∃ body after, typeText = opened ++ (body ++ closing :: after) ∧ closing ∉ after := by
  rcases unclosed_or_first opened typeText closing with unclosed | ⟨inner, after, rfl, _⟩
  · exact Or.inl unclosed
  · obtain ⟨body, rest, same, last⟩ := exists_last closing (inner ++ closing :: after) (by simp)
    exact Or.inr ⟨body, rest, by rw [same], last⟩

theorem unread_or_branched (typeText : Text) : Unread typeText ∨ Branched typeText := by
  cases known : primitiveTypes.lookup typeText with
  | some type => exact Or.inr (.primitive typeText type known)
  | none =>
    rcases unclosed_or_first "decimal(".toList typeText ')' with
      noDecimal | ⟨inner, after, rfl, first⟩
    swap
    · exact Or.inr (.decimal inner after first)
    rcases unclosed_or_last "array<".toList typeText '>' with noArray | ⟨body, after, rfl, last⟩
    swap
    · exact Or.inr (.array body after last)
    rcases unclosed_or_last "map<".toList typeText '>' with noMap | ⟨body, after, rfl, last⟩
    swap
    · exact Or.inr (.map body after last)
    rcases unclosed_or_last "struct<".toList typeText '>' with noStruct | ⟨body, after, rfl, last⟩
    swap
    · exact Or.inr (.struct body after last)
    exact Or.inl ⟨known, noDecimal, noArray, noMap, noStruct⟩

/-! ### Decimals -/

theorem upToComma_append_cons {front rest : Text} (noComma : ',' ∉ front) :
    upToComma (front ++ ',' :: rest) = front := by
  have plain : ∀ char ∈ front, decide (char ≠ ',') = true := by
    intro char member
    exact decide_eq_true fun same => noComma (same ▸ member)
  rw [upToComma, List.takeWhile_append_of_pos plain, List.takeWhile_cons_of_neg (by simp),
    List.append_nil]

theorem upToComma_of_not_mem {text : Text} (noComma : ',' ∉ text) : upToComma text = text :=
  List.takeWhile_eq_self_iff.mpr fun _ member =>
    decide_eq_true fun same => noComma (same ▸ member)

theorem upToComma_inside (front text : Text) : upToComma text <:+: front ++ text :=
  (List.takeWhile_prefix _).isInfix.trans (List.suffix_append front text).isInfix

/-- Without a comma before the closing bracket the precision has the bracket in it. -/
theorem mem_upToComma {inner after : Text} (noComma : ',' ∉ inner) :
    ')' ∈ upToComma (inner ++ ')' :: after) := by
  have plain : ∀ char ∈ inner, decide (char ≠ ',') = true := by
    intro char member
    exact decide_eq_true fun same => noComma (same ▸ member)
  rw [upToComma, List.takeWhile_append_of_pos plain, List.takeWhile_cons_of_pos (by decide)]
  exact List.mem_append_right _ List.mem_cons_self

/-- The precision of a closed decimal is what stands before the first comma, wherever that is. -/
theorem typeToLogicalType_decimal_upToComma (rest : Text) (closed : ')' ∈ rest) :
    ∃ scaleStr, typeToLogicalType castUInt8 ("decimal(".toList ++ rest) =
      Outcome.ofExcept (castUInt8 (upToComma rest)) >>= fun prec =>
        Outcome.ofExcept (castUInt8 scaleStr) >>= fun scale =>
          LogicalType.ofDecimal prec scale := by
  obtain ⟨inner, after, rfl, firstEnd⟩ := List.eq_append_cons_of_mem closed
  by_cases comma : ',' ∈ inner
  · obtain ⟨precStr, scaleStr, rfl, firstComma⟩ := List.eq_append_cons_of_mem comma
    refine ⟨scaleStr, ?_⟩
    rw [typeToLogicalType_decimal castUInt8 precStr scaleStr after firstComma firstEnd,
      List.append_assoc, List.cons_append, upToComma_append_cons firstComma]
  · rw [typeToLogicalType_eq, typeFrame_decimal]
    by_cases later : ',' ∈ after
    · obtain ⟨between, rest, rfl, firstComma⟩ := List.eq_append_cons_of_mem later
      have precision : upToComma (inner ++ ')' :: (between ++ ',' :: rest)) =
          inner ++ ')' :: between := by
        have front := @upToComma_append_cons (inner ++ ')' :: between) rest
          (by simp [comma, firstComma])
        rwa [List.append_assoc, List.cons_append] at front
      rw [decimalType_commaBehind castUInt8 inner between rest comma firstComma firstEnd, precision]
      exact ⟨rest, rfl⟩
    · rw [decimalType_noComma castUInt8 inner after comma later firstEnd,
        upToComma_of_not_mem (by simp [comma, later])]
      exact ⟨_, rfl⟩

theorem ofDecimal_wide {prec : UInt8} (scale : UInt8) (wide : ¬ prec ≤ 38) :
    LogicalType.ofDecimal prec scale = .error (.raised (widthException prec)) := by
  rw [LogicalType.ofDecimal, if_neg wide]
  rfl

theorem rejects_decimal (numbersOnly : CastsNumbersOnly castUInt8) {inner after : Text}
    {exception : Exception} (firstEnd : ')' ∉ inner)
    (raised : typeToLogicalType castUInt8 ("decimal(".toList ++ (inner ++ ')' :: after)) =
      .error (.raised exception)) :
    Rejects castUInt8 ("decimal(".toList ++ (inner ++ ')' :: after)) exception := by
  have closed : ')' ∈ inner ++ ')' :: after := List.mem_append_right _ List.mem_cons_self
  obtain ⟨scaleStr, equation⟩ := @typeToLogicalType_decimal_upToComma castUInt8 _ closed
  rw [equation] at raised
  cases precision : castUInt8 (upToComma (inner ++ ')' :: after)) with
  | error other =>
    rw [precision] at raised
    cases raised
    exact .precision _ exception closed precision
  | ok prec =>
    have comma : ',' ∈ inner := by
      by_contra noComma
      exact numbersOnly _ prec precision ')' (by decide) (mem_upToComma noComma)
    obtain ⟨precStr, scaleStr, rfl, firstComma⟩ := List.eq_append_cons_of_mem comma
    rw [List.append_assoc, List.cons_append, upToComma_append_cons firstComma] at precision
    rw [← equation, typeToLogicalType_decimal castUInt8 precStr scaleStr after firstComma firstEnd,
      precision] at raised
    cases scaling : castUInt8 scaleStr with
    | error other =>
      rw [scaling] at raised
      cases raised
      exact .scaling precStr scaleStr after prec exception firstComma firstEnd precision scaling
    | ok scale =>
      rw [scaling] at raised
      by_cases wide : prec ≤ 38
      · cases ((ofDecimal_eq_ok prec scale _).mpr ⟨wide, rfl⟩).symm.trans raised
      · cases (ofDecimal_wide scale wide).symm.trans raised
        exact .width precStr scaleStr after prec scale firstComma firstEnd precision scaling wide

/-! ### Containers -/

/-- The loop over a body raises what the first part raises behind parts that return. -/
theorem bodyChildren_eq_raised {Child : Type} (child : Text → Outcome Child) (body after : Text)
    (exception : Exception) :
    bodyChildren child 0 body after = .error (.raised exception) ↔
      ∃ done part more, handedParts 0 body after = done ++ part :: more ∧
        (∀ earlier ∈ done, ∃ value, child earlier = .ok value) ∧
        child part = .error (.raised exception) := by
  rw [bodyChildren_eq, Outcome.bind_eq_error, mapM_eq_error]
  refine ⟨?_, Or.inl⟩
  rintro (early | ⟨values, _, late⟩)
  · exact early
  · split_ifs at late
    cases late

theorem mapOfChildren_eq_raised (children : List LogicalType) (exception : Exception) :
    mapOfChildren children = .error (.raised exception) ↔
      children.length ≠ 2 ∧ exception = mapSizeException children.length := by
  unfold mapOfChildren
  split
  · simp
  · rename_i notPair
    have size : children.length ≠ 2 := by
      intro two
      obtain ⟨key, value, rfl⟩ := List.length_eq_two.mp two
      exact notPair key value rfl
    refine ⟨?_, ?_⟩
    · rintro ⟨⟩
      exact ⟨size, rfl⟩
    · rintro ⟨_, rfl⟩
      rfl

/-- A map raises what its first rejected part raises, or that it has not two parts. -/
theorem map_eq_raised {body after : Text} (last : '>' ∉ after) (exception : Exception) :
    typeToLogicalType castUInt8 ("map<".toList ++ (body ++ '>' :: after)) =
        .error (.raised exception) ↔
      (∃ done part more, handedParts 0 body after = done ++ part :: more ∧
        (∀ earlier ∈ done, ∃ type, typeToLogicalType castUInt8 earlier = .ok type) ∧
        typeToLogicalType castUInt8 part = .error (.raised exception)) ∨
      ¬ EndsEmpty 0 body ∧
        (∀ part ∈ split commaMarks 0 body, ∃ type, typeToLogicalType castUInt8 part = .ok type) ∧
        (split commaMarks 0 body).length ≠ 2 ∧
        exception = mapSizeException (split commaMarks 0 body).length := by
  rw [typeToLogicalType_map castUInt8 body after last, Outcome.bind_eq_error,
    bodyChildren_eq_raised]
  refine or_congr_right ⟨?_, ?_⟩
  · rintro ⟨children, returned, raised⟩
    obtain ⟨ends, returned⟩ := (bodyChildren_eq_ok _ 0 body after children).mp returned
    have size : (split commaMarks 0 body).length = children.length :=
      ((mapM_eq_ok _ _ _).mp returned).length_eq
    rw [size]
    exact ⟨ends, fun part member => returns_of_mem returned member,
      (mapOfChildren_eq_raised children exception).mp raised⟩
  · rintro ⟨ends, read, size, rfl⟩
    obtain ⟨children, returned⟩ := returns_of_all read
    have sameSize : (split commaMarks 0 body).length = children.length :=
      ((mapM_eq_ok _ _ _).mp returned).length_eq
    rw [sameSize] at size ⊢
    exact ⟨children, (bodyChildren_eq_ok _ 0 body after children).mpr ⟨ends, returned⟩,
      (mapOfChildren_eq_raised children _).mpr ⟨size, rfl⟩⟩

/-- A struct raises what its first rejected field raises. -/
theorem struct_eq_raised {body after : Text} (last : '>' ∉ after) (exception : Exception) :
    typeToLogicalType castUInt8 ("struct<".toList ++ (body ++ '>' :: after)) =
        .error (.raised exception) ↔
      ∃ done part more, handedParts 0 body after = done ++ part :: more ∧
        (∀ earlier ∈ done,
          ∃ child, structChild (typeToLogicalType castUInt8) earlier = .ok child) ∧
        structChild (typeToLogicalType castUInt8) part = .error (.raised exception) := by
  rw [typeToLogicalType_struct castUInt8 body after last, Outcome.bind_eq_error,
    bodyChildren_eq_raised]
  refine ⟨?_, Or.inl⟩
  rintro (early | ⟨children, _, late⟩)
  · exact early
  · cases late

theorem structChild_eq_raised (self : Text → Outcome LogicalType) (part : Text)
    (exception : Exception) :
    structChild self part = .error (.raised exception) ↔
      (∃ name typeStr, part = name ++ ':' :: typeStr ∧ ':' ∉ name ∧
        self typeStr = .error (.raised exception)) ∨
      ':' ∉ part ∧ exception = unnamedException part := by
  by_cases colon : ':' ∈ part
  · obtain ⟨name, typeStr, rfl, first⟩ := List.eq_append_cons_of_mem colon
    rw [structChild_eq self name typeStr first, Outcome.bind_eq_error]
    refine ⟨?_, ?_⟩
    · rintro (early | ⟨type, _, late⟩)
      · exact Or.inl ⟨name, typeStr, rfl, first, early⟩
      · cases late
    · rintro (⟨other, tail, same, otherFirst, raised⟩ | ⟨absent, _⟩)
      · obtain ⟨rfl, rfl⟩ := first_unique first otherFirst same
        exact Or.inl raised
      · exact absurd colon absent
  · rw [structChild_of_not_mem self part colon]
    refine ⟨?_, ?_⟩
    · rintro ⟨⟩
      exact Or.inr ⟨colon, rfl⟩
    · rintro (⟨name, typeStr, rfl, _, _⟩ | ⟨_, rfl⟩)
      · exact absurd (List.mem_append_right _ List.mem_cons_self) colon
      · rfl

/-! ### The parser and the language -/

/-- What the language says is raised. -/
theorem Rejects.raised {typeText : Text} {exception : Exception}
    (rejects : Rejects castUInt8 typeText exception) :
    typeToLogicalType castUInt8 typeText = .error (.raised exception) := by
  have returns : ∀ part, Readable castUInt8 part →
      ∃ type, typeToLogicalType castUInt8 part = .ok type := by
    rintro part ⟨type, _, read⟩
    exact ⟨type, read.returned⟩
  induction rejects with
  | unread typeText unread => exact unread.unknown
  | precision rest exception closed cast =>
    obtain ⟨scaleStr, equation⟩ :=
      @typeToLogicalType_decimal_upToComma castUInt8 rest closed
    rw [equation, cast]
    rfl
  | scaling precStr scaleStr after prec exception firstComma firstEnd precision cast =>
    rw [typeToLogicalType_decimal castUInt8 precStr scaleStr after firstComma firstEnd, precision,
      cast]
    rfl
  | width precStr scaleStr after prec scale firstComma firstEnd precision scaling wide =>
    rw [typeToLogicalType_decimal castUInt8 precStr scaleStr after firstComma firstEnd, precision,
      scaling]
    exact ofDecimal_wide scale wide
  | array body after exception last child inductionHypothesis =>
    rw [typeToLogicalType_array castUInt8 body after last, inductionHypothesis]
    rfl
  | mapChild body after part done more exception last parts read child inductionHypothesis =>
    exact (map_eq_raised last exception).mpr (Or.inl ⟨done, part, more, parts,
      fun earlier member => returns earlier (read earlier member), inductionHypothesis⟩)
  | mapSize body after last ends read size =>
    exact (map_eq_raised last _).mpr
      (Or.inr ⟨ends, fun part member => returns part (read part member), size, rfl⟩)
  | structChild body after name typeStr done more exception last parts named read child
      inductionHypothesis =>
    refine (struct_eq_raised last exception).mpr ⟨done, _, more, parts,
      fun earlier member => readableField_returns (read earlier member), ?_⟩
    exact (structChild_eq_raised _ _ exception).mpr
      (Or.inl ⟨name, typeStr, rfl, named, inductionHypothesis⟩)
  | unnamed body after part done more last parts unnamed read =>
    refine (struct_eq_raised last _).mpr ⟨done, part, more, parts,
      fun earlier member => readableField_returns (read earlier member), ?_⟩
    exact (structChild_eq_raised _ part _).mpr (Or.inr ⟨unnamed, rfl⟩)

theorem rejects_map (numbersOnly : CastsNumbersOnly castUInt8) {body after : Text}
    {exception : Exception} (last : '>' ∉ after)
    (rejectsPart : ∀ part ∈ handedParts 0 body after,
      typeToLogicalType castUInt8 part = .error (.raised exception) →
        Rejects castUInt8 part exception)
    (raised : typeToLogicalType castUInt8 ("map<".toList ++ (body ++ '>' :: after)) =
      .error (.raised exception)) :
    Rejects castUInt8 ("map<".toList ++ (body ++ '>' :: after)) exception := by
  have readable : ∀ part, (∃ type, typeToLogicalType castUInt8 part = .ok type) →
      Readable castUInt8 part := fun part => (readable_iff numbersOnly part).mpr
  rcases (map_eq_raised last exception).mp raised with
    ⟨done, part, more, parts, returned, child⟩ | ⟨ends, returned, size, rfl⟩
  · have member : part ∈ handedParts 0 body after := by simp [parts]
    exact .mapChild body after part done more exception last parts
      (fun earlier inDone => readable earlier (returned earlier inDone))
      (rejectsPart part member child)
  · exact .mapSize body after last ends
      (fun part member => readable part (returned part member)) size

theorem rejects_struct (numbersOnly : CastsNumbersOnly castUInt8) {body after : Text}
    {exception : Exception} (last : '>' ∉ after)
    (rejectsTail : ∀ name typeStr, name ++ ':' :: typeStr ∈ handedParts 0 body after →
      typeToLogicalType castUInt8 typeStr = .error (.raised exception) →
        Rejects castUInt8 typeStr exception)
    (raised : typeToLogicalType castUInt8 ("struct<".toList ++ (body ++ '>' :: after)) =
      .error (.raised exception)) :
    Rejects castUInt8 ("struct<".toList ++ (body ++ '>' :: after)) exception := by
  obtain ⟨done, part, more, parts, returned, child⟩ := (struct_eq_raised last exception).mp raised
  have member : part ∈ handedParts 0 body after := by simp [parts]
  have read : ∀ earlier ∈ done, ReadableField castUInt8 earlier := fun earlier inDone =>
    returns_readableField numbersOnly (returned earlier inDone)
  rcases (structChild_eq_raised _ part exception).mp child with
    ⟨name, typeStr, rfl, named, tail⟩ | ⟨unnamed, rfl⟩
  · exact .structChild body after name typeStr done more exception last parts named read
      (rejectsTail name typeStr member tail)
  · exact .unnamed body after part done more last parts unnamed read

/-- What the parser raises the language says, if the cast accepts numbers only. -/
theorem rejects_of_raised (numbersOnly : CastsNumbersOnly castUInt8) (typeText : Text)
    (exception : Exception)
    (raised : typeToLogicalType castUInt8 typeText = .error (.raised exception)) :
    Rejects castUInt8 typeText exception := by
  induction bound : typeText.length using Nat.strongRecOn generalizing typeText with
  | _ bound inductionHypothesis =>
    subst bound
    have shorter : ∀ part : Text, part.length < typeText.length →
        typeToLogicalType castUInt8 part = .error (.raised exception) →
          Rejects castUInt8 part exception := fun part less raised =>
      inductionHypothesis part.length less part raised rfl
    rcases unread_or_branched typeText with unread | branched
    · cases unread.unknown.symm.trans raised
      exact .unread typeText unread
    · cases branched with
      | primitive _ type known =>
        cases (typeToLogicalType_primitive castUInt8 typeText type known).symm.trans raised
      | decimal inner after firstEnd => exact rejects_decimal numbersOnly firstEnd raised
      | array body after last =>
        rw [typeToLogicalType_array castUInt8 body after last] at raised
        rcases (Outcome.bind_eq_error _ _ _).mp raised with child | ⟨_, _, late⟩
        · exact .array body after exception last (shorter body (by simp; omega) child)
        · cases late
      | map body after last =>
        refine rejects_map numbersOnly last (fun part member => shorter part ?_) raised
        exact length_lt_of_mem_handedParts _ (by decide) member
      | struct body after last =>
        refine rejects_struct numbersOnly last
          (fun name typeStr member => shorter typeStr ?_) raised
        have tail : typeStr.length < (name ++ ':' :: typeStr).length := by simp; omega
        exact Nat.lt_trans tail (length_lt_of_mem_handedParts _ (by decide) member)

/-- The parser raises exactly what the language says, if the cast accepts numbers only. -/
theorem raised_iff_rejects (numbersOnly : CastsNumbersOnly castUInt8) (typeText : Text)
    (exception : Exception) :
    typeToLogicalType castUInt8 typeText = .error (.raised exception) ↔
      Rejects castUInt8 typeText exception :=
  ⟨rejects_of_raised numbersOnly typeText exception, Rejects.raised⟩

/-! ### What an exception is about -/

/-- What is wrong with a piece of a text, and the exception that says so. -/
inductive Complaint (castUInt8 : CastUInt8) (typeText : Text) : Exception → Prop
  | unread (part : Text) (inside : part <:+: typeText) (unread : Unread part) :
      Complaint castUInt8 typeText (unknownTypeException part)
  | numeral (part : Text) (exception : Exception) (inside : part <:+: typeText)
      (cast : castUInt8 part = .error exception) (quoted : part <:+: exception.message) :
      Complaint castUInt8 typeText exception
  | width (part : Text) (prec : UInt8) (inside : part <:+: typeText)
      (precision : castUInt8 part = .ok prec) (wide : ¬ prec ≤ 38) :
      Complaint castUInt8 typeText (widthException prec)
  | mapSize (body : Text) (inside : "map<".toList ++ body ++ ['>'] <:+: typeText)
      (size : (split commaMarks 0 body).length ≠ 2) :
      Complaint castUInt8 typeText (mapSizeException (split commaMarks 0 body).length)
  | unnamed (part : Text) (inside : part <:+: typeText) (unnamed : ':' ∉ part) :
      Complaint castUInt8 typeText (unnamedException part)

theorem Complaint.within {part typeText : Text} {exception : Exception}
    (complaint : Complaint castUInt8 part exception) (inside : part <:+: typeText) :
    Complaint castUInt8 typeText exception := by
  cases complaint with
  | unread piece within unread => exact .unread piece (within.trans inside) unread
  | numeral piece _ within cast quoted =>
    exact .numeral piece exception (within.trans inside) cast quoted
  | width piece prec within precision wide =>
    exact .width piece prec (within.trans inside) precision wide
  | mapSize body within size => exact .mapSize body (within.trans inside) size
  | unnamed piece within unnamed => exact .unnamed piece (within.trans inside) unnamed

theorem infix_of_mem_handedParts {opened body after part : Text}
    (member : part ∈ handedParts 0 body after) :
    part <:+: opened ++ (body ++ '>' :: after) := by
  refine List.IsInfix.trans ?_ (List.suffix_append opened _).isInfix
  unfold handedParts at member
  split_ifs at member
  · exact infix_of_mem_split commaMarks 0 (List.mem_of_mem_dropLast member)
  · exact (infix_of_mem_split commaMarks 0 member).trans (List.prefix_append body _).isInfix

/-- An exception is about a piece that stands in the text. -/
theorem Rejects.complaint (quotes : QuotesRejected castUInt8) {typeText : Text}
    {exception : Exception} (rejects : Rejects castUInt8 typeText exception) :
    Complaint castUInt8 typeText exception := by
  induction rejects with
  | unread typeText unread => exact .unread typeText List.infix_rfl unread
  | precision rest exception closed cast =>
    exact .numeral (upToComma rest) exception (upToComma_inside _ rest) cast (quotes _ _ cast)
  | scaling precStr scaleStr after prec exception firstComma firstEnd precision cast =>
    refine .numeral scaleStr exception ?_ cast (quotes _ _ cast)
    exact ⟨"decimal(".toList ++ precStr ++ [','], ')' :: after, by simp⟩
  | width precStr scaleStr after prec scale firstComma firstEnd precision scaling wide =>
    refine .width precStr prec ?_ precision wide
    exact ⟨"decimal(".toList, ',' :: scaleStr ++ ')' :: after, by simp⟩
  | array body after exception last child inductionHypothesis =>
    exact inductionHypothesis.within ⟨"array<".toList, '>' :: after, by simp⟩
  | mapChild body after part done more exception last parts read child inductionHypothesis =>
    exact inductionHypothesis.within (infix_of_mem_handedParts (by simp [parts]))
  | mapSize body after last ends read size =>
    exact .mapSize body ⟨[], after, by simp⟩ size
  | structChild body after name typeStr done more exception last parts named read child
      inductionHypothesis =>
    have tail : typeStr <:+: name ++ ':' :: typeStr := ⟨name ++ [':'], [], by simp⟩
    exact inductionHypothesis.within
      (tail.trans (infix_of_mem_handedParts (by simp [parts])))
  | unnamed body after part done more last parts unnamed read =>
    exact .unnamed part (infix_of_mem_handedParts (by simp [parts])) unnamed

/-- What the parser raises is about a piece that stands in the text, and quotes it or the number
that is wrong with it. -/
theorem raised_complains (numbersOnly : CastsNumbersOnly castUInt8)
    (quotes : QuotesRejected castUInt8) (typeText : Text) (exception : Exception)
    (raised : typeToLogicalType castUInt8 typeText = .error (.raised exception)) :
    Complaint castUInt8 typeText exception :=
  (rejects_of_raised numbersOnly typeText exception raised).complaint quotes

end Parser

/-- The second type of a map is the first one that is rejected, and it is so by its element. -/
theorem raised_iff_rejects_element :
    Rejects castPlainNumeral "map<int,array<long long>>".toList
      (unknownTypeException "long long".toList) :=
  (raised_iff_rejects castPlainNumeral_numbersOnly _ _).mp (by rfl)

/-- The scale of a decimal inside a struct is no number. -/
theorem raised_complains_scale :
    Complaint castPlainNumeral "array<struct<a:int,b:array<decimal(9,x)>>>".toList
      ⟨.invalidInputException, "Could not convert string 'x' to UINT8".toList⟩ :=
  raised_complains castPlainNumeral_numbersOnly castPlainNumeral_quotes _ _ (by rfl)

end UcCatalog
