/-
This file ties the type parser to its branches. Every text has one of six shapes
(`shape`): a primitive name, a decimal, array, map or struct text with its
closing bracket, or a text that no branch reads. One call of the parser depends
on the recursive calls at strictly shorter texts only (`typeFrame_congr`), so
the fuel of `typeToLogicalType` never runs out and the parser satisfies one
equation for each shape.
-/

import Mathlib.Data.List.Forall2
import UcCatalog.TypeBranches

namespace UcCatalog

open Nesting

section Parser

variable (castUInt8 : CastUInt8)

/-! ### The shapes of a text -/

theorem lookup_eq_none_of_mem {typeText : Text} (char : Char) (bracket : char ∈ ['(', '<'])
    (member : char ∈ typeText) : primitiveTypes.lookup typeText = none := by
  have plain : ∀ entry ∈ primitiveTypes, '(' ∉ entry.1 ∧ '<' ∉ entry.1 := by decide
  rw [List.lookup_eq_none_iff]
  intro entry inTable
  rw [bne_iff_ne]
  rintro rfl
  simp only [List.mem_cons, List.not_mem_nil, or_false] at bracket
  rcases bracket with rfl | rfl
  · exact (plain entry inTable).1 member
  · exact (plain entry inTable).2 member

/-- The shapes the parser tells apart. -/
inductive Shape : Text → Prop
  | primitive (typeText : Text) (type : LogicalType)
      (known : primitiveTypes.lookup typeText = some type) : Shape typeText
  | decimal (inner after : Text) (first : ')' ∉ inner) :
      Shape ("decimal(".toList ++ (inner ++ ')' :: after))
  | array (body after : Text) (last : '>' ∉ after) :
      Shape ("array<".toList ++ (body ++ '>' :: after))
  | map (body after : Text) (last : '>' ∉ after) : Shape ("map<".toList ++ (body ++ '>' :: after))
  | struct (body after : Text) (last : '>' ∉ after) :
      Shape ("struct<".toList ++ (body ++ '>' :: after))
  | unknown (typeText : Text)
      (rejected : ∀ self, typeFrame castUInt8 self typeText = unknownType typeText) :
      Shape typeText

theorem typeFrame_decimal (self : Text → Outcome LogicalType) (rest : Text) :
    typeFrame castUInt8 self ("decimal(".toList ++ rest) =
      decimalType castUInt8 ("decimal(".toList ++ rest) := by
  rw [typeFrame, lookup_eq_none_of_mem '(' (by decide) (by simp)]
  simp only [find_eq_zero]
  rw [if_pos (List.prefix_append _ _)]

/-- A decimal text that no bracket closes falls to the end of the function. -/
theorem typeFrame_decimal_open (self : Text → Outcome LogicalType) (rest : Text)
    (unclosed : ')' ∉ rest) :
    typeFrame castUInt8 self ("decimal(".toList ++ rest) =
      unknownType ("decimal(".toList ++ rest) := by
  rw [typeFrame_decimal, decimalType]
  simp only [findChar_of_not_mem ')' ("decimal(".toList ++ rest) (by simp [unclosed])]
  rw [if_neg (fun differ => differ rfl)]

theorem typeFrame_array (self : Text → Outcome LogicalType) (rest : Text) :
    typeFrame castUInt8 self ("array<".toList ++ rest) =
      arrayType self ("array<".toList ++ rest) := by
  rw [typeFrame, lookup_eq_none_of_mem '<' (by decide) (by simp)]
  simp only [find_eq_zero]
  rw [if_neg (by simp), if_pos (List.prefix_append _ _)]

theorem typeFrame_map (self : Text → Outcome LogicalType) (rest : Text) :
    typeFrame castUInt8 self ("map<".toList ++ rest) = mapType self ("map<".toList ++ rest) := by
  rw [typeFrame, lookup_eq_none_of_mem '<' (by decide) (by simp)]
  simp only [find_eq_zero]
  rw [if_neg (by simp), if_neg (by simp), if_pos (List.prefix_append _ _)]

theorem typeFrame_struct (self : Text → Outcome LogicalType) (rest : Text) :
    typeFrame castUInt8 self ("struct<".toList ++ rest) =
      structType self ("struct<".toList ++ rest) := by
  rw [typeFrame, lookup_eq_none_of_mem '<' (by decide) (by simp)]
  simp only [find_eq_zero]
  rw [if_neg (by simp), if_neg (by simp), if_neg (by simp), if_pos (List.prefix_append _ _)]

/-- A text with a closing bracket somewhere behind a prefix splits at its last one. -/
theorem closed_or_open (front rest : Text) (plain : '>' ∉ front) :
    (∃ body after, rest = body ++ '>' :: after ∧ '>' ∉ after) ∨
      rfindChar '>' (front ++ rest) = npos := by
  by_cases closed : '>' ∈ rest
  · exact Or.inl (exists_last '>' rest closed)
  · exact Or.inr (rfindChar_of_not_mem '>' _ (by simp [plain, closed]))

theorem shape (typeText : Text) : Shape castUInt8 typeText := by
  cases known : primitiveTypes.lookup typeText with
  | some type => exact .primitive typeText type known
  | none =>
    by_cases decimal : "decimal(".toList <+: typeText
    · obtain ⟨rest, rfl⟩ := decimal
      by_cases closed : ')' ∈ rest
      · obtain ⟨inner, after, rfl, first⟩ := List.eq_append_cons_of_mem closed
        exact .decimal inner after first
      · exact .unknown _ fun self => typeFrame_decimal_open castUInt8 self rest closed
    by_cases array : "array<".toList <+: typeText
    · obtain ⟨rest, rfl⟩ := array
      rcases closed_or_open "array<".toList rest (by decide) with
        ⟨body, after, rfl, last⟩ | unclosed
      · exact .array body after last
      · refine .unknown _ fun self => ?_
        rw [typeFrame_array, arrayType]
        simp only [unclosed]
        rw [if_neg (fun differ => differ rfl)]
    by_cases map : "map<".toList <+: typeText
    · obtain ⟨rest, rfl⟩ := map
      rcases closed_or_open "map<".toList rest (by decide) with ⟨body, after, rfl, last⟩ | unclosed
      · exact .map body after last
      · refine .unknown _ fun self => ?_
        rw [typeFrame_map, mapType]
        simp only [unclosed]
        rw [if_neg (fun differ => differ rfl)]
    by_cases struct : "struct<".toList <+: typeText
    · obtain ⟨rest, rfl⟩ := struct
      rcases closed_or_open "struct<".toList rest (by decide) with
        ⟨body, after, rfl, last⟩ | unclosed
      · exact .struct body after last
      · refine .unknown _ fun self => ?_
        rw [typeFrame_struct, structType]
        simp only [unclosed]
        rw [if_neg (fun differ => differ rfl)]
    · refine .unknown _ fun self => ?_
      rw [typeFrame, known]
      simp only [find_eq_zero]
      rw [if_neg decimal, if_neg array, if_neg map, if_neg struct]

/-! ### The recursive calls are at shorter texts -/

/-- The parts a container hands to its child parser: those of the body, and those behind the
closing bracket when the scan misses it. -/
def handedParts (depth : Int) (body after : Text) : List Text :=
  if EndsEmpty depth body then (split commaMarks depth (body ++ '>' :: after)).dropLast
  else split commaMarks depth body

theorem bodyChildren_eq {Child : Type} (child : Text → Outcome Child) (depth : Int)
    (body after : Text) :
    bodyChildren child depth body after =
      (handedParts depth body after).mapM child >>= fun values =>
        if EndsEmpty depth body then .error (.undefined .readPastEnd) else .ok values := by
  unfold bodyChildren handedParts
  split_ifs with ends
  · rfl
  · cases (split commaMarks depth body).mapM child <;> rfl

/-- The loop over a body returns exactly when its last part is not empty and every part is
read. -/
theorem bodyChildren_eq_ok {Child : Type} (child : Text → Outcome Child) (depth : Int)
    (body after : Text) (values : List Child) :
    bodyChildren child depth body after = .ok values ↔
      ¬ EndsEmpty depth body ∧ (split commaMarks depth body).mapM child = .ok values := by
  unfold bodyChildren
  split_ifs with ends
  · simp only [ends, not_true_eq_false, false_and, iff_false]
    intro returned
    obtain ⟨_, _, failed⟩ := (Outcome.bind_eq_ok _ _ _).mp returned
    exact nomatch failed
  · simp only [ends, not_false_eq_true, true_and]

/-- The loop over a body calls the child on texts no longer than the body and what follows the
closing bracket. -/
theorem bodyChildren_congr {Child : Type} {left right : Text → Outcome Child} (depth : Int)
    (body after : Text)
    (same : ∀ part, part.length ≤ (body ++ after).length → left part = right part) :
    bodyChildren left depth body after = bodyChildren right depth body after := by
  unfold bodyChildren
  split
  · rw [mapM_congr fun part member => same part (by
      have bound := length_lt_of_mem_dropLast_split commaMarks depth member
      rw [List.length_append, List.length_cons] at bound
      rw [List.length_append]
      omega)]
  · refine mapM_congr fun part member => same part ?_
    have bound := length_le_of_mem_split commaMarks depth body part member
    rw [List.length_append]
    omega

theorem length_container (opened body after : Text) :
    (opened ++ (body ++ '>' :: after)).length = (body ++ after).length + (opened.length + 1) := by
  simp only [List.length_append, List.length_cons]
  omega

/-- A struct child calls the parser on a text shorter than its own. -/
theorem structChild_congr {left right : Text → Outcome LogicalType} (childStr : Text)
    (same : ∀ typeStr, typeStr.length ≤ childStr.length → left typeStr = right typeStr) :
    structChild left childStr = structChild right childStr := by
  by_cases colon : ':' ∈ childStr
  · obtain ⟨name, typeStr, rfl, first⟩ := List.eq_append_cons_of_mem colon
    rw [structChild_eq left name typeStr first, structChild_eq right name typeStr first,
      same typeStr (by rw [List.length_append, List.length_cons]; omega)]
  · rw [structChild_of_not_mem left childStr colon, structChild_of_not_mem right childStr colon]

/-- One call of the parser depends on the recursive calls at texts that are shorter by five
characters, those of `map<>`. -/
theorem typeFrame_congr_nested {left right : Text → Outcome LogicalType} (typeText : Text)
    (same : ∀ nested, nested.length + 5 ≤ typeText.length → left nested = right nested) :
    typeFrame castUInt8 left typeText = typeFrame castUInt8 right typeText := by
  cases shape castUInt8 typeText with
  | primitive _ type known => rw [typeFrame, typeFrame, known]
  | decimal inner after first => rw [typeFrame_decimal, typeFrame_decimal]
  | array body after last =>
    rw [typeFrame_array, typeFrame_array, arrayType_eq left body after last,
      arrayType_eq right body after last, same body (by
        rw [length_container "array<".toList, List.length_append]
        exact Nat.add_le_add (Nat.le_add_right _ _) (by decide))]
  | map body after last =>
    rw [typeFrame_map, typeFrame_map, mapType_eq left body after last,
      mapType_eq right body after last]
    rw [bodyChildren_congr 0 body after fun part bound => same part (by
      have whole := length_container "map<".toList body after
      exact Nat.le_trans (Nat.add_le_add_right bound 5) (Nat.le_of_eq whole.symm))]
  | struct body after last =>
    rw [typeFrame_struct, typeFrame_struct, structType_eq left body after last,
      structType_eq right body after last]
    rw [bodyChildren_congr 0 body after fun part bound =>
      structChild_congr part fun typeStr shorter => same typeStr (by
        have whole := length_container "struct<".toList body after
        rw [whole]
        exact Nat.add_le_add (Nat.le_trans shorter bound) (by decide))]
  | unknown _ rejected => rw [rejected left, rejected right]

/-- One call of the parser depends on the recursive calls at strictly shorter texts only. -/
theorem typeFrame_congr {left right : Text → Outcome LogicalType} (typeText : Text)
    (same : ∀ shorter, shorter.length < typeText.length → left shorter = right shorter) :
    typeFrame castUInt8 left typeText = typeFrame castUInt8 right typeText :=
  typeFrame_congr_nested castUInt8 typeText fun nested bound => same nested (by omega)

/-- Calls nest no deeper than a fifth of the text allows. -/
theorem typeToLogicalTypeFueled_eq (typeText : Text) (first second : Nat)
    (enoughFirst : typeText.length / 5 < first) (enoughSecond : typeText.length / 5 < second) :
    typeToLogicalTypeFueled castUInt8 first typeText =
      typeToLogicalTypeFueled castUInt8 second typeText := by
  induction first generalizing second typeText with
  | zero => omega
  | succ first inductionHypothesis =>
    obtain ⟨second, rfl⟩ : ∃ less, second = less + 1 := ⟨second - 1, by omega⟩
    exact typeFrame_congr_nested castUInt8 typeText fun nested bound =>
      inductionHypothesis nested second (by omega) (by omega)

/-- The parser is its own body with the recursive calls in place. -/
theorem typeToLogicalType_eq (typeText : Text) :
    typeToLogicalType castUInt8 typeText =
      typeFrame castUInt8 (typeToLogicalType castUInt8) typeText :=
  typeFrame_congr castUInt8 typeText fun shorter less =>
    typeToLogicalTypeFueled_eq castUInt8 shorter _ _ (by omega) (by omega)

/-! ### One equation for each shape -/

theorem typeToLogicalType_primitive (typeText : Text) (type : LogicalType)
    (known : primitiveTypes.lookup typeText = some type) :
    typeToLogicalType castUInt8 typeText = .ok type := by
  rw [typeToLogicalType_eq, typeFrame, known]

theorem typeToLogicalType_decimal (precStr scaleStr after : Text) (firstComma : ',' ∉ precStr)
    (firstEnd : ')' ∉ precStr ++ ',' :: scaleStr) :
    typeToLogicalType castUInt8
        ("decimal(".toList ++ ((precStr ++ ',' :: scaleStr) ++ ')' :: after)) =
      Outcome.ofExcept (castUInt8 precStr) >>= fun prec =>
        Outcome.ofExcept (castUInt8 scaleStr) >>= fun scale =>
          LogicalType.ofDecimal prec scale := by
  rw [typeToLogicalType_eq, typeFrame_decimal,
    decimalType_eq castUInt8 precStr scaleStr after firstComma firstEnd]

/-- A closed decimal text is read from two texts: those around the comma in the brackets, or else
one that has the closing bracket in it and some other one. -/
theorem typeToLogicalType_decimal_closed (inner after : Text) (firstEnd : ')' ∉ inner) :
    ∃ precStr scaleStr,
      (inner = precStr ++ ',' :: scaleStr ∧ ',' ∉ precStr ∨ ')' ∈ precStr) ∧
        typeToLogicalType castUInt8 ("decimal(".toList ++ (inner ++ ')' :: after)) =
          Outcome.ofExcept (castUInt8 precStr) >>= fun prec =>
            Outcome.ofExcept (castUInt8 scaleStr) >>= fun scale =>
              LogicalType.ofDecimal prec scale := by
  by_cases comma : ',' ∈ inner
  · obtain ⟨precStr, scaleStr, rfl, firstComma⟩ := List.eq_append_cons_of_mem comma
    exact ⟨precStr, scaleStr, Or.inl ⟨rfl, firstComma⟩,
      typeToLogicalType_decimal castUInt8 precStr scaleStr after firstComma firstEnd⟩
  · obtain ⟨precStr, scaleStr, closing, equation⟩ :=
      decimalType_of_not_mem castUInt8 inner after comma firstEnd
    refine ⟨precStr, scaleStr, Or.inr closing, ?_⟩
    rw [typeToLogicalType_eq, typeFrame_decimal, equation]

/-- A decimal text that no bracket closes is no type. -/
theorem typeToLogicalType_decimal_open (rest : Text) (unclosed : ')' ∉ rest) :
    typeToLogicalType castUInt8 ("decimal(".toList ++ rest) =
      unknownType ("decimal(".toList ++ rest) := by
  rw [typeToLogicalType_eq, typeFrame_decimal_open castUInt8 _ rest unclosed]

theorem typeToLogicalType_array (body after : Text) (last : '>' ∉ after) :
    typeToLogicalType castUInt8 ("array<".toList ++ (body ++ '>' :: after)) =
      typeToLogicalType castUInt8 body >>= fun childType => pure (.list childType) := by
  rw [typeToLogicalType_eq, typeFrame_array, arrayType_eq _ body after last]

theorem typeToLogicalType_map (body after : Text) (last : '>' ∉ after) :
    typeToLogicalType castUInt8 ("map<".toList ++ (body ++ '>' :: after)) =
      bodyChildren (typeToLogicalType castUInt8) 0 body after >>= mapOfChildren := by
  rw [typeToLogicalType_eq, typeFrame_map, mapType_eq _ body after last]

theorem typeToLogicalType_struct (body after : Text) (last : '>' ∉ after) :
    typeToLogicalType castUInt8 ("struct<".toList ++ (body ++ '>' :: after)) =
      bodyChildren (structChild (typeToLogicalType castUInt8)) 0 body after >>= fun children =>
        pure (.struct children) := by
  rw [typeToLogicalType_eq, typeFrame_struct, structType_eq _ body after last]

theorem typeToLogicalType_unknown (typeText : Text)
    (rejected : ∀ self, typeFrame castUInt8 self typeText = unknownType typeText) :
    typeToLogicalType castUInt8 typeText = unknownType typeText := by
  rw [typeToLogicalType_eq, rejected]

end Parser

end UcCatalog
