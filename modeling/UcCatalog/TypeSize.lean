/-
This file bounds what a type text makes the parser do and build. The texts come from
the server, and the parser calls itself for every type inside another. A text nests
these calls at most once for every five of its characters, those of `map<>`, and
once more, and `nestedMaps` shows that some texts do. The type that is built is
never larger than its text.
-/

import UcCatalog.TypeBounds

namespace UcCatalog

open Nesting

/-! ### The size of a type -/

mutual

/-- The types a type is made of, and the characters of its field names. -/
def LogicalType.size : LogicalType → Nat
  | .list child => child.size + 1
  | .map key value => key.size + value.size + 1
  | .struct children => fieldsSize children + 1
  | _ => 1

def fieldsSize : List (Text × LogicalType) → Nat
  | [] => 0
  | (name, child) :: children => name.length + child.size + fieldsSize children

end

theorem size_le_of_primitive {typeText : Text} {type : LogicalType}
    (known : primitiveTypes.lookup typeText = some type) : type.size ≤ typeText.length := by
  have within : ∀ entry ∈ primitiveTypes, entry.2.size ≤ entry.1.length := by decide
  obtain ⟨before, after, split, _⟩ := List.lookup_eq_some_iff.mp known
  exact within (typeText, type) (split ▸ List.mem_append_right _ List.mem_cons_self)

/-- Fields that are each no larger than their parts of a body are together no larger than the
body. -/
theorem fieldsSize_le {parts : List Text} {children : List (Text × LogicalType)}
    (fit : List.Forall₂ (fun part child => child.1.length + child.2.size ≤ part.length) parts
      children) :
    fieldsSize children ≤ parts.flatten.length := by
  induction fit with
  | nil => exact Nat.le_refl 0
  | @cons part child parts children fits _ inductionHypothesis =>
    rw [fieldsSize, List.flatten_cons, List.length_append]
    omega

/-! ### The parser -/

section Parser

variable {castUInt8 : CastUInt8}

theorem size_of_decimal {typeText : Text} {type : LogicalType} {precStr scaleStr : Text}
    (returned : (Outcome.ofExcept (castUInt8 precStr) >>= fun prec =>
      Outcome.ofExcept (castUInt8 scaleStr) >>= fun scale =>
        LogicalType.ofDecimal prec scale) = .ok type) (nonempty : typeText ≠ []) :
    type.size ≤ typeText.length := by
  obtain ⟨prec, _, next⟩ := (Outcome.bind_eq_ok _ _ _).mp returned
  obtain ⟨scale, _, made⟩ := (Outcome.bind_eq_ok _ _ _).mp next
  obtain ⟨_, rfl⟩ := (ofDecimal_eq_ok prec scale type).mp made
  exact List.length_pos_of_ne_nil nonempty

/-- A body of two types that are no larger than their texts has room for both. -/
theorem size_of_map {body after : Text} {type : LogicalType} (last : '>' ∉ after)
    (fits : ∀ part type, part.length ≤ body.length →
      typeToLogicalType castUInt8 part = .ok type → type.size ≤ part.length)
    (returned : typeToLogicalType castUInt8 ("map<".toList ++ (body ++ '>' :: after)) = .ok type) :
    type.size ≤ body.length := by
  rw [typeToLogicalType_map castUInt8 body after last] at returned
  obtain ⟨children, read, made⟩ := (Outcome.bind_eq_ok _ _ _).mp returned
  obtain ⟨key, value, rfl, rfl⟩ := (mapOfChildren_eq_ok children type).mp made
  have parts := (mapM_eq_ok _ _ _).mp ((bodyChildren_eq_ok _ 0 body after _).mp read).2
  have shorter := length_le_of_mem_split commaMarks 0 body
  have total := length_flatten_split commaMarks 0 body
  cases split : Nesting.split commaMarks 0 body with
  | nil => exact absurd split (split_ne_nil commaMarks 0 body)
  | cons first rest =>
    rw [split] at parts shorter total
    obtain ⟨readKey, pair⟩ := List.forall₂_cons.mp parts
    cases pair with
    | cons readValue none =>
      cases none
      have keyFits := fits _ _ (shorter _ List.mem_cons_self) readKey
      have valueFits := fits _ _
        (shorter _ (List.mem_cons_of_mem _ List.mem_cons_self)) readValue
      rw [LogicalType.size]
      simp only [List.flatten_cons, List.flatten_nil, List.length_append, List.length_cons,
        List.length_nil] at total
      omega

theorem size_of_struct {body after : Text} {type : LogicalType} (last : '>' ∉ after)
    (fits : ∀ part type, part.length ≤ body.length →
      typeToLogicalType castUInt8 part = .ok type → type.size ≤ part.length)
    (returned : typeToLogicalType castUInt8
      ("struct<".toList ++ (body ++ '>' :: after)) = .ok type) :
    type.size ≤ body.length + 1 := by
  rw [typeToLogicalType_struct castUInt8 body after last] at returned
  obtain ⟨children, read, made⟩ := (Outcome.bind_eq_ok _ _ _).mp returned
  cases made
  have parts := (mapM_eq_ok _ _ _).mp ((bodyChildren_eq_ok _ 0 body after _).mp read).2
  have fieldsFit : List.Forall₂ (fun part child => child.1.length + child.2.size ≤ part.length)
      (split commaMarks 0 body) children := by
    refine (List.forall₂_iff_zip.mpr ⟨parts.length_eq, ?_⟩)
    intro part child member
    have childRead := (List.forall₂_iff_zip.mp parts).2 member
    have bound := length_le_of_mem_split commaMarks 0 body part (List.of_mem_zip member).1
    rcases structChild_cases (typeToLogicalType castUInt8) part with
      ⟨name, typeStr, rfl, _, equation⟩ | ⟨_, exception, raised⟩
    · obtain ⟨type, typeRead, same⟩ := (Outcome.bind_eq_ok _ _ _).mp (equation ▸ childRead)
      cases same
      rw [List.length_append, List.length_cons] at bound
      have typeFits := fits typeStr type (by omega) typeRead
      show name.length + type.size ≤ _
      rw [List.length_append, List.length_cons]
      omega
    · exact nomatch raised.symm.trans childRead
  have within := fieldsSize_le fieldsFit
  have total := length_flatten_split commaMarks 0 body
  have some := List.length_pos_of_ne_nil (split_ne_nil commaMarks 0 body)
  rw [LogicalType.size]
  omega

/-- A type is no larger than the text it is read from. -/
theorem size_le {typeText : Text} {type : LogicalType}
    (returned : typeToLogicalType castUInt8 typeText = .ok type) :
    type.size ≤ typeText.length := by
  induction size : typeText.length using Nat.strongRecOn generalizing typeText type with
  | _ bound inductionHypothesis =>
    subst size
    have inside {opened body after : Text} (whole : typeText = opened ++ (body ++ '>' :: after))
        (part : Text) (type : LogicalType) (shorter : part.length ≤ body.length)
        (read : typeToLogicalType castUInt8 part = .ok type) : type.size ≤ part.length := by
      refine inductionHypothesis part.length ?_ read rfl
      rw [whole, length_container, List.length_append]
      omega
    cases shape castUInt8 typeText with
    | primitive _ type known =>
      rw [typeToLogicalType_primitive castUInt8 _ _ known] at returned
      cases returned
      exact size_le_of_primitive known
    | decimal inner after first =>
      obtain ⟨precStr, scaleStr, _, equation⟩ :=
        typeToLogicalType_decimal_closed castUInt8 inner after first
      rw [equation] at returned
      exact size_of_decimal returned (List.append_ne_nil_of_left_ne_nil (by decide) _)
    | array body after last =>
      rw [typeToLogicalType_array castUInt8 body after last] at returned
      obtain ⟨child, read, made⟩ := (Outcome.bind_eq_ok _ _ _).mp returned
      cases made
      have childFits := inside rfl body child (Nat.le_refl _) read
      rw [LogicalType.size, length_container, List.length_append]
      omega
    | map body after last =>
      have fits := size_of_map last (inside rfl) returned
      rw [length_container, List.length_append]
      omega
    | struct body after last =>
      have fits := size_of_struct last (inside rfl) returned
      rw [length_container, List.length_append]
      omega
    | unknown _ rejected =>
      rw [typeToLogicalType_unknown castUInt8 typeText rejected] at returned
      cases returned

/-! ### The calls of a parse -/

/-- Maps in maps around one character, none of them with a second type. -/
def nestedMaps : Nat → Text
  | 0 => "x".toList
  | depth + 1 => "map<".toList ++ (nestedMaps depth ++ ['>'])

theorem length_nestedMaps (depth : Nat) : (nestedMaps depth).length = 5 * depth + 1 := by
  induction depth with
  | zero => rfl
  | succ depth inductionHypothesis =>
    rw [nestedMaps, List.length_append, List.length_append, inductionHypothesis]
    show 4 + (5 * depth + 1 + 1) = _
    omega

theorem nestedMaps_noComma (depth : Nat) : ',' ∉ nestedMaps depth := by
  induction depth with
  | zero => decide
  | succ depth inductionHypothesis =>
    rw [nestedMaps]
    simp [inductionHypothesis]

/-- As many calls as there are maps do not reach the character inside. -/
theorem nestedMaps_diverges (castUInt8 : CastUInt8) (depth : Nat) :
    typeToLogicalTypeFueled castUInt8 depth (nestedMaps depth) = .error .diverges := by
  induction depth with
  | zero => rfl
  | succ depth inductionHypothesis =>
    have nonempty : nestedMaps depth ≠ [] := by
      refine List.ne_nil_of_length_pos ?_
      rw [length_nestedMaps]
      exact Nat.succ_pos _
    have single : split commaMarks 0 (nestedMaps depth) = [nestedMaps depth] := by
      refine split_shielded commaMarks 0 _ ((comma_cases 0 _).resolve_right ?_)
      rintro ⟨front, rest, same, _⟩
      exact nestedMaps_noComma depth (same ▸ List.mem_append_right _ List.mem_cons_self)
    have closed : ¬ EndsEmpty 0 (nestedMaps depth) := by
      rw [EndsEmpty, single]
      exact fun same => nonempty (Option.some.inj same)
    show typeFrame castUInt8 (typeToLogicalTypeFueled castUInt8 depth)
      ("map<".toList ++ (nestedMaps depth ++ '>' :: [])) = _
    rw [typeFrame_map, mapType_eq _ _ [] List.not_mem_nil, bodyChildren, if_neg closed, single,
      List.mapM_cons, inductionHypothesis]
    rfl

/-- The calls of the parse of a text nest no deeper than a fifth of the text allows, and what it
builds is no larger than the text. -/
structure BoundedByText (castUInt8 : CastUInt8) (typeText : Text) : Prop where
  calls : typeToLogicalTypeFueled castUInt8 (typeText.length / 5 + 1) typeText =
    typeToLogicalType castUInt8 typeText
  builds : ∀ type, typeToLogicalType castUInt8 typeText = .ok type → type.size ≤ typeText.length

/-- Every parse is bounded by its text, and the bound on the calls is reached at every depth. -/
theorem parser_boundedByText (castUInt8 : CastUInt8) :
    (∀ typeText, BoundedByText castUInt8 typeText) ∧
      ∀ depth, ∃ typeText : Text, typeText.length / 5 = depth ∧
        typeToLogicalTypeFueled castUInt8 depth typeText ≠
          typeToLogicalType castUInt8 typeText := by
  constructor
  · intro typeText
    exact ⟨typeToLogicalTypeFueled_eq castUInt8 typeText _ _ (Nat.lt_succ_self _) (by omega),
      fun type returned => size_le returned⟩
  · intro depth
    refine ⟨nestedMaps depth, ?_, ?_⟩
    · rw [length_nestedMaps]
      omega
    · rw [nestedMaps_diverges]
      intro diverged
      have settled := @settled_typeToLogicalType castUInt8 (nestedMaps depth)
      rcases settled.error diverged.symm with ⟨_, same⟩ | same
      · exact nomatch same
      · exact nomatch same

end Parser

end UcCatalog
