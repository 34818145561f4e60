/-
This file is about objects as lists of keyed members: what a lookup finds when
the members stand in any order and next to members under other keys. It names no
program. `Holds` says that a list of members has exactly the given fields under
their keys, a field without a value standing for a key that is absent.
-/

import Mathlib.Data.List.Perm.Basic

namespace Members

variable {Key Value : Type} [BEq Key] [LawfulBEq Key]

/-- The members of the fields that have a value. -/
def given (fields : List (Key × Option Value)) : List (Key × Value) :=
  fields.filterMap fun field => field.2.map fun value => (field.1, value)

/-- Under the keys of the fields the members are those of the fields, in any order. -/
def Holds (fields : List (Key × Option Value)) (members : List (Key × Value)) : Prop :=
  (members.filter fun member => member.1 ∈ fields.map Prod.fst).Perm (given fields)

omit [BEq Key] [LawfulBEq Key] in
theorem mem_given (fields : List (Key × Option Value)) (key : Key) (value : Value) :
    (key, value) ∈ given fields ↔ (key, some value) ∈ fields := by
  unfold given
  rw [List.mem_filterMap]
  constructor
  · rintro ⟨⟨other, content⟩, member, same⟩
    obtain ⟨_, rfl, pair⟩ := Option.map_eq_some_iff.mp same
    obtain ⟨rfl, rfl⟩ := Prod.mk.inj pair
    exact member
  · exact fun member => ⟨(key, some value), member, rfl⟩

omit [BEq Key] [LawfulBEq Key] in
theorem given_keys (fields : List (Key × Option Value)) :
    ((given fields).map Prod.fst).Sublist (fields.map Prod.fst) := by
  induction fields with
  | nil => exact .slnil
  | cons field fields inductionHypothesis =>
    obtain ⟨key, content⟩ := field
    cases content with
    | none => exact inductionHypothesis.cons key
    | some value => exact inductionHypothesis.cons_cons key

omit [BEq Key] [LawfulBEq Key] in
/-- Of keys that occur once each, every one has one value. -/
theorem value_unique {Content : Type} {fields : List (Key × Content)}
    (distinct : (fields.map Prod.fst).Nodup) {key : Key} {one other : Content}
    (member : (key, one) ∈ fields) (otherMember : (key, other) ∈ fields) : one = other := by
  induction fields with
  | nil => exact absurd member List.not_mem_nil
  | cons field fields inductionHypothesis =>
    obtain ⟨fresh, apart⟩ := List.nodup_cons.mp distinct
    rcases List.mem_cons.mp member with rfl | inRest
    · rcases List.mem_cons.mp otherMember with same | later
      · exact (Prod.mk.inj same).2.symm
      · exact absurd (List.mem_map_of_mem later) fresh
    · rcases List.mem_cons.mp otherMember with rfl | later
      · exact absurd (List.mem_map_of_mem inRest) fresh
      · exact inductionHypothesis apart inRest later

/-- Where every key occurs once, a lookup finds exactly the members. -/
theorem lookup_iff_mem {members : List (Key × Value)} (distinct : (members.map Prod.fst).Nodup)
    (key : Key) (value : Value) : members.lookup key = some value ↔ (key, value) ∈ members := by
  rw [List.lookup_eq_some_iff]
  constructor
  · rintro ⟨before, behind, rfl, _⟩
    exact List.mem_append_right _ List.mem_cons_self
  · intro member
    obtain ⟨before, behind, rfl⟩ := List.mem_iff_append.mp member
    refine ⟨before, behind, rfl, fun earlier inFront => bne_iff_ne.mpr fun same => ?_⟩
    rw [List.map_append, List.nodup_append] at distinct
    exact distinct.2.2 earlier.1 (List.mem_map_of_mem inFront) key List.mem_cons_self same.symm

/-- Dropping the members under other keys does not change what is found under a key. -/
theorem lookup_filter (keep : Key → Bool) {key : Key} (kept : keep key = true)
    (members : List (Key × Value)) :
    (members.filter fun member => keep member.1).lookup key = members.lookup key := by
  induction members with
  | nil => rfl
  | cons member members inductionHypothesis =>
    obtain ⟨other, value⟩ := member
    by_cases same : key = other
    · subst same
      rw [List.filter_cons, if_pos kept, List.lookup_cons_self, List.lookup_cons_self]
    · have passes : List.lookup key ((other, value) :: members) = members.lookup key := by
        rw [List.lookup_cons, beq_false_of_ne same]
      rw [passes, List.filter_cons]
      split
      · rw [List.lookup_cons, beq_false_of_ne same]
        exact inductionHypothesis
      · exact inductionHypothesis

/-- A lookup under the key of a field finds its value, and nothing if it has none. -/
theorem Holds.lookup {fields : List (Key × Option Value)} {members : List (Key × Value)}
    (holds : Holds fields members) (distinct : (fields.map Prod.fst).Nodup) {key : Key}
    {content : Option Value} (field : (key, content) ∈ fields) :
    members.lookup key = content := by
  have apart : ((members.filter fun member => member.1 ∈ fields.map Prod.fst).map
      Prod.fst).Nodup :=
    (holds.map Prod.fst).nodup_iff.mpr (distinct.sublist (given_keys fields))
  have asked : decide (key ∈ fields.map Prod.fst) = true :=
    decide_eq_true (List.mem_map_of_mem field)
  refine Option.ext fun value => ?_
  calc members.lookup key = some value
      ↔ (members.filter fun member => member.1 ∈ fields.map Prod.fst).lookup key = some value := by
        rw [lookup_filter (fun key => decide (key ∈ fields.map Prod.fst)) asked]
    _ ↔ (key, value) ∈ given fields := by rw [lookup_iff_mem apart, holds.mem_iff]
    _ ↔ (key, some value) ∈ fields := mem_given fields key value
    _ ↔ content = some value :=
        ⟨fun member => value_unique distinct field member, fun same => same ▸ field⟩

end Members
