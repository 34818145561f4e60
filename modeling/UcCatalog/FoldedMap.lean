/-
This file is a map whose keys are compared after folding, such as names compared
ignoring case. Two keys that fold to the same value never stand in one map, and
an insertion under a key that is there already is dropped: the first binding
wins. A binding keeps the key it was inserted with.

A map carries the proof that its folded keys differ, so that a binding is found
under its own key (`find_of_mem`) without a further hypothesis. Filling a map
from a list (`insertAll`) finds what the map held, and else the first element of
the list that folds to the key.
-/

import Mathlib.Data.List.Nodup

structure FoldedMap {Key Folded : Type} (fold : Key → Folded) (Value : Type) where
  bindings : List (Key × Value)
  distinct : (bindings.map fun binding => fold binding.1).Nodup

namespace FoldedMap

variable {Key Folded Value : Type} {fold : Key → Folded}

@[ext] theorem ext {first second : FoldedMap fold Value}
    (same : first.bindings = second.bindings) : first = second := by
  cases first
  cases second
  cases same
  rfl

/-- The map without bindings. -/
def empty (fold : Key → Folded) (Value : Type) : FoldedMap fold Value := ⟨[], List.nodup_nil⟩

@[simp] theorem bindings_empty : (empty fold Value).bindings = [] := rfl

variable [DecidableEq Folded]

/-! ### Lookup -/

/-- The value under a key. -/
def find (map : FoldedMap fold Value) (key : Key) : Option Value :=
  (map.bindings.find? fun binding => fold binding.1 = fold key).map Prod.snd

@[simp] theorem find_empty (key : Key) : (empty fold Value).find key = none := rfl

theorem find_congr (map : FoldedMap fold Value) {key other : Key} (same : fold key = fold other) :
    map.find key = map.find other := by
  unfold find
  rw [same]

theorem exists_of_find {map : FoldedMap fold Value} {key : Key} {value : Value}
    (found : map.find key = some value) :
    ∃ bound, (bound, value) ∈ map.bindings ∧ fold bound = fold key := by
  obtain ⟨⟨bound, other⟩, here, rfl⟩ := Option.map_eq_some_iff.mp found
  exact ⟨bound, List.mem_of_find?_eq_some here, by simpa using List.find?_some here⟩

/-- A binding is found under every key that folds to the same value. -/
theorem find_of_mem {map : FoldedMap fold Value} {bound key : Key} {value : Value}
    (member : (bound, value) ∈ map.bindings) (same : fold bound = fold key) :
    map.find key = some value := by
  obtain ⟨bindings, distinct⟩ := map
  unfold find
  rw [← same]
  induction bindings with
  | nil => exact absurd member List.not_mem_nil
  | cons first rest inductionHypothesis =>
    obtain ⟨fresh, distinctRest⟩ := List.nodup_cons.mp distinct
    rcases List.mem_cons.mp member with rfl | inRest
    · rw [List.find?_cons_of_pos (by simp)]
      rfl
    · have differ : fold first.1 ≠ fold bound := fun equal =>
        fresh (List.mem_map.mpr ⟨_, inRest, equal.symm⟩)
      rw [List.find?_cons_of_neg (by simpa using differ)]
      exact inductionHypothesis distinctRest inRest

theorem find_eq_none_iff {map : FoldedMap fold Value} {key : Key} :
    map.find key = none ↔ ∀ binding ∈ map.bindings, fold binding.1 ≠ fold key := by
  unfold find
  rw [Option.map_eq_none_iff, List.find?_eq_none]
  simp

/-! ### Insertion -/

/-- Bind a key, unless it is bound already. -/
def insert (map : FoldedMap fold Value) (key : Key) (value : Value) : FoldedMap fold Value :=
  if absent : map.find key = none then
    { bindings := map.bindings ++ [(key, value)]
      distinct := by
        rw [List.map_append, List.map_singleton, List.nodup_append]
        refine ⟨map.distinct, List.nodup_singleton _, ?_⟩
        intro folded member other here
        rw [List.mem_singleton.mp here]
        obtain ⟨binding, inMap, rfl⟩ := List.mem_map.mp member
        exact find_eq_none_iff.mp absent binding inMap }
  else map

theorem bindings_insert_of_absent {map : FoldedMap fold Value} {key : Key} (value : Value)
    (absent : map.find key = none) :
    (map.insert key value).bindings = map.bindings ++ [(key, value)] := by
  rw [insert, dif_pos absent]

theorem insert_of_present {map : FoldedMap fold Value} {key : Key} (value : Value)
    (present : map.find key ≠ none) : map.insert key value = map := by
  rw [insert, dif_neg present]

theorem mem_insert {map : FoldedMap fold Value} {key : Key} {value : Value}
    {binding : Key × Value} :
    binding ∈ (map.insert key value).bindings ↔
      binding ∈ map.bindings ∨ map.find key = none ∧ binding = (key, value) := by
  by_cases absent : map.find key = none
  · rw [bindings_insert_of_absent value absent, List.mem_append, List.mem_singleton]
    simp [absent]
  · rw [insert_of_present value absent]
    simp [absent]

theorem find_insert (map : FoldedMap fold Value) (key other : Key) (value : Value) :
    (map.insert key value).find other =
      (map.find other).or (if fold key = fold other then some value else none) := by
  by_cases absent : map.find key = none
  · unfold find
    rw [bindings_insert_of_absent value absent, List.find?_append, List.find?_singleton]
    cases map.bindings.find? fun binding => fold binding.1 = fold other with
    | some binding => rfl
    | none => by_cases same : fold key = fold other <;> simp [same]
  · rw [insert_of_present value absent]
    by_cases same : fold key = fold other
    · rw [← find_congr map same]
      obtain ⟨bound, found⟩ := Option.ne_none_iff_exists'.mp absent
      rw [found]
      rfl
    · rw [if_neg same, Option.or_none]

/-! ### Replacing a value -/

/-- Change the value under a key, if it is bound. -/
def update (map : FoldedMap fold Value) (key : Key) (change : Value → Value) :
    FoldedMap fold Value where
  bindings := map.bindings.map fun binding =>
    if fold binding.1 = fold key then (binding.1, change binding.2) else binding
  distinct := by
    have keys : ∀ binding : Key × Value,
        fold (if fold binding.1 = fold key then (binding.1, change binding.2) else binding).1 =
          fold binding.1 := fun binding => by split <;> rfl
    rw [List.map_map]
    exact (List.map_congr_left fun binding _ => keys binding) ▸ map.distinct

theorem mem_update {map : FoldedMap fold Value} {key : Key} {change : Value → Value}
    {bound : Key} {value : Value} :
    (bound, value) ∈ (map.update key change).bindings ↔
      (fold bound ≠ fold key ∧ (bound, value) ∈ map.bindings) ∨
        fold bound = fold key ∧ ∃ old, (bound, old) ∈ map.bindings ∧ value = change old := by
  unfold update
  simp only [List.mem_map]
  constructor
  · rintro ⟨⟨other, old⟩, member, same⟩
    split at same
    · rename_i here
      obtain ⟨rfl, rfl⟩ := Prod.mk.inj same
      exact Or.inr ⟨here, old, member, rfl⟩
    · rename_i elsewhere
      obtain ⟨rfl, rfl⟩ := Prod.mk.inj same
      exact Or.inl ⟨elsewhere, member⟩
  · rintro (⟨elsewhere, member⟩ | ⟨here, old, member, rfl⟩)
    · exact ⟨(bound, value), member, by rw [if_neg elsewhere]⟩
    · exact ⟨(bound, old), member, by rw [if_pos here]⟩

theorem find_update (map : FoldedMap fold Value) (key other : Key) (change : Value → Value) :
    (map.update key change).find other =
      if fold other = fold key then (map.find other).map change else map.find other := by
  cases found : map.find other with
  | none =>
    have absent : (map.update key change).find other = none := by
      rw [find_eq_none_iff] at found ⊢
      rintro ⟨bound, value⟩ member
      rcases mem_update.mp member with ⟨_, inMap⟩ | ⟨_, old, inMap, _⟩
      · exact found (bound, value) inMap
      · exact found (bound, old) inMap
    rw [absent, Option.map_none, ite_self]
  | some value =>
    obtain ⟨bound, member, same⟩ := exists_of_find found
    split_ifs with here
    · exact find_of_mem (mem_update.mpr (Or.inr ⟨same.trans here, value, member, rfl⟩)) same
    · exact find_of_mem
        (mem_update.mpr (Or.inl ⟨fun equal => here (same.symm.trans equal), member⟩)) same

@[simp] theorem update_empty (key : Key) (change : Value → Value) :
    (empty fold Value).update key change = empty fold Value := rfl

theorem update_eq_self {map : FoldedMap fold Value} {key : Key} {value : Value}
    (found : map.find key = some value) {change : Value → Value} (same : change value = value) :
    map.update key change = map := by
  apply ext
  show map.bindings.map _ = _
  conv_rhs => rw [← List.map_id map.bindings]
  refine List.map_congr_left ?_
  rintro ⟨bound, other⟩ member
  split
  · rename_i here
    obtain rfl : other = value := Option.some.inj ((find_of_mem member here).symm.trans found)
    rw [same]
    rfl
  · rfl

/-- A change that leaves the keys alone can be made before an insertion. -/
theorem update_insert (map : FoldedMap fold Value) (key bound : Key) (value : Value)
    (change : Value → Value) :
    (map.insert bound value).update key change =
      (map.update key change).insert bound
        (if fold bound = fold key then change value else value) := by
  have updated : (map.update key change).find bound = none ↔ map.find bound = none := by
    rw [find_update]
    split
    · rw [Option.map_eq_none_iff]
    · rfl
  by_cases absent : map.find bound = none
  · apply ext
    rw [bindings_insert_of_absent _ (updated.mpr absent)]
    show ((map.insert bound value).bindings.map _) = _
    rw [bindings_insert_of_absent value absent, List.map_append, List.map_singleton]
    show _ ++ [if fold bound = fold key then _ else _] = _
    split <;> rfl
  · rw [insert_of_present value absent, insert_of_present _ fun none => absent (updated.mp none)]

/-! ### Removal, and a change of every value -/

/-- Remove the binding of a key. -/
def erase (map : FoldedMap fold Value) (key : Key) : FoldedMap fold Value where
  bindings := map.bindings.filter fun binding => fold binding.1 ≠ fold key
  distinct := map.distinct.sublist (List.filter_sublist.map _)

theorem find_erase (map : FoldedMap fold Value) (key other : Key) :
    (map.erase key).find other = if fold other = fold key then none else map.find other := by
  unfold find erase
  rw [List.find?_filter]
  split_ifs with same
  · rw [Option.map_eq_none_iff, List.find?_eq_none]
    intro binding _
    simp [same]
  · congr 2
    funext binding
    by_cases here : fold binding.1 = fold other
    · simp [here, same]
    · simp [here]

/-- Change the values and leave the keys. -/
def mapValues (map : FoldedMap fold Value) (change : Value → Value) : FoldedMap fold Value where
  bindings := map.bindings.map fun binding => (binding.1, change binding.2)
  distinct := by
    rw [List.map_map]
    exact map.distinct

theorem find_mapValues (map : FoldedMap fold Value) (change : Value → Value) (key : Key) :
    (map.mapValues change).find key = (map.find key).map change := by
  unfold find mapValues
  rw [List.find?_map, Option.map_map, Option.map_map]
  rfl

theorem mapValues_insert (map : FoldedMap fold Value) (key : Key) (value : Value)
    (change : Value → Value) :
    (map.insert key value).mapValues change = (map.mapValues change).insert key (change value) := by
  have mapped : (map.mapValues change).find key = none ↔ map.find key = none := by
    rw [find_mapValues, Option.map_eq_none_iff]
  by_cases absent : map.find key = none
  · apply ext
    rw [bindings_insert_of_absent _ (mapped.mpr absent)]
    show (map.insert key value).bindings.map _ = _
    rw [bindings_insert_of_absent value absent, List.map_append, List.map_singleton]
    rfl
  · rw [insert_of_present value absent, insert_of_present _ fun none => absent (mapped.mp none)]

theorem mapValues_erase (map : FoldedMap fold Value) (key : Key) (change : Value → Value) :
    (map.erase key).mapValues change = (map.mapValues change).erase key := by
  apply ext
  show (map.bindings.filter _).map _ = (map.bindings.map _).filter _
  rw [List.filter_map]
  rfl

/-- A value is replaced by another one before or after all values are changed. -/
theorem mapValues_update (map : FoldedMap fold Value) (key : Key) (value : Value)
    (change : Value → Value) :
    (map.update key fun _ => value).mapValues change =
      (map.mapValues change).update key fun _ => change value := by
  apply ext
  show (map.bindings.map _).map _ = (map.bindings.map _).map _
  rw [List.map_map, List.map_map]
  refine List.map_congr_left fun binding _ => ?_
  rw [Function.comp_apply, Function.comp_apply]
  by_cases here : fold binding.1 = fold key
  · rw [if_pos here, if_pos here]
  · rw [if_neg here, if_neg here]

omit [DecidableEq Folded] in
/-- Changes of all values that can be made in either order. -/
theorem mapValues_comm (map : FoldedMap fold Value) {first second other : Value → Value}
    (commute : ∀ value, second (first value) = first (other value)) :
    (map.mapValues first).mapValues second = (map.mapValues other).mapValues first := by
  apply ext
  show (map.bindings.map _).map _ = (map.bindings.map _).map _
  rw [List.map_map, List.map_map]
  exact List.map_congr_left fun binding _ => congrArg (Prod.mk binding.1) (commute binding.2)

/-! ### Assignment -/

/-- Bind a key to a value, in place of the value it is bound to if there is one. -/
def assign (map : FoldedMap fold Value) (key : Key) (value : Value) : FoldedMap fold Value :=
  (map.insert key value).update key fun _ => value

theorem find_assign (map : FoldedMap fold Value) (key other : Key) (value : Value) :
    (map.assign key value).find other =
      if fold key = fold other then some value else map.find other := by
  unfold assign
  rw [find_update, find_insert]
  by_cases same : fold key = fold other
  · rw [if_pos same.symm, if_pos same, if_pos same]
    cases map.find other <;> rfl
  · rw [if_neg (Ne.symm same), if_neg same, if_neg same, Option.or_none]

theorem mapValues_assign (map : FoldedMap fold Value) (key : Key) (value : Value)
    (change : Value → Value) :
    (map.assign key value).mapValues change =
      (map.mapValues change).assign key (change value) := by
  unfold assign
  rw [mapValues_update, mapValues_insert]

/-- A value is changed before or after another one is assigned. -/
theorem update_assign (map : FoldedMap fold Value) (key bound : Key) (value : Value)
    (change : Value → Value) :
    (map.assign bound value).update key change =
      (map.update key change).assign bound
        (if fold bound = fold key then change value else value) := by
  unfold assign
  rw [← update_insert]
  apply ext
  show ((map.insert bound value).bindings.map _).map _ =
    ((map.insert bound value).bindings.map _).map _
  rw [List.map_map, List.map_map]
  refine List.map_congr_left fun binding _ => ?_
  rw [Function.comp_apply, Function.comp_apply]
  by_cases here : fold binding.1 = fold bound
  · by_cases same : fold bound = fold key
    · simp [here, same]
    · simp [here, same]
  · by_cases there : fold binding.1 = fold key
    · have differ : fold key ≠ fold bound := there ▸ here
      simp [there, differ]
    · simp [here, there]

/-- Assign the bindings of a list in order. -/
def assignAll (map : FoldedMap fold Value) (assigned : List (Key × Value)) :
    FoldedMap fold Value :=
  assigned.foldl (fun filled binding => filled.assign binding.1 binding.2) map

/-- A change under a key that is not assigned can be made before. -/
theorem update_assignAll (map : FoldedMap fold Value) {assigned : List (Key × Value)} {key : Key}
    (others : ∀ binding ∈ assigned, fold binding.1 ≠ fold key) (change : Value → Value) :
    (map.assignAll assigned).update key change = (map.update key change).assignAll assigned := by
  induction assigned generalizing map with
  | nil => rfl
  | cons first rest inductionHypothesis =>
    show ((map.assign first.1 first.2).assignAll rest).update key change = _
    rw [inductionHypothesis _ fun binding member => others binding (List.mem_cons_of_mem _ member),
      update_assign, if_neg (others first List.mem_cons_self)]
    rfl

/-- Keys that differ after folding are found with what they are assigned, and any other key with
what the map held. -/
theorem find_assignAll (map : FoldedMap fold Value) {assigned : List (Key × Value)}
    (apart : (assigned.map fun binding => fold binding.1).Nodup) (key : Key) :
    (map.assignAll assigned).find key =
      ((assigned.find? fun binding => fold binding.1 = fold key).map Prod.snd).or
        (map.find key) := by
  induction assigned generalizing map with
  | nil => rfl
  | cons first rest inductionHypothesis =>
    obtain ⟨fresh, apartRest⟩ := List.nodup_cons.mp apart
    show ((map.assign first.1 first.2).assignAll rest).find key = _
    rw [inductionHypothesis _ apartRest, find_assign]
    by_cases same : fold first.1 = fold key
    · have absent : rest.find? (fun binding => fold binding.1 = fold key) = none := by
        rw [List.find?_eq_none]
        intro binding member equal
        refine fresh (List.mem_map.mpr ⟨binding, member, ?_⟩)
        exact (of_decide_eq_true equal).trans same.symm
      rw [absent, if_pos same, List.find?_cons_of_pos (by simpa using same)]
      rfl
    · rw [if_neg same, List.find?_cons_of_neg (by simpa using same)]

/-! ### Filling a map from a list -/

/-- Insert the values of a list in order, each under its own key. -/
def insertAll (keyOf : Value → Key) (map : FoldedMap fold Value) (values : List Value) :
    FoldedMap fold Value :=
  values.foldl (fun filled value => filled.insert (keyOf value) value) map

section InsertAll

variable (keyOf : Value → Key)

@[simp] theorem insertAll_nil (map : FoldedMap fold Value) : insertAll keyOf map [] = map := rfl

theorem insertAll_cons (map : FoldedMap fold Value) (value : Value) (values : List Value) :
    insertAll keyOf map (value :: values) =
      insertAll keyOf (map.insert (keyOf value) value) values := rfl

/-- A filled map finds what the map held, and else the first value whose key folds to the key. -/
theorem find_insertAll (map : FoldedMap fold Value) (values : List Value) (key : Key) :
    (insertAll keyOf map values).find key =
      (map.find key).or (values.find? fun value => fold (keyOf value) = fold key) := by
  induction values generalizing map with
  | nil => rw [insertAll_nil, List.find?_nil, Option.or_none]
  | cons value values inductionHypothesis =>
    rw [insertAll_cons, inductionHypothesis, find_insert, Option.or_assoc]
    by_cases same : fold (keyOf value) = fold key
    · rw [if_pos same, List.find?_cons_of_pos (by simpa using same)]
      rfl
    · rw [if_neg same, List.find?_cons_of_neg (by simpa using same)]
      rfl

/-- Every binding of a filled map is from the map or from the list. -/
theorem mem_insertAll {map : FoldedMap fold Value} {values : List Value} {binding : Key × Value}
    (member : binding ∈ (insertAll keyOf map values).bindings) :
    binding ∈ map.bindings ∨ binding.2 ∈ values ∧ binding.1 = keyOf binding.2 := by
  induction values generalizing map with
  | nil => exact Or.inl member
  | cons value values inductionHypothesis =>
    rcases inductionHypothesis member with inserted | ⟨inRest, bound⟩
    · rcases mem_insert.mp inserted with inMap | ⟨_, rfl⟩
      · exact Or.inl inMap
      · exact Or.inr ⟨List.mem_cons_self, rfl⟩
    · exact Or.inr ⟨List.mem_cons_of_mem _ inRest, bound⟩

/-- Changes that leave the keys alone can be made in the list. -/
theorem update_insertAll (map : FoldedMap fold Value) (values : List Value) (key : Key)
    (change : Value → Value) (keeps : ∀ value, keyOf (change value) = keyOf value) :
    (insertAll keyOf map values).update key change =
      insertAll keyOf (map.update key change)
        (values.map fun value =>
          if fold (keyOf value) = fold key then change value else value) := by
  induction values generalizing map with
  | nil => rfl
  | cons value values inductionHypothesis =>
    rw [insertAll_cons, inductionHypothesis, update_insert, List.map_cons, insertAll_cons]
    congr 2
    split
    · exact (keeps value).symm
    · rfl

/-- The values of a list whose keys no earlier one folds to. -/
def firstOccurrences (keyOf : Value → Key) (fold : Key → Folded) (values : List Value) :
    List Value :=
  values.eraseDupsBy fun later earlier => fold (keyOf later) = fold (keyOf earlier)

/-- A list adds the first occurrences of the keys that are not bound yet. -/
theorem bindings_insertAll (map : FoldedMap fold Value) (values : List Value) :
    (insertAll keyOf map values).bindings =
      map.bindings ++ (firstOccurrences keyOf fold
        (values.filter fun value => map.find (keyOf value) = none)).map
          fun value => (keyOf value, value) := by
  induction values generalizing map with
  | nil => simp [firstOccurrences]
  | cons value values inductionHypothesis =>
    rw [insertAll_cons, inductionHypothesis]
    by_cases absent : map.find (keyOf value) = none
    · rw [List.filter_cons_of_pos (by simpa using absent), bindings_insert_of_absent value absent,
        firstOccurrences, firstOccurrences, List.eraseDupsBy_cons, List.filter_filter,
        List.append_assoc, List.singleton_append, List.map_cons]
      congr 5
      funext other
      rw [find_insert]
      by_cases same : fold (keyOf value) = fold (keyOf other)
      · simp [same]
      · simp [same, Ne.symm same]
    · rw [List.filter_cons_of_neg (by simpa using absent), insert_of_present value absent]

theorem bindings_insertAll_empty (values : List Value) :
    (insertAll keyOf (empty fold Value) values).bindings =
      (firstOccurrences keyOf fold values).map fun value => (keyOf value, value) := by
  rw [bindings_insertAll, bindings_empty, List.nil_append, List.filter_eq_self.mpr]
  intro value _
  rfl

/-- First occurrences survive a change that leaves the keys alone. -/
theorem firstOccurrences_map {Other : Type} {keyOfOther : Other → Key} (change : Value → Other)
    (keeps : ∀ value, keyOfOther (change value) = keyOf value) (values : List Value) :
    firstOccurrences keyOfOther fold (values.map change) =
      (firstOccurrences keyOf fold values).map change := by
  match values with
  | [] => rfl
  | value :: values =>
    rw [firstOccurrences, firstOccurrences, List.map_cons, List.eraseDupsBy_cons,
      List.eraseDupsBy_cons, List.map_cons, List.filter_map]
    have rest := firstOccurrences_map change keeps
      (values.filter fun other => decide (fold (keyOf other) = fold (keyOf value)) = false)
    rw [firstOccurrences, firstOccurrences] at rest
    rw [← rest]
    congr 4
    funext other
    simp only [Function.comp_apply, keeps]
termination_by values.length
decreasing_by exact Nat.lt_succ_of_le (List.length_filter_le _ values)

/-- Values whose keys fold to different values are all first occurrences. -/
theorem firstOccurrences_eq_self {values : List Value}
    (distinct : values.Pairwise fun value other => fold (keyOf value) ≠ fold (keyOf other)) :
    firstOccurrences keyOf fold values = values := by
  induction values with
  | nil => rfl
  | cons value values inductionHypothesis =>
    obtain ⟨differ, distinctRest⟩ := List.pairwise_cons.mp distinct
    rw [firstOccurrences, List.eraseDupsBy_cons, List.filter_eq_self.mpr]
    · exact congrArg _ (inductionHypothesis distinctRest)
    · intro other member
      simpa using Ne.symm (differ other member)

end InsertAll

end FoldedMap
