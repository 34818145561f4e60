/-
This file splits a list at the separators that stand outside all brackets. It
names no program: a reader of nested text counts the brackets it has passed and
takes a separator as its own when the counter is at zero or below, which is the
rule `split` states once.

The two results the readers of nested text need are the decomposition of a text
at its first separator (`split_cases`), and its converse for text put together
from parts whose separators are all enclosed (`split_append`,
`split_separator`). Text in which every bracket closes is enclosed as soon as
it stands at positive depth (`Balanced.shielded`).
-/

import Mathlib.Data.List.Basic

namespace Nesting

/-- The three symbols that give a list its nesting. -/
structure Marks (Symbol : Type) where
  separator : Symbol
  opening : Symbol
  closing : Symbol
  separator_ne_opening : separator ≠ opening
  separator_ne_closing : separator ≠ closing
  opening_ne_closing : opening ≠ closing

variable {Symbol : Type} [DecidableEq Symbol] (marks : Marks Symbol)

/-! ### The bracket counter -/

/-- The counter after one more symbol. -/
def bump (depth : Int) (symbol : Symbol) : Int :=
  if symbol = marks.opening then depth + 1
  else if symbol = marks.closing then depth - 1
  else depth

/-- The counter after a whole text. -/
def depthAfter (depth : Int) (text : List Symbol) : Int :=
  text.foldl (bump marks) depth

@[simp] theorem depthAfter_nil (depth : Int) : depthAfter marks depth [] = depth := rfl

@[simp] theorem depthAfter_cons (depth : Int) (symbol : Symbol) (rest : List Symbol) :
    depthAfter marks depth (symbol :: rest) = depthAfter marks (bump marks depth symbol) rest :=
  rfl

@[simp] theorem depthAfter_append (depth : Int) (front rest : List Symbol) :
    depthAfter marks depth (front ++ rest) = depthAfter marks (depthAfter marks depth front) rest :=
  List.foldl_append

theorem bump_shift (depth offset : Int) (symbol : Symbol) :
    bump marks (offset + depth) symbol = offset + bump marks depth symbol := by
  unfold bump
  split_ifs <;> omega

/-- The counter moves by the same amount from every start. -/
theorem depthAfter_shift (offset depth : Int) (text : List Symbol) :
    depthAfter marks (offset + depth) text = offset + depthAfter marks depth text := by
  induction text generalizing depth with
  | nil => rfl
  | cons symbol rest inductionHypothesis =>
    rw [depthAfter_cons, bump_shift, inductionHypothesis, depthAfter_cons]

theorem depthAfter_eq_add (depth : Int) (text : List Symbol) :
    depthAfter marks depth text = depth + depthAfter marks 0 text := by
  have shifted := depthAfter_shift marks depth 0 text
  rwa [Int.add_zero] at shifted

/-! ### Splitting at the separators outside all brackets -/

/-- Put text in front of the first part. -/
def prepend (front : List Symbol) : List (List Symbol) → List (List Symbol)
  | [] => [front]
  | part :: parts => (front ++ part) :: parts

/-- The parts of a text between the separators met while the counter is at zero or below. The
counter is not reset between the parts. -/
def split : Int → List Symbol → List (List Symbol)
  | _, [] => [[]]
  | depth, symbol :: rest =>
    if symbol = marks.separator ∧ depth ≤ 0 then [] :: split depth rest
    else prepend [symbol] (split (bump marks depth symbol) rest)

@[simp] theorem split_nil (depth : Int) : split marks depth [] = [[]] := rfl

omit [DecidableEq Symbol] in
theorem prepend_ne_nil (front : List Symbol) (parts : List (List Symbol)) :
    prepend front parts ≠ [] := by
  cases parts <;> exact List.cons_ne_nil _ _

theorem split_ne_nil (depth : Int) (text : List Symbol) : split marks depth text ≠ [] := by
  cases text with
  | nil => exact List.cons_ne_nil _ _
  | cons symbol rest =>
    unfold split
    split
    · exact List.cons_ne_nil _ _
    · exact prepend_ne_nil _ _

/-- A separator at depth zero or below ends the current part. -/
theorem split_separator (depth : Int) (outside : depth ≤ 0) (rest : List Symbol) :
    split marks depth (marks.separator :: rest) = [] :: split marks depth rest := by
  rw [split, if_pos ⟨rfl, outside⟩]

/-- Every separator of the text stands at positive depth, counting from `depth`. -/
def Shielded : Int → List Symbol → Prop
  | _, [] => True
  | depth, symbol :: rest =>
    (symbol = marks.separator → 0 < depth) ∧ Shielded (bump marks depth symbol) rest

/-- Shielded text in front of a text lands in the first part. -/
theorem split_append (depth : Int) (front rest : List Symbol)
    (shielded : Shielded marks depth front) :
    split marks depth (front ++ rest) =
      prepend front (split marks (depthAfter marks depth front) rest) := by
  induction front generalizing depth with
  | nil =>
    have nonempty := split_ne_nil marks depth rest
    rw [List.nil_append, depthAfter_nil]
    cases parts : split marks depth rest with
    | nil => exact absurd parts nonempty
    | cons part others => rfl
  | cons symbol front inductionHypothesis =>
    have enclosed : ¬ (symbol = marks.separator ∧ depth ≤ 0) := fun both =>
      absurd (shielded.1 both.1) (by omega)
    rw [List.cons_append, split, if_neg enclosed, inductionHypothesis _ shielded.2,
      depthAfter_cons]
    cases split marks (depthAfter marks (bump marks depth symbol) front) rest <;> rfl

theorem split_shielded (depth : Int) (text : List Symbol) (shielded : Shielded marks depth text) :
    split marks depth text = [text] := by
  have whole := split_append marks depth text [] shielded
  rwa [List.append_nil, split_nil, prepend, List.append_nil] at whole

theorem split_append_separator (depth : Int) (front rest : List Symbol)
    (shielded : Shielded marks depth front) (outside : depthAfter marks depth front ≤ 0) :
    split marks depth (front ++ marks.separator :: rest) =
      front :: split marks (depthAfter marks depth front) rest := by
  rw [split_append marks depth front _ shielded, split_separator marks _ outside, prepend,
    List.append_nil]

/-- A text is one shielded part, or its first part ends at a separator outside all brackets. -/
theorem split_cases (depth : Int) (text : List Symbol) :
    Shielded marks depth text ∨
      ∃ front rest, text = front ++ marks.separator :: rest ∧ Shielded marks depth front ∧
        depthAfter marks depth front ≤ 0 := by
  induction text generalizing depth with
  | nil => exact Or.inl trivial
  | cons symbol rest inductionHypothesis =>
    by_cases outside : symbol = marks.separator ∧ depth ≤ 0
    · exact Or.inr ⟨[], rest, by rw [outside.1, List.nil_append], trivial, outside.2⟩
    · have enclosed : symbol = marks.separator → 0 < depth := fun same =>
        Int.not_le.mp fun small => outside ⟨same, small⟩
      rcases inductionHypothesis (bump marks depth symbol) with
        shielded | ⟨front, after, rfl, shielded, low⟩
      · exact Or.inl ⟨enclosed, shielded⟩
      · exact Or.inr ⟨symbol :: front, after, rfl, ⟨enclosed, shielded⟩, low⟩

omit [DecidableEq Symbol] in
theorem infix_of_mem_intercalate (separator : List Symbol) {part : List Symbol}
    {parts : List (List Symbol)} (member : part ∈ parts) :
    part <:+: separator.intercalate parts := by
  induction parts with
  | nil => cases member
  | cons first parts inductionHypothesis =>
    cases parts with
    | nil =>
      cases List.mem_singleton.mp member
      exact ⟨[], [], by simp⟩
    | cons second others =>
      rw [List.intercalate_cons_cons]
      rcases List.mem_cons.mp member with rfl | inRest
      · exact ⟨[], separator ++ separator.intercalate (second :: others), by simp⟩
      · exact (inductionHypothesis inRest).trans (List.suffix_append _ _).isInfix

/-- The parts, put back together with their separators, are the text. -/
theorem intercalate_split (depth : Int) (text : List Symbol) :
    [marks.separator].intercalate (split marks depth text) = text := by
  induction size : text.length using Nat.strongRecOn generalizing depth text with
  | _ bound inductionHypothesis =>
    rcases split_cases marks depth text with shielded | ⟨front, rest, rfl, shielded, outside⟩
    · rw [split_shielded marks depth text shielded]
      simp
    · rw [split_append_separator marks depth front rest shielded outside]
      have smaller : rest.length < bound := by
        rw [← size, List.length_append, List.length_cons]
        omega
      have whole := inductionHypothesis rest.length smaller (depthAfter marks depth front) rest rfl
      cases parts : split marks (depthAfter marks depth front) rest with
      | nil => exact absurd parts (split_ne_nil marks _ _)
      | cons part others =>
        rw [parts] at whole
        rw [List.intercalate_cons_cons, whole]
        simp

theorem infix_of_mem_split (depth : Int) {text part : List Symbol}
    (member : part ∈ split marks depth text) : part <:+: text := by
  rw [← intercalate_split marks depth text]
  exact infix_of_mem_intercalate _ member

omit [DecidableEq Symbol] in
theorem length_le_of_mem_prepend {front part : List Symbol} {parts : List (List Symbol)}
    {bound : Nat} (parts_le : ∀ other ∈ parts, other.length ≤ bound)
    (member : part ∈ prepend front parts) : part.length ≤ front.length + bound := by
  cases parts with
  | nil =>
    rw [prepend, List.mem_singleton] at member
    subst member
    omega
  | cons first others =>
    rw [prepend, List.mem_cons] at member
    rcases member with rfl | inOthers
    · have := parts_le first List.mem_cons_self
      rw [List.length_append]
      omega
    · have := parts_le part (List.mem_cons_of_mem _ inOthers)
      omega

/-- No part is longer than the text. -/
theorem length_le_of_mem_split (depth : Int) (text part : List Symbol)
    (member : part ∈ split marks depth text) : part.length ≤ text.length := by
  induction text generalizing depth part with
  | nil =>
    rw [split_nil, List.mem_singleton] at member
    exact Nat.le_of_eq (congrArg List.length member)
  | cons symbol rest inductionHypothesis =>
    unfold split at member
    split at member
    · rcases List.mem_cons.mp member with rfl | inRest
      · exact Nat.zero_le _
      · exact Nat.le_succ_of_le (inductionHypothesis depth part inRest)
    · have bound := length_le_of_mem_prepend (inductionHypothesis (bump marks depth symbol)) member
      rw [List.length_singleton] at bound
      rw [List.length_cons]
      omega

/-- A text has the symbols of its parts and a separator between any two of them. -/
theorem length_flatten_split (depth : Int) (text : List Symbol) :
    (split marks depth text).flatten.length + (split marks depth text).length =
      text.length + 1 := by
  induction text generalizing depth with
  | nil => rfl
  | cons symbol rest inductionHypothesis =>
    unfold split
    split
    · have behind := inductionHypothesis depth
      rw [List.flatten_cons, List.nil_append, List.length_cons, List.length_cons]
      omega
    · have behind := inductionHypothesis (bump marks depth symbol)
      cases parts : split marks (bump marks depth symbol) rest with
      | nil => exact absurd parts (split_ne_nil marks _ rest)
      | cons part others =>
        rw [parts, List.flatten_cons, List.length_append, List.length_cons] at behind
        rw [prepend, List.flatten_cons, List.length_append, List.length_append,
          List.length_singleton, List.length_cons, List.length_cons]
        omega

/-- A part with a separator behind it is shorter than the text. -/
theorem length_lt_of_mem_dropLast_split (depth : Int) {text part : List Symbol}
    (member : part ∈ (split marks depth text).dropLast) : part.length < text.length := by
  have total := length_flatten_split marks depth text
  rw [← List.dropLast_append_getLast (split_ne_nil marks depth text), List.flatten_append,
    List.length_append, List.length_append, List.length_singleton] at total
  have own := (List.sublist_flatten_of_mem member).length_le
  have several := List.length_pos_of_mem member
  omega

/-! ### Counting separators -/

theorem count_intercalate_cons_cons (separator : Symbol) (part other : List Symbol)
    (parts : List (List Symbol)) :
    ([separator].intercalate (part :: other :: parts)).count separator =
      part.count separator + 1 + ([separator].intercalate (other :: parts)).count separator := by
  rw [List.intercalate_cons_cons, List.count_append, List.count_append, List.count_singleton_self]

/-- A text splits in one way at a separator with a given number of separators before it. -/
theorem append_separator_unique (separator : Symbol) {front other rest after : List Symbol}
    (counts : front.count separator = other.count separator)
    (same : front ++ separator :: rest = other ++ separator :: after) :
    front = other ∧ rest = after := by
  induction front generalizing other with
  | nil =>
    cases other with
    | nil => exact ⟨rfl, (List.cons.inj same).2⟩
    | cons symbol other =>
      obtain ⟨rfl, _⟩ := List.cons.inj same
      rw [List.count_nil, List.count_cons_self] at counts
      exact nomatch counts
  | cons symbol front inductionHypothesis =>
    cases other with
    | nil =>
      obtain ⟨rfl, _⟩ := List.cons.inj same
      rw [List.count_nil, List.count_cons_self] at counts
      exact nomatch counts
    | cons symbol' other =>
      obtain ⟨rfl, tails⟩ := List.cons.inj same
      rw [List.count_cons, List.count_cons] at counts
      obtain ⟨rfl, rfl⟩ := inductionHypothesis (Nat.add_right_cancel counts) tails
      exact ⟨rfl, rfl⟩

/-! ### Text in which every bracket closes -/

/-- No prefix closes more brackets than it opens, and the whole text closes as many as it
opens. -/
structure Balanced (text : List Symbol) : Prop where
  prefixes : ∀ count, 0 ≤ depthAfter marks 0 (text.take count)
  total : depthAfter marks 0 text = 0

theorem Balanced.depthAfter {text : List Symbol} (balanced : Balanced marks text) (depth : Int) :
    depthAfter marks depth text = depth := by
  rw [depthAfter_eq_add, balanced.total, Int.add_zero]

theorem Balanced.nil : Balanced marks ([] : List Symbol) where
  prefixes count := by simp
  total := rfl

theorem Balanced.append {front rest : List Symbol} (first : Balanced marks front)
    (second : Balanced marks rest) : Balanced marks (front ++ rest) where
  prefixes count := by
    rw [List.take_append, depthAfter_append, depthAfter_eq_add]
    have left := first.prefixes count
    have right := second.prefixes (count - front.length)
    omega
  total := by
    rw [depthAfter_append, first.total, second.total]

/-- A text without brackets is balanced. -/
theorem Balanced.of_plain {text : List Symbol}
    (plain : ∀ symbol ∈ text, symbol ≠ marks.opening ∧ symbol ≠ marks.closing) :
    Balanced marks text := by
  have still : ∀ part : List Symbol,
      (∀ symbol ∈ part, symbol ≠ marks.opening ∧ symbol ≠ marks.closing) →
      Nesting.depthAfter marks 0 part = 0 := by
    intro part member
    induction part with
    | nil => rfl
    | cons symbol rest inductionHypothesis =>
      have head := member symbol List.mem_cons_self
      rw [depthAfter_cons, bump, if_neg head.1, if_neg head.2]
      exact inductionHypothesis fun other inRest => member other (List.mem_cons_of_mem _ inRest)
  exact ⟨fun count => Int.le_of_eq (still _ fun symbol member =>
    plain symbol (List.mem_of_mem_take member)).symm, still text plain⟩

/-- Brackets around a balanced text keep it balanced. -/
theorem Balanced.wrap {text : List Symbol} (inner : Balanced marks text) :
    Balanced marks (marks.opening :: (text ++ [marks.closing])) where
  prefixes count := by
    cases count with
    | zero => simp
    | succ count =>
      rw [List.take_succ_cons, List.take_append, depthAfter_cons, depthAfter_append,
        depthAfter_eq_add marks (bump marks 0 marks.opening)]
      have opened : bump marks 0 marks.opening = 1 := by simp [bump]
      have reached := inner.prefixes count
      rw [opened]
      cases count - text.length with
      | zero =>
        rw [List.take_zero, depthAfter_nil]
        omega
      | succ more =>
        rw [List.take_succ_cons, List.take_nil, depthAfter_cons, depthAfter_nil, bump,
          if_neg (Ne.symm marks.opening_ne_closing), if_pos rfl]
        omega
  total := by
    have opened : bump marks 0 marks.opening = 1 := by simp [bump]
    have closed : bump marks 1 marks.closing = 0 := by
      rw [bump, if_neg (Ne.symm marks.opening_ne_closing), if_pos rfl]
      rfl
    rw [depthAfter_cons, opened, depthAfter_append, inner.depthAfter marks 1, depthAfter_cons,
      closed, depthAfter_nil]

theorem shielded_of_prefixes (depth : Int) (text : List Symbol)
    (prefixes : ∀ count, 0 < depth + depthAfter marks 0 (text.take count)) :
    Shielded marks depth text := by
  induction text generalizing depth with
  | nil => trivial
  | cons symbol rest inductionHypothesis =>
    refine ⟨fun _ => by simpa using prefixes 0, inductionHypothesis _ fun count => ?_⟩
    have next := prefixes (count + 1)
    rw [List.take_succ_cons, ← depthAfter_eq_add, depthAfter_cons] at next
    rwa [← depthAfter_eq_add]

/-- Balanced text is shielded at every positive depth. -/
theorem Balanced.shielded {text : List Symbol} (balanced : Balanced marks text) {depth : Int}
    (inside : 0 < depth) : Shielded marks depth text :=
  shielded_of_prefixes marks depth text fun count => by
    have reached := balanced.prefixes count
    omega

theorem Shielded.append {depth : Int} {front rest : List Symbol}
    (first : Shielded marks depth front)
    (second : Shielded marks (Nesting.depthAfter marks depth front) rest) :
    Shielded marks depth (front ++ rest) := by
  induction front generalizing depth with
  | nil => exact second
  | cons symbol front inductionHypothesis => exact ⟨first.1, inductionHypothesis first.2 second⟩

/-- A text without separators is shielded at every depth. -/
theorem shielded_of_not_mem (depth : Int) (text : List Symbol)
    (absent : marks.separator ∉ text) : Shielded marks depth text := by
  induction text generalizing depth with
  | nil => trivial
  | cons symbol rest inductionHypothesis =>
    rw [List.mem_cons, not_or] at absent
    exact ⟨fun same => absurd same.symm absent.1, inductionHypothesis _ absent.2⟩

end Nesting
