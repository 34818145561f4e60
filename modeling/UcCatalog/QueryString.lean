/-
This file is the usual reading of the query of a URL: the fragment is cut off at
the first `#`, the query begins behind the first `?`, its parts are separated by
`&`, and each is a key and a value around its first `=`. Keys and values are
decoded: a plus is a space, and a percent sign before two hexadecimal digits
stands for the character they number. It names no program.

Decoding never makes a text longer, and it leaves a text as it is when there is
nothing to decode in it (`Literal`). A text that stands in front of a character
that is no hexadecimal digit is decoded by itself.
-/

import Mathlib.Data.List.TakeWhile

namespace QueryString

/-! ### Decoding -/

/-- The value of a hexadecimal digit. -/
def hexDigit (char : Char) : Option Nat :=
  if '0' ≤ char ∧ char ≤ '9' then some (char.toNat - '0'.toNat)
  else if 'a' ≤ char ∧ char ≤ 'f' then some (char.toNat - 'a'.toNat + 10)
  else if 'A' ≤ char ∧ char ≤ 'F' then some (char.toNat - 'A'.toNat + 10)
  else none

/-- The character two hexadecimal digits number. -/
def escaped (high low : Char) : Option Char :=
  match hexDigit high, hexDigit low with
  | some first, some second => some (Char.ofNat (16 * first + second))
  | _, _ => none

/-- Decode pluses and percent signs. A percent sign before anything else is left alone. -/
def decode : List Char → List Char
  | [] => []
  | '%' :: high :: low :: rest =>
    match escaped high low with
    | some char => char :: decode rest
    | none => '%' :: decode (high :: low :: rest)
  | char :: rest => (if char = '+' then ' ' else char) :: decode rest

/-- There is nothing in the text to decode. -/
structure Literal (text : List Char) : Prop where
  noPlus : '+' ∉ text
  noEscape : ∀ high low, escaped high low ≠ none → ¬ ['%', high, low] <:+: text

theorem escaped_none_left {char : Char} (notHex : hexDigit char = none) (low : Char) :
    escaped char low = none := by
  rw [escaped, notHex]

theorem escaped_none_right {char : Char} (notHex : hexDigit char = none) (high : Char) :
    escaped high char = none := by
  unfold escaped
  rw [notHex]
  cases hexDigit high <;> rfl

/-- The character does not begin an escape. -/
def Alone (char : Char) (rest : List Char) : Prop :=
  ∀ high low behind, char = '%' → rest = high :: low :: behind → escaped high low = none

theorem decode_cons {char : Char} {rest : List Char} (alone : Alone char rest) :
    decode (char :: rest) = (if char = '+' then ' ' else char) :: decode rest := by
  by_cases percent : char = '%'
  · subst percent
    cases rest with
    | nil => rfl
    | cons high rest =>
      cases rest with
      | nil => rfl
      | cons low behind =>
        rw [decode, alone high low behind rfl rfl]
        rfl
  · exact decode.eq_3 _ _ fun _ _ _ same => absurd same percent

theorem decode_cons_of_plain {char : Char} (notPercent : char ≠ '%') (notPlus : char ≠ '+')
    (rest : List Char) : decode (char :: rest) = char :: decode rest := by
  rw [decode_cons fun _ _ _ percent => absurd percent notPercent, if_neg notPlus]

theorem length_decode_le (text : List Char) : (decode text).length ≤ text.length := by
  fun_induction decode text with
  | case1 => exact Nat.le_refl 0
  | case2 high low rest char _ inductionHypothesis =>
    simp only [List.length_cons]
    omega
  | case3 high low rest _ inductionHypothesis => exact Nat.succ_le_succ inductionHypothesis
  | case4 char rest _ inductionHypothesis => exact Nat.succ_le_succ inductionHypothesis

/-- A text in front of a character that is no hexadecimal digit is decoded by itself. -/
theorem decode_append {char : Char} (notHex : hexDigit char = none) (front rest : List Char) :
    decode (front ++ char :: rest) = decode front ++ decode (char :: rest) := by
  fun_induction decode front with
  | case1 => rfl
  | case2 high low front decoded same inductionHypothesis =>
    rw [List.cons_append, List.cons_append, List.cons_append, decode, same]
    exact congrArg (decoded :: ·) inductionHypothesis
  | case3 high low front same inductionHypothesis =>
    rw [List.cons_append, List.cons_append, List.cons_append, decode, same]
    exact congrArg ('%' :: ·) inductionHypothesis
  | case4 first front short inductionHypothesis =>
    -- an escape that begins here would have to end in the character behind the text
    have alone : Alone first (front ++ char :: rest) := by
      intro high low behind percent same
      cases front with
      | nil =>
        cases same
        exact escaped_none_left notHex low
      | cons second front =>
        cases front with
        | nil =>
          cases same
          exact escaped_none_right notHex high
        | cons third front => exact absurd rfl (short second third front percent)
    rw [List.cons_append, decode_cons alone, inductionHypothesis, List.cons_append]

theorem literal_cons_iff (char : Char) (rest : List Char) :
    Literal (char :: rest) ↔ char ≠ '+' ∧ Alone char rest ∧ Literal rest := by
  constructor
  · intro literal
    refine ⟨fun same => literal.noPlus (same ▸ List.mem_cons_self), ?_,
      fun member => literal.noPlus (List.mem_cons_of_mem _ member), fun high low isEscape inside =>
        literal.noEscape high low isEscape (inside.trans (List.suffix_cons char rest).isInfix)⟩
    rintro high low behind rfl rfl
    by_contra isEscape
    exact literal.noEscape high low isEscape ⟨[], behind, rfl⟩
  · rintro ⟨noPlus, alone, literal⟩
    refine ⟨fun member => ?_, fun high low isEscape inside => ?_⟩
    · rcases List.mem_cons.mp member with same | inRest
      · exact noPlus same.symm
      · exact literal.noPlus inRest
    · rcases List.infix_cons_iff.mp inside with ⟨behind, same⟩ | inRest
      · obtain ⟨percent, others⟩ := List.cons.inj same
        exact isEscape (alone high low behind percent.symm others.symm)
      · exact literal.noEscape high low isEscape inRest

theorem literal_nil : Literal [] where
  noPlus := List.not_mem_nil
  noEscape _ _ _ inside := absurd (List.eq_nil_of_infix_nil inside) (List.cons_ne_nil _ _)

/-- A text is decoded to itself when there is nothing in it to decode, and only then. -/
theorem decode_eq_self_iff (text : List Char) : decode text = text ↔ Literal text := by
  fun_induction decode text with
  | case1 => exact iff_of_true rfl literal_nil
  | case2 high low rest char same inductionHypothesis =>
    refine iff_of_false (fun equal => ?_) fun literal => ?_
    · have shorter := length_decode_le rest
      have lengths := congrArg List.length equal
      simp only [List.length_cons] at lengths
      omega
    · have isEscape : escaped high low ≠ none := by
        rw [same]
        exact Option.some_ne_none char
      exact literal.noEscape high low isEscape ⟨[], rest, rfl⟩
  | case3 high low rest same inductionHypothesis =>
    have alone : Alone '%' (high :: low :: rest) := by
      rintro _ _ _ _ ⟨⟩
      exact same
    rw [List.cons_inj_right, inductionHypothesis, literal_cons_iff '%']
    exact ⟨fun literal => ⟨by decide, alone, literal⟩, fun all => all.2.2⟩
  | case4 char rest short inductionHypothesis =>
    have alone : Alone char rest := fun high low behind percent same =>
      absurd same (short high low behind percent)
    rw [literal_cons_iff]
    by_cases plus : char = '+'
    · rw [if_pos plus]
      refine iff_of_false (fun equal => ?_) fun all => all.1 plus
      exact absurd (plus.symm.trans (List.cons.inj equal).1.symm) (by decide)
    · rw [if_neg plus, List.cons_inj_right, inductionHypothesis]
      exact ⟨fun literal => ⟨plus, alone, literal⟩, fun all => all.2.2⟩

/-! ### Parameters -/

/-- The key and the value of a part of the query. -/
def parameter (part : List Char) : List Char × List Char :=
  (decode (part.takeWhile (· ≠ '=')), decode ((part.dropWhile (· ≠ '=')).drop 1))

/-- The parameters of a query. Empty parts are skipped. -/
def queryParameters (query : List Char) : List (List Char × List Char) :=
  ((query.splitOn '&').filter (· ≠ [])).map parameter

/-- The parameters of a URL. -/
def parameters (url : List Char) : List (List Char × List Char) :=
  queryParameters (((url.takeWhile (· ≠ '#')).dropWhile (· ≠ '?')).drop 1)

/-- The text has none of the character, as `takeWhile` asks it. -/
theorem ne_of_not_mem {separator : Char} {text : List Char} (free : separator ∉ text) :
    ∀ char ∈ text, decide (char ≠ separator) = true :=
  fun _ member => decide_eq_true fun same => free (same ▸ member)

theorem takeWhile_cons_of_ne {char separator : Char} (different : char ≠ separator)
    (rest : List Char) :
    (char :: rest).takeWhile (· ≠ separator) = char :: rest.takeWhile (· ≠ separator) :=
  List.takeWhile_cons_of_pos (decide_eq_true different)

theorem parameter_assignment {key : List Char} (plain : '=' ∉ key) (value : List Char) :
    parameter (key ++ '=' :: value) = (decode key, decode value) := by
  have isKey := ne_of_not_mem plain
  rw [parameter, List.takeWhile_append_of_pos isKey, List.dropWhile_append_of_pos isKey]
  simp

theorem queryParameters_one {part : List Char} (one : '&' ∉ part) (nonempty : part ≠ []) :
    queryParameters part = [parameter part] := by
  rw [queryParameters, List.splitOn_eq_singleton one, List.filter_cons_of_pos (by simpa)]
  rfl

theorem queryParameters_cons {part : List Char} (one : '&' ∉ part) (nonempty : part ≠ [])
    (rest : List Char) :
    queryParameters (part ++ '&' :: rest) = parameter part :: queryParameters rest := by
  rw [queryParameters, List.splitOn_append_cons_self_of_not_mem one,
    List.filter_cons_of_pos (by simpa)]
  rfl

theorem parameters_append {front : List Char} (noQuery : '?' ∉ front) (noFragment : '#' ∉ front)
    (query : List Char) :
    parameters (front ++ '?' :: query) = queryParameters (query.takeWhile (· ≠ '#')) := by
  rw [parameters, List.takeWhile_append_of_pos (ne_of_not_mem noFragment),
    List.takeWhile_cons_of_pos (by decide), List.dropWhile_append_of_pos (ne_of_not_mem noQuery)]
  simp

/-- Nothing behind a `#` is read. -/
theorem parameters_append_of_fragment {front : List Char} (fragment : '#' ∈ front)
    (behind : List Char) : parameters (front ++ behind) = parameters front := by
  obtain ⟨before, after, rfl, plain⟩ := List.eq_append_cons_of_mem fragment
  unfold parameters
  rw [List.append_assoc, List.takeWhile_append_of_pos (ne_of_not_mem plain),
    List.takeWhile_append_of_pos (ne_of_not_mem plain)]
  simp

/-! ### What is read of a value -/

/-- A parameter whose value may have been cut short is read as it was meant exactly when it was
not cut, is one part of the query, and has nothing in it to decode. -/
theorem queryParameters_assignment_iff {key cut value : List Char} (plain : '=' ∉ key)
    (one : '&' ∉ key) (literal : decode key = key) (isCut : cut <+: value) :
    queryParameters (key ++ '=' :: cut) = [(key, value)] ↔
      cut = value ∧ '&' ∉ value ∧ Literal value := by
  have nonempty (text : List Char) : key ++ '=' :: text ≠ [] :=
    List.append_ne_nil_of_right_ne_nil _ (List.cons_ne_nil _ _)
  have single {text : List Char} (free : '&' ∉ text) : '&' ∉ key ++ '=' :: text := by
    simp [one, free]
  constructor
  · intro carried
    by_cases separated : '&' ∈ cut
    · -- the first part alone would have to be read as the value, and it is shorter
      obtain ⟨first, rest, rfl, free⟩ := List.eq_append_cons_of_mem separated
      have first_eq : key ++ '=' :: (first ++ '&' :: rest) =
          (key ++ '=' :: first) ++ '&' :: rest := by simp
      rw [first_eq, queryParameters_cons (single free) (nonempty first),
        parameter_assignment plain] at carried
      have decoded : decode first = value := congrArg Prod.snd (List.cons.inj carried).1
      have shorter := length_decode_le first
      have short := isCut.length_le
      rw [decoded] at shorter
      rw [List.length_append, List.length_cons] at short
      omega
    · rw [queryParameters_one (single separated) (nonempty cut),
        parameter_assignment plain] at carried
      have decoded : decode cut = value := congrArg Prod.snd (List.cons.inj carried).1
      have whole : cut = value :=
        isCut.eq_of_length_le (decoded ▸ length_decode_le cut)
      subst whole
      exact ⟨rfl, separated, (decode_eq_self_iff cut).mp decoded⟩
  · rintro ⟨rfl, free, isLiteral⟩
    rw [queryParameters_one (single free) (nonempty cut), parameter_assignment plain, literal,
      (decode_eq_self_iff cut).mpr isLiteral]

/-! ### A text behind an open query -/

theorem takeWhile_mem_splitOn (text : List Char) :
    text.takeWhile (· ≠ '&') ∈ text.splitOn '&' := by
  by_cases separated : '&' ∈ text
  · obtain ⟨first, rest, rfl, free⟩ := List.eq_append_cons_of_mem separated
    rw [List.takeWhile_append_of_pos (ne_of_not_mem free),
      List.splitOn_append_cons_self_of_not_mem free]
    simp
  · rw [List.takeWhile_eq_self_iff.mpr (ne_of_not_mem separated),
      List.splitOn_eq_singleton separated]
    exact List.mem_cons_self

/-- What is appended to a query runs on in its last part. -/
theorem exists_last_part (query : List Char) :
    ∃ last, ∀ behind : List Char,
      last ++ behind.takeWhile (· ≠ '&') ∈ (query ++ behind).splitOn '&' := by
  by_cases separated : '&' ∈ query
  · obtain ⟨first, rest, same, _⟩ := List.eq_append_cons_of_mem separated
    obtain ⟨last, runsOn⟩ := exists_last_part rest
    refine ⟨last, fun behind => ?_⟩
    rw [same, List.append_assoc, List.cons_append, List.splitOn_append_cons_self]
    exact List.mem_append_right _ (runsOn behind)
  · refine ⟨query, fun behind => ?_⟩
    rw [← List.takeWhile_append_of_pos (ne_of_not_mem separated)]
    exact takeWhile_mem_splitOn _
termination_by query.length
decreasing_by simp [same]; omega

/-- What is appended to a URL that has a query runs on in the last parameter. -/
theorem exists_last_parameter {front : List Char} (queried : '?' ∈ front)
    (noFragment : '#' ∉ front) :
    ∃ last, ∀ (char : Char) (behind : List Char), char ≠ '#' → char ≠ '&' →
      parameter (last ++ char :: (behind.takeWhile (· ≠ '#')).takeWhile (· ≠ '&')) ∈
        parameters (front ++ char :: behind) := by
  obtain ⟨before, query, rfl, noQuery⟩ := List.eq_append_cons_of_mem queried
  obtain ⟨last, runsOn⟩ := exists_last_part query
  refine ⟨last, fun char behind notFragment notSeparator => ?_⟩
  have inQuery : '#' ∉ query := fun member =>
    noFragment (List.mem_append_right _ (List.mem_cons_of_mem _ member))
  rw [List.append_assoc, List.cons_append,
    parameters_append noQuery fun member => noFragment (List.mem_append_left _ member),
    List.takeWhile_append_of_pos (ne_of_not_mem inQuery),
    takeWhile_cons_of_ne notFragment]
  have part := runsOn (char :: behind.takeWhile (· ≠ '#'))
  rw [takeWhile_cons_of_ne notSeparator] at part
  exact List.mem_map_of_mem (List.mem_filter.mpr ⟨part, decide_eq_true
    (List.append_ne_nil_of_right_ne_nil _ (List.cons_ne_nil _ _))⟩)

/-- A text that runs on in a parameter is at the end of its value or in its key. -/
theorem parameter_append (last : List Char) :
    (∃ key value, ∀ char rest, hexDigit char = none →
      parameter (last ++ char :: rest) = (key, value ++ decode (char :: rest))) ∨
    ∀ char rest, hexDigit char = none → char ≠ '=' →
      (parameter (last ++ char :: rest)).1 =
        decode last ++ decode (char :: rest.takeWhile (· ≠ '=')) := by
  by_cases assigned : '=' ∈ last
  · obtain ⟨key, value, rfl, plain⟩ := List.eq_append_cons_of_mem assigned
    refine .inl ⟨decode key, decode value, fun char rest notHex => ?_⟩
    rw [List.append_assoc, List.cons_append, parameter_assignment plain,
      decode_append notHex]
  · refine .inr fun char rest notHex notAssign => ?_
    rw [parameter, List.takeWhile_append_of_pos (ne_of_not_mem assigned),
      takeWhile_cons_of_ne notAssign, decode_append notHex]

end QueryString
