/-
This file says what the branches of the type parser do. They find their ends and
separators by position; here each branch is an equation over the text between
those positions and over the function it calls for child types.

The `map<` and `struct<` loops need an invariant: the cursor stands in front of
what is left of the body, and the bracket counter is the one `Nesting.split`
carries. When the body is empty or ends in a separator the cursor reaches the
closing bracket at the start of a turn, where the test for the end has already
been missed. The loop then runs on behind the bracket until a child raises or
the read leaves the string (`separatedChildren_past`).
-/

import UcCatalog.Nesting
import UcCatalog.TypeParser

namespace UcCatalog

open Nesting

/-! ### The separators of the type syntax -/

/-- Commas separate, and angle brackets nest. -/
def commaMarks : Marks Char where
  separator := ','
  opening := '<'
  closing := '>'
  separator_ne_opening := by decide
  separator_ne_closing := by decide
  opening_ne_closing := by decide

/-- The body of a container leaves nothing behind its last separator. -/
def EndsEmpty (depth : Int) (body : Text) : Prop :=
  (split commaMarks depth body).getLast? = some []

instance (depth : Int) (body : Text) : Decidable (EndsEmpty depth body) :=
  inferInstanceAs (Decidable (_ = _))

theorem comma_cases (depth : Int) (text : Text) :
    Shielded commaMarks depth text ∨
      ∃ front rest, text = front ++ ',' :: rest ∧ Shielded commaMarks depth front ∧
        depthAfter commaMarks depth front ≤ 0 :=
  split_cases commaMarks depth text

theorem split_comma (depth : Int) (front rest : Text) (shielded : Shielded commaMarks depth front)
    (outside : depthAfter commaMarks depth front ≤ 0) :
    split commaMarks depth (front ++ ',' :: rest) =
      front :: split commaMarks (depthAfter commaMarks depth front) rest :=
  split_append_separator commaMarks depth front rest shielded outside

/-! ### The inner loop -/

theorem nextSeparator_step (typeText : Text) (typeEnd : Int) (fuel position : Nat) (depth : Int)
    (char : Char) (rest : Text) (here : typeText.drop position = char :: rest) :
    nextSeparator typeText typeEnd (fuel + 1) position depth =
      if char = ',' ∧ depth ≤ 0 then .ok ((position : Int), depth)
      else if (position + 1 : Int) = typeEnd then
        .ok ((position : Int) + 1, bump commaMarks depth char)
      else nextSeparator typeText typeEnd fuel (position + 1) (bump commaMarks depth char) := by
  rw [nextSeparator, charAt_inside typeText position char rest here]
  show (if char ≠ ',' ∨ depth > 0 then _ else _) = _
  by_cases outside : char = ',' ∧ depth ≤ 0
  · rw [if_pos outside, if_neg]
    · rfl
    · rintro (differ | inside)
      · exact differ outside.1
      · exact absurd outside.2 (by omega)
  · rw [if_neg outside, if_pos]
    · rfl
    · by_cases comma : char = ','
      · exact Or.inr (Int.not_le.mp fun low => outside ⟨comma, low⟩)
      · exact Or.inl comma

/-- The terminator is neither a separator nor a bracket. -/
theorem nextSeparator_terminator (typeText : Text) (typeEnd : Int) (fuel : Nat) (depth : Int) :
    nextSeparator typeText typeEnd (fuel + 1) typeText.length depth =
      if (typeText.length + 1 : Int) = typeEnd then .ok ((typeText.length : Int) + 1, depth)
      else nextSeparator typeText typeEnd fuel (typeText.length + 1) depth := by
  have differs : terminator ≠ ',' ∨ depth > 0 := Or.inl (by decide)
  rw [nextSeparator, charAt_end]
  simp only [bind, Except.bind]
  rw [if_pos differs]
  rfl

theorem drop_succ_of_drop {text : Text} {position : Nat} {char : Char} {rest : Text}
    (here : text.drop position = char :: rest) : text.drop (position + 1) = rest := by
  rw [← List.drop_drop, here, List.drop_one, List.tail_cons]

/-- A shielded body is scanned to the end. -/
theorem nextSeparator_shielded (typeText body after : Text) (typeEnd depth : Int)
    (fuel position : Nat) (enough : body.length ≤ fuel)
    (here : typeText.drop position = body ++ after) (nonempty : body ≠ [])
    (ends : typeEnd = position + body.length) (shielded : Shielded commaMarks depth body) :
    nextSeparator typeText typeEnd fuel position depth =
      .ok (typeEnd, depthAfter commaMarks depth body) := by
  induction body generalizing depth fuel position with
  | nil => exact absurd rfl nonempty
  | cons char rest inductionHypothesis =>
    obtain ⟨fuel, rfl⟩ : ∃ less, fuel = less + 1 :=
      ⟨fuel - 1, by rw [List.length_cons] at enough; omega⟩
    rw [nextSeparator_step typeText typeEnd fuel position depth char (rest ++ after) here, if_neg]
    · rw [List.length_cons] at ends enough
      cases rest with
      | nil =>
        rw [if_pos (by rw [ends]; rfl), ends]
        rfl
      | cons second others =>
        rw [List.length_cons] at ends enough
        rw [if_neg (by omega), depthAfter_cons]
        exact inductionHypothesis _ fuel (position + 1) (by rw [List.length_cons]; omega)
          (drop_succ_of_drop here) (List.cons_ne_nil _ _)
          (by rw [List.length_cons]; push_cast; omega) shielded.2
    · rintro ⟨comma, outside⟩
      exact absurd (shielded.1 comma) (by omega)

/-- The scan stops at the first separator outside all brackets, wherever the end is looked for
that does not come before it. -/
theorem nextSeparator_separator (typeText front after : Text) (typeEnd depth : Int)
    (fuel position : Nat) (enough : front.length < fuel)
    (here : typeText.drop position = front ++ ',' :: after)
    (notBefore : typeEnd ≤ position ∨ position + front.length < typeEnd)
    (shielded : Shielded commaMarks depth front) (outside : depthAfter commaMarks depth front ≤ 0) :
    nextSeparator typeText typeEnd fuel position depth =
      .ok ((position : Int) + front.length, depthAfter commaMarks depth front) := by
  induction front generalizing depth fuel position with
  | nil =>
    obtain ⟨fuel, rfl⟩ : ∃ less, fuel = less + 1 := ⟨fuel - 1, by omega⟩
    rw [nextSeparator_step typeText typeEnd fuel position depth ',' after here,
      if_pos ⟨rfl, outside⟩]
    simp
  | cons char rest inductionHypothesis =>
    obtain ⟨fuel, rfl⟩ : ∃ less, fuel = less + 1 := ⟨fuel - 1, by omega⟩
    rw [List.length_cons] at enough notBefore
    rw [nextSeparator_step typeText typeEnd fuel position depth char (rest ++ ',' :: after) here,
      if_neg, if_neg (by omega), depthAfter_cons]
    · have next := inductionHypothesis _ fuel (position + 1) (by omega) (drop_succ_of_drop here)
        (by push_cast; omega) shielded.2 outside
      push_cast at next
      rw [next, List.length_cons]
      push_cast
      rw [Int.add_assoc, Int.add_comm 1]
    · rintro ⟨comma, low⟩
      exact absurd (shielded.1 comma) (by omega)

/-- Past the end, with no separator left, the scan leaves the string. -/
theorem nextSeparator_past (typeText rest : Text) (typeEnd depth : Int) (fuel position : Nat)
    (enough : rest.length + 2 ≤ fuel) (here : typeText.drop position = rest)
    (inside : position ≤ typeText.length) (past : typeEnd ≤ position)
    (shielded : Shielded commaMarks depth rest) :
    nextSeparator typeText typeEnd fuel position depth = .error (.undefined .readPastEnd) := by
  induction rest generalizing depth fuel position with
  | nil =>
    obtain ⟨fuel, rfl⟩ : ∃ less, fuel = less + 2 := ⟨fuel - 2, by simp at enough; omega⟩
    have atEnd : position = typeText.length := by
      have := List.drop_eq_nil_iff.mp here
      omega
    have isPast := charAt_past typeText (typeText.length + 1) (by omega)
    push_cast at isPast
    subst atEnd
    rw [nextSeparator_terminator, if_neg (by omega), nextSeparator, isPast]
    rfl
  | cons char rest inductionHypothesis =>
    obtain ⟨fuel, rfl⟩ : ∃ less, fuel = less + 1 := ⟨fuel - 1, by omega⟩
    have further : position < typeText.length := by
      have shorter := congrArg List.length here
      rw [List.length_drop, List.length_cons] at shorter
      omega
    rw [List.length_cons] at enough
    rw [nextSeparator_step typeText typeEnd fuel position depth char rest here, if_neg,
      if_neg (by omega)]
    · exact inductionHypothesis _ fuel (position + 1) (by omega) (drop_succ_of_drop here) further
        (by push_cast; omega) shielded.2
    · rintro ⟨comma, low⟩
      exact absurd (shielded.1 comma) (by omega)

/-! ### The outer loop -/

section Loop

variable {Child : Type} (child : Text → Outcome Child)

theorem separatedChildren_step (typeText : Text) (typeEnd cur depth nextSep nestedOpens : Int)
    (fuel : Nat) (childStr : Text)
    (scan : nextSeparator typeText typeEnd (typeText.length + 2) cur depth =
      .ok (nextSep, nestedOpens))
    (part : substr typeText cur (nextSep - cur) = .ok childStr) :
    separatedChildren child typeText typeEnd (fuel + 1) cur depth =
      child childStr >>= fun value =>
        if nextSep = typeEnd then pure [value]
        else separatedChildren child typeText typeEnd fuel (nextSep + 1) nestedOpens >>=
          fun values => pure (value :: values) := by
  rw [separatedChildren, scan]
  simp only [bind, Except.bind, part]

theorem substr_of_drop {text front rest : Text} {position : Nat}
    (inside : position ≤ text.length) (here : text.drop position = front ++ rest) :
    substr text position front.length = .ok front := by
  have whole : text = text.take position ++ (front ++ rest) := by
    rw [← here, List.take_append_drop]
  have start : (text.take position).length = position := by
    rw [List.length_take]
    omega
  have found := substr_inside (text.take position) front rest
  rwa [start, ← whole] at found

theorem length_of_drop {text rest : Text} {position : Nat} (inside : position ≤ text.length)
    (here : text.drop position = rest) : text.length = position + rest.length := by
  have total := congrArg List.length here
  rw [List.length_drop] at total
  omega

theorem drop_after_separator {text front rest : Text} {position : Nat}
    (here : text.drop position = front ++ ',' :: rest) :
    text.drop (position + front.length + 1) = rest := by
  rw [← List.drop_drop, ← List.drop_drop, here, List.drop_left, List.drop_one, List.tail_cons]

theorem dropLast_split_cons (front : Text) (depth : Int) (rest : Text) :
    (front :: split commaMarks depth rest).dropLast =
      front :: (split commaMarks depth rest).dropLast :=
  List.dropLast_cons_of_ne_nil (split_ne_nil commaMarks depth rest)

/-- A turn that ends at a separator, and not where the end is looked for, hands the text before
the separator to the child and goes on behind it. -/
theorem separatedChildren_separator (typeText front after : Text) (typeEnd depth : Int)
    (fuel position : Nat) (inside : position ≤ typeText.length)
    (here : typeText.drop position = front ++ ',' :: after)
    (notBefore : typeEnd ≤ position ∨ position + front.length < typeEnd)
    (notEnd : (position : Int) + front.length ≠ typeEnd)
    (shielded : Shielded commaMarks depth front) (outside : depthAfter commaMarks depth front ≤ 0) :
    separatedChildren child typeText typeEnd (fuel + 1) position depth =
      child front >>= fun value =>
        separatedChildren child typeText typeEnd fuel (position + front.length + 1 : Nat)
            (depthAfter commaMarks depth front) >>= fun values => pure (value :: values) := by
  have total := length_of_drop inside here
  rw [List.length_append] at total
  have scan := nextSeparator_separator typeText front after typeEnd depth (typeText.length + 2)
    position (by omega) here notBefore shielded outside
  have count : (position : Int) + front.length - position = front.length := by omega
  have part := substr_of_drop inside here
  rw [← count] at part
  rw [separatedChildren_step child typeText typeEnd position depth _ _ fuel front scan part]
  push_cast
  simp only [if_neg notEnd]

/-- Behind the closing bracket every separated text still goes to the child, and the last scan
leaves the string. -/
theorem separatedChildren_past (typeText : Text) (typeEnd : Int) (fuel position : Nat) (depth : Int)
    (rest : Text) (enough : rest.length < fuel) (inside : position ≤ typeText.length)
    (here : typeText.drop position = rest)
    (past : typeEnd < position ∨ typeEnd = position ∧ ∃ after, rest = '>' :: after) :
    separatedChildren child typeText typeEnd fuel position depth =
      (split commaMarks depth rest).dropLast.mapM child >>= fun _ =>
        .error (.undefined .readPastEnd) := by
  induction fuel generalizing position depth rest with
  | zero => omega
  | succ fuel inductionHypothesis =>
    have total := length_of_drop inside here
    rcases comma_cases depth rest with shielded | ⟨front, after, rfl, shielded, outside⟩
    · rw [split_shielded commaMarks depth rest shielded, List.dropLast_singleton, List.mapM_nil,
        separatedChildren, nextSeparator_past typeText rest typeEnd depth (typeText.length + 2)
          position (by omega) here inside (by omega) shielded]
      rfl
    · have long : (front ++ ',' :: after).length = front.length + 1 + after.length := by
        rw [List.length_append, List.length_cons]
        omega
      have notEnd : ((position : Int) + front.length) ≠ typeEnd := by
        rcases past with before | ⟨atEnd, _, starts⟩
        · omega
        · cases front with
          | nil => exact absurd (List.cons.inj starts).1 (by decide)
          | cons char front =>
            rw [List.length_cons]
            omega
      have next := inductionHypothesis (position + front.length + 1)
        (depthAfter commaMarks depth front) after (by omega) (by omega) (drop_after_separator here)
        (Or.inl (by push_cast; omega))
      rw [separatedChildren_separator child typeText front after typeEnd depth fuel position inside
        here (Or.inl (by omega)) notEnd shielded outside, next,
        split_comma depth front after shielded outside, dropLast_split_cons, List.mapM_cons]
      simp only [bind_assoc, pure_bind]
      rfl

/-- What the loop over a container body makes of it: the parts of the body when the last one is
not empty. Otherwise the scan misses the closing bracket, the parts behind it follow, and the
read leaves the string. -/
def bodyChildren (depth : Int) (body after : Text) : Outcome (List Child) :=
  if EndsEmpty depth body then
    (split commaMarks depth (body ++ '>' :: after)).dropLast.mapM child >>= fun _ =>
      .error (.undefined .readPastEnd)
  else (split commaMarks depth body).mapM child

/-- The parts of a body that has a separator are the text before it and the parts behind it. -/
theorem bodyChildren_comma (depth : Int) (front rest after : Text)
    (shielded : Shielded commaMarks depth front) (outside : depthAfter commaMarks depth front ≤ 0) :
    bodyChildren child depth (front ++ ',' :: rest) after =
      child front >>= fun value =>
        bodyChildren child (depthAfter commaMarks depth front) rest after >>= fun values =>
          pure (value :: values) := by
  have separated := split_comma depth front rest shielded outside
  have separatedAll := split_comma depth front (rest ++ '>' :: after) shielded outside
  have last : EndsEmpty depth (front ++ ',' :: rest) ↔
      EndsEmpty (depthAfter commaMarks depth front) rest := by
    unfold EndsEmpty
    rw [separated, List.getLast?_cons_of_ne_nil (split_ne_nil commaMarks _ rest)]
  unfold bodyChildren
  by_cases endsEmpty : EndsEmpty (depthAfter commaMarks depth front) rest
  · rw [if_pos endsEmpty, if_pos (last.mpr endsEmpty), List.append_assoc, List.cons_append,
      separatedAll, dropLast_split_cons, List.mapM_cons]
    simp only [bind_assoc, pure_bind]
    rfl
  · rw [if_neg endsEmpty, if_neg (last.not.mpr endsEmpty), separated, List.mapM_cons]

/-- The loop from a position in a body up to the closing bracket. -/
theorem separatedChildren_eq (typeText : Text) (typeEnd : Int) (fuel position : Nat) (depth : Int)
    (body after : Text) (enough : (body ++ '>' :: after).length < fuel)
    (inside : position ≤ typeText.length)
    (here : typeText.drop position = body ++ '>' :: after)
    (ends : typeEnd = position + body.length) :
    separatedChildren child typeText typeEnd fuel position depth =
      bodyChildren child depth body after := by
  induction fuel generalizing position depth body with
  | zero => omega
  | succ fuel inductionHypothesis =>
    have total := length_of_drop inside here
    rw [List.length_append] at total enough
    by_cases empty : body = []
    · subst empty
      rw [bodyChildren, if_pos (by rfl), List.nil_append]
      exact separatedChildren_past child typeText typeEnd (fuel + 1) position depth _
        (by simpa using enough) inside here (Or.inr ⟨by simpa using ends, after, rfl⟩)
    · rcases comma_cases depth body with shielded | ⟨front, rest, rfl, shielded, outside⟩
      · have scan := nextSeparator_shielded typeText body ('>' :: after) typeEnd depth
          (typeText.length + 2) position (by omega) here empty ends shielded
        have part := substr_of_drop inside here
        rw [separatedChildren_step child typeText typeEnd position depth _ _ fuel body scan
          (by rw [ends, show (position : Int) + body.length - position = body.length by omega]
              exact part)]
        have single := split_shielded commaMarks depth body shielded
        have notEmpty : ¬ EndsEmpty depth body := by
          rw [EndsEmpty, single]
          exact fun same => empty (Option.some.inj same)
        rw [bodyChildren, if_neg notEmpty, single]
        simp only [List.mapM_cons, List.mapM_nil, pure_bind, if_true]
      · have long : (front ++ ',' :: rest).length = front.length + 1 + rest.length := by
          rw [List.length_append, List.length_cons]
          omega
        have here' : typeText.drop position = front ++ ',' :: (rest ++ '>' :: after) := by
          rw [here, List.append_assoc, List.cons_append]
        have next := inductionHypothesis (position + front.length + 1)
          (depthAfter commaMarks depth front) rest (by rw [List.length_append]; omega) (by omega)
          (drop_after_separator here') (by rw [ends, long]; push_cast; omega)
        rw [separatedChildren_separator child typeText front (rest ++ '>' :: after) typeEnd depth
          fuel position inside here' (Or.inr (by omega)) (by omega) shielded outside, next]
        exact (bodyChildren_comma child depth front rest after shielded outside).symm

end Loop

/-! ### The branches as equations over the text they read -/

theorem arrayType_eq (self : Text → Outcome LogicalType) (body after : Text) (last : '>' ∉ after) :
    arrayType self ("array<".toList ++ (body ++ '>' :: after)) =
      self body >>= fun childType => pure (.list childType) := by
  have ends : rfindChar '>' ("array<".toList ++ (body ++ '>' :: after)) = 6 + body.length := by
    rw [← List.append_assoc, rfindChar_append '>' _ after last, List.length_append]
    rfl
  have child := substr_inside "array<".toList body ('>' :: after)
  have count : (6 + body.length : Int) - 6 = body.length := by omega
  unfold arrayType
  simp only [ends, count]
  rw [if_pos (by unfold npos; omega), show (6 : Int) = "array<".toList.length from rfl, child]
  rfl

theorem mapType_eq (self : Text → Outcome LogicalType) (body after : Text) (last : '>' ∉ after) :
    mapType self ("map<".toList ++ (body ++ '>' :: after)) =
      bodyChildren self 0 body after >>= mapOfChildren := by
  have ends :
      rfindChar '>' ("map<".toList ++ (body ++ '>' :: after)) = (4 : Nat) + body.length := by
    rw [← List.append_assoc, rfindChar_append '>' _ after last, List.length_append]
    rfl
  have loop := separatedChildren_eq self ("map<".toList ++ (body ++ '>' :: after)) _
    (("map<".toList ++ (body ++ '>' :: after)).length + 1) 4 0 body after
    (by rw [@List.length_append _ "map<".toList]; omega)
    (by rw [@List.length_append _ "map<".toList]; exact Nat.le_add_right _ _)
    (@List.drop_left _ "map<".toList _) rfl
  unfold mapType
  simp only [ends]
  rw [if_pos (by unfold npos; omega)]
  exact congrArg (· >>= mapOfChildren) loop

theorem structType_eq (self : Text → Outcome LogicalType) (body after : Text) (last : '>' ∉ after) :
    structType self ("struct<".toList ++ (body ++ '>' :: after)) =
      bodyChildren (structChild self) 0 body after >>= fun children => pure (.struct children) := by
  have ends : rfindChar '>' ("struct<".toList ++ (body ++ '>' :: after)) =
      (7 : Nat) + body.length := by
    rw [← List.append_assoc, rfindChar_append '>' _ after last, List.length_append]
    rfl
  have loop := separatedChildren_eq (structChild self)
    ("struct<".toList ++ (body ++ '>' :: after)) _
    (("struct<".toList ++ (body ++ '>' :: after)).length + 1) 7 0 body after
    (by rw [@List.length_append _ "struct<".toList]; omega)
    (by rw [@List.length_append _ "struct<".toList]; exact Nat.le_add_right _ _)
    (@List.drop_left _ "struct<".toList _) rfl
  unfold structType
  simp only [ends]
  rw [if_pos (by unfold npos; omega)]
  exact congrArg (· >>= fun children => pure (LogicalType.struct children)) loop

/-- A separated text without a colon is no struct child. -/
theorem structChild_of_not_mem (self : Text → Outcome LogicalType) (childStr : Text)
    (absent : ':' ∉ childStr) :
    structChild self childStr = raise .notImplementedException
      ("Invalid struct child type specifier: ".toList ++ childStr) := by
  unfold structChild
  simp only [findChar_of_not_mem ':' childStr absent, if_true]

/-- A struct child is the text before its first colon and the type of the text behind it. -/
theorem structChild_eq (self : Text → Outcome LogicalType) (name typeStr : Text)
    (first : ':' ∉ name) :
    structChild self (name ++ ':' :: typeStr) =
      self typeStr >>= fun childType => pure (name, childType) := by
  have sep := findChar_append ':' name typeStr first
  have childName : substr (name ++ ':' :: typeStr) 0 name.length = .ok name :=
    substr_inside [] name (':' :: typeStr)
  have childText : substr (name ++ ':' :: typeStr) (name.length + 1) npos = .ok typeStr := by
    have behind := substr_rest (name ++ [':']) typeStr npos (by decide)
    rwa [List.append_assoc, List.length_append] at behind
  unfold structChild
  simp only [sep]
  rw [if_neg (by unfold npos; omega), childName, childText]
  rfl

section Decimal

variable (castUInt8 : CastUInt8)

/-- A decimal type with a closing bracket is read from the two texts that are cut out. -/
theorem decimalType_of_parts {typeText precStr scaleStr : Text} {specEnd sep : Int}
    (ends : findChar ')' typeText = specEnd) (comma : findChar ',' typeText = sep)
    (closed : specEnd ≠ npos) (prec : substr typeText 8 (sep - 8) = .ok precStr)
    (scale : substr typeText (sep + 1) (specEnd - sep - 1) = .ok scaleStr) :
    decimalType castUInt8 typeText =
      Outcome.ofExcept (castUInt8 precStr) >>= fun prec =>
        Outcome.ofExcept (castUInt8 scaleStr) >>= fun scale =>
          LogicalType.ofDecimal prec scale := by
  unfold decimalType
  simp only [ends, comma]
  rw [if_pos closed, prec, scale]
  rfl

/-- The first closing bracket of a decimal type. -/
theorem findChar_decimalEnd (inner after : Text) (firstEnd : ')' ∉ inner) :
    findChar ')' ("decimal(".toList ++ (inner ++ ')' :: after)) = 8 + inner.length := by
  rw [← List.append_assoc, findChar_append ')' _ after (by simpa using firstEnd),
    List.length_append]
  rfl

/-- The first comma of a decimal type. -/
theorem findChar_decimalComma (precStr rest : Text) (firstComma : ',' ∉ precStr) :
    findChar ',' ("decimal(".toList ++ (precStr ++ ',' :: rest)) = 8 + precStr.length := by
  rw [← List.append_assoc, findChar_append ',' _ rest (by simpa using firstComma),
    List.length_append]
  rfl

theorem decimalEnd_ne_npos (inner : Text) : (8 + inner.length : Int) ≠ npos := by
  unfold npos
  omega

/-- The text up to the comma of a decimal type. -/
theorem substr_decimalPrec (precStr rest : Text) :
    substr ("decimal(".toList ++ (precStr ++ rest)) 8 (8 + precStr.length - 8) = .ok precStr := by
  have count : (8 + precStr.length : Int) - 8 = precStr.length := by omega
  rw [count]
  exact substr_inside "decimal(".toList precStr rest

/-- A decimal type whose comma stands before its closing bracket is read from the texts around
the comma. -/
theorem decimalType_eq (precStr scaleStr after : Text) (firstComma : ',' ∉ precStr)
    (firstEnd : ')' ∉ precStr ++ ',' :: scaleStr) :
    decimalType castUInt8
        ("decimal(".toList ++ ((precStr ++ ',' :: scaleStr) ++ ')' :: after)) =
      Outcome.ofExcept (castUInt8 precStr) >>= fun prec =>
        Outcome.ofExcept (castUInt8 scaleStr) >>= fun scale =>
          LogicalType.ofDecimal prec scale := by
  have ends := findChar_decimalEnd (precStr ++ ',' :: scaleStr) after firstEnd
  have closed := decimalEnd_ne_npos (precStr ++ ',' :: scaleStr)
  have whole : (precStr ++ ',' :: scaleStr) ++ ')' :: after =
      precStr ++ ',' :: (scaleStr ++ ')' :: after) := by
    rw [List.append_assoc, List.cons_append]
  rw [whole] at ends ⊢
  have comma := findChar_decimalComma precStr (scaleStr ++ ')' :: after) firstComma
  have prec := substr_decimalPrec precStr (',' :: (scaleStr ++ ')' :: after))
  have scale := substr_inside ("decimal(".toList ++ precStr ++ [',']) scaleStr (')' :: after)
  have start : (("decimal(".toList ++ precStr ++ [',']).length : Int) = 8 + precStr.length + 1 := by
    rw [List.length_append, List.length_append]
    rfl
  have count : (8 + (precStr ++ ',' :: scaleStr).length : Int) - (8 + precStr.length) - 1 =
      scaleStr.length := by
    rw [List.length_append, List.length_cons]
    omega
  rw [start, ← count, List.append_assoc, List.append_assoc] at scale
  exact decimalType_of_parts castUInt8 ends comma closed prec scale

/-- With the comma behind the closing bracket the precision is read up to that comma. -/
theorem decimalType_commaBehind (inner between rest : Text) (noComma : ',' ∉ inner)
    (firstComma : ',' ∉ between) (firstEnd : ')' ∉ inner) :
    decimalType castUInt8 ("decimal(".toList ++ (inner ++ ')' :: (between ++ ',' :: rest))) =
      Outcome.ofExcept (castUInt8 (inner ++ ')' :: between)) >>= fun prec =>
        Outcome.ofExcept (castUInt8 rest) >>= fun scale => LogicalType.ofDecimal prec scale := by
  have ends := findChar_decimalEnd inner (between ++ ',' :: rest) firstEnd
  have whole : inner ++ ')' :: (between ++ ',' :: rest) =
      (inner ++ ')' :: between) ++ ',' :: rest := by
    rw [List.append_assoc, List.cons_append]
  rw [whole] at ends ⊢
  have comma := findChar_decimalComma (inner ++ ')' :: between) rest
    (by simp [noComma, firstComma])
  have prec := substr_decimalPrec (inner ++ ')' :: between) (',' :: rest)
  have scale := substr_rest ("decimal(".toList ++ (inner ++ ')' :: between) ++ [',']) rest
    (8 + inner.length - (8 + (inner ++ ')' :: between).length) - 1)
    (by rw [List.length_append, List.length_cons]; omega)
  have start : (("decimal(".toList ++ (inner ++ ')' :: between) ++ [',']).length : Int) =
      8 + (inner ++ ')' :: between).length + 1 := by
    rw [List.length_append, List.length_append]
    rfl
  rw [start, List.append_assoc, List.append_assoc] at scale
  exact decimalType_of_parts castUInt8 ends comma (decimalEnd_ne_npos inner) prec scale

/-- Without any comma the precision is read up to the end of the text. -/
theorem decimalType_noComma (inner after : Text) (noComma : ',' ∉ inner) (noLater : ',' ∉ after)
    (firstEnd : ')' ∉ inner) :
    decimalType castUInt8 ("decimal(".toList ++ (inner ++ ')' :: after)) =
      Outcome.ofExcept (castUInt8 (inner ++ ')' :: after)) >>= fun prec =>
        Outcome.ofExcept (castUInt8 ("decimal(".toList ++ inner)) >>= fun scale =>
          LogicalType.ofDecimal prec scale := by
  have ends := findChar_decimalEnd inner after firstEnd
  have comma : findChar ',' ("decimal(".toList ++ (inner ++ ')' :: after)) = npos :=
    findChar_of_not_mem ',' _ (by simp [noComma, noLater])
  have prec : substr ("decimal(".toList ++ (inner ++ ')' :: after)) 8 (npos - 8) =
      .ok (inner ++ ')' :: after) :=
    substr_rest "decimal(".toList (inner ++ ')' :: after) (npos - 8) (by decide)
  have scale := substr_inside [] ("decimal(".toList ++ inner) (')' :: after)
  have count : (8 + inner.length - npos - 1 : Int) = ("decimal(".toList ++ inner).length := by
    rw [List.length_append, show "decimal(".toList.length = 8 from rfl]
    unfold npos
    omega
  rw [← count, List.nil_append, List.append_assoc] at scale
  exact decimalType_of_parts castUInt8 ends comma (decimalEnd_ne_npos inner) prec scale

/-- Without a comma before the closing bracket the text read for the precision has the closing
bracket in it. -/
theorem decimalType_of_not_mem (inner after : Text) (noComma : ',' ∉ inner)
    (firstEnd : ')' ∉ inner) :
    ∃ precStr scaleStr, ')' ∈ precStr ∧
      decimalType castUInt8 ("decimal(".toList ++ (inner ++ ')' :: after)) =
        Outcome.ofExcept (castUInt8 precStr) >>= fun prec =>
          Outcome.ofExcept (castUInt8 scaleStr) >>= fun scale =>
            LogicalType.ofDecimal prec scale := by
  by_cases later : ',' ∈ after
  · obtain ⟨between, rest, rfl, firstComma⟩ := List.eq_append_cons_of_mem later
    exact ⟨_, rest, by simp,
      decimalType_commaBehind castUInt8 inner between rest noComma firstComma firstEnd⟩
  · exact ⟨_, _, by simp, decimalType_noComma castUInt8 inner after noComma later firstEnd⟩

end Decimal

end UcCatalog
