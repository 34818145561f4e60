/-
This file fixes what the extension's code is written in: character strings, the
exceptions it raises, and the `std::string` members it calls.

A `size_t` is an integer here, read modulo `2^64` in two's complement: `npos`
is `-1`, and an unsigned subtraction that wraps is a negative integer. No
string is `2^63` characters long, so a negative position or count is larger
than every size, which is all the members below ever ask about one.

Outcomes keep two things apart that C++ keeps apart as well: an exception, which
the caller sees, and a step the language gives no meaning to.
-/

import Mathlib.Data.List.Forall2
import Mathlib.Data.List.Infix
import Mathlib.Tactic.SplitIfs

namespace UcCatalog

/-- The contents of a `std::string`, one `Char` for each `char`. -/
abbrev Text := List Char

/-! ### Exceptions and outcomes -/

/-- The classes of the exceptions the extension raises or lets through. -/
inductive ExceptionType where
  | ioException
  | notImplementedException
  | internalException
  | binderException
  | invalidInputException
  | catalogException
  | conversionException
  deriving DecidableEq

/-- An exception: its class and its message. -/
structure Exception where
  type : ExceptionType
  message : Text
  deriving DecidableEq

/-- The steps the code can take that C++ gives no meaning to. -/
inductive Undefined where
  /-- `type_text[i]` with `i` past `type_text.size()`. -/
  | readPastEnd
  /-- A null `const char *` assigned to a `std::string`. -/
  | nullString
  /-- A null `table_data` dereferenced, after a `D_ASSERT` that a release build drops. -/
  | nullTableData
  /-- A catalog entry used after the set that owned it was cleared. -/
  | danglingEntry
  deriving DecidableEq

/-- How a call can end without a result. -/
inductive Fault where
  | raised (exception : Exception)
  /-- `std::out_of_range`, which `substr` throws and which is none of DuckDB's exceptions. -/
  | outOfRange
  | undefined (cause : Undefined)
  /-- The call does not return. -/
  | diverges
  deriving DecidableEq

/-- The fault is one of DuckDB's exceptions. -/
def Fault.IsRaised (fault : Fault) : Prop := ∃ exception, fault = .raised exception

/-- The outcome of a call. -/
abbrev Outcome (Result : Type) := Except Fault Result

/-- `throw`. -/
def raise {Result : Type} (type : ExceptionType) (message : Text) : Outcome Result :=
  .error (.raised ⟨type, message⟩)

/-- The outcome of a function that returns or raises. -/
def Outcome.ofExcept {Result : Type} : Except Exception Result → Outcome Result
  | .ok result => .ok result
  | .error exception => .error (.raised exception)

@[simp] theorem Outcome.ofExcept_eq_ok {Result : Type} (outcome : Except Exception Result)
    (result : Result) : Outcome.ofExcept outcome = .ok result ↔ outcome = .ok result := by
  cases outcome <;> simp [Outcome.ofExcept]

theorem Outcome.ofExcept_eq_error {Result : Type} {outcome : Except Exception Result}
    {fault : Fault} (failed : Outcome.ofExcept outcome = .error fault) : fault.IsRaised := by
  cases outcome with
  | ok result => exact nomatch failed
  | error exception => exact ⟨exception, (Except.error.inj failed).symm⟩

/-- A bind returns exactly when both halves return. -/
theorem Outcome.bind_eq_ok {Error First Second : Type} (first : Except Error First)
    (next : First → Except Error Second) (result : Second) :
    first >>= next = .ok result ↔ ∃ value, first = .ok value ∧ next value = .ok result := by
  cases first with
  | ok value =>
    refine ⟨fun returned => ⟨value, rfl, returned⟩, ?_⟩
    rintro ⟨_, same, returned⟩
    cases same
    exact returned
  | error fault => exact ⟨nofun, fun ⟨_, same, _⟩ => nomatch same⟩

/-- A bind fails when the first half does, or the second on what the first returned. -/
theorem Outcome.bind_eq_error {Error First Second : Type} (first : Except Error First)
    (next : First → Except Error Second) (fault : Error) :
    first >>= next = .error fault ↔
      first = .error fault ∨ ∃ value, first = .ok value ∧ next value = .error fault := by
  cases first with
  | ok value =>
    refine ⟨fun failed => Or.inr ⟨value, rfl, failed⟩, ?_⟩
    rintro (failed | ⟨_, same, failed⟩)
    · exact nomatch failed
    · cases same
      exact failed
  | error other =>
    refine ⟨fun failed => Or.inl (congrArg Except.error (Except.error.inj failed)), ?_⟩
    rintro (failed | ⟨_, same, _⟩)
    · exact congrArg Except.error (Except.error.inj failed)
    · exact nomatch same

/-! ### Loops over a list -/

theorem mapM_congr {Error First Second : Type} {left right : First → Except Error Second}
    {list : List First} (same : ∀ element ∈ list, left element = right element) :
    list.mapM left = list.mapM right := by
  induction list with
  | nil => rfl
  | cons head rest inductionHypothesis =>
    rw [List.mapM_cons, List.mapM_cons, same head List.mem_cons_self,
      inductionHypothesis fun element member => same element (List.mem_cons_of_mem _ member)]

/-- A traversal returns exactly when every call does. -/
theorem mapM_eq_ok {Error First Second : Type} (child : First → Except Error Second)
    (list : List First) (values : List Second) :
    list.mapM child = .ok values ↔
      List.Forall₂ (fun element value => child element = .ok value) list values := by
  induction list generalizing values with
  | nil =>
    rw [List.mapM_nil, List.forall₂_nil_left_iff]
    exact ⟨fun same => (Except.ok.inj same).symm, fun same => same ▸ rfl⟩
  | cons head rest inductionHypothesis =>
    rw [List.mapM_cons, Outcome.bind_eq_ok, List.forall₂_cons_left_iff]
    constructor
    · rintro ⟨value, returned, next⟩
      obtain ⟨others, restReturned, same⟩ := (Outcome.bind_eq_ok _ _ _).mp next
      exact ⟨value, others, returned, (inductionHypothesis others).mp restReturned,
        (Except.ok.inj same).symm⟩
    · rintro ⟨value, others, returned, restReturned, rfl⟩
      refine ⟨value, returned, ?_⟩
      rw [(inductionHypothesis others).mpr restReturned]
      rfl

/-- A member of one of two related lists is related to a member of the other. -/
theorem related_of_mem {First Second : Type} {related : First → Second → Prop}
    {list : List First} {others : List Second} (pairs : List.Forall₂ related list others)
    {element : First} (member : element ∈ list) : ∃ other ∈ others, related element other := by
  induction pairs with
  | nil => exact absurd member List.not_mem_nil
  | cons headRelated _ inductionHypothesis =>
    rcases List.mem_cons.mp member with rfl | inRest
    · exact ⟨_, List.mem_cons_self, headRelated⟩
    · obtain ⟨other, inOthers, isRelated⟩ := inductionHypothesis inRest
      exact ⟨other, List.mem_cons_of_mem _ inOthers, isRelated⟩

theorem returns_of_mem {Error First Second : Type} {child : First → Except Error Second}
    {list : List First} {values : List Second} (returned : list.mapM child = .ok values)
    {element : First} (member : element ∈ list) : ∃ value, child element = .ok value := by
  obtain ⟨value, _, same⟩ := related_of_mem ((mapM_eq_ok child list values).mp returned) member
  exact ⟨value, same⟩

/-- Two traversals in a row are one, where the first returns. -/
theorem mapM_bind_of_ok {Error First Second Third : Type} {first : First → Except Error Second}
    {list : List First} {values : List Second} (returned : list.mapM first = .ok values)
    (next : Second → Except Error Third) :
    values.mapM next = list.mapM fun element => first element >>= next := by
  have pairs := (mapM_eq_ok first list values).mp returned
  clear returned
  induction pairs with
  | nil => rfl
  | cons headReturned _ inductionHypothesis =>
    rw [List.mapM_cons, List.mapM_cons, headReturned, inductionHypothesis]
    rfl

theorem exists_of_returned {Error First Second : Type} {child : First → Except Error Second}
    {list : List First} {values : List Second} (returned : list.mapM child = .ok values)
    {value : Second} (member : value ∈ values) : ∃ element ∈ list, child element = .ok value :=
  related_of_mem ((mapM_eq_ok child list values).mp returned).flip member

theorem ofExcept_mapM {First Second : Type} (child : First → Except Exception Second)
    (list : List First) :
    Outcome.ofExcept (list.mapM child) =
      list.mapM fun element => Outcome.ofExcept (child element) := by
  induction list with
  | nil => rfl
  | cons head rest inductionHypothesis =>
    rw [List.mapM_cons, List.mapM_cons, ← inductionHypothesis]
    cases child head with
    | error exception => rfl
    | ok value => cases rest.mapM child <;> rfl

theorem returns_of_all {Error First Second : Type} {child : First → Except Error Second}
    {list : List First} (all : ∀ element ∈ list, ∃ value, child element = .ok value) :
    ∃ values, list.mapM child = .ok values := by
  induction list with
  | nil => exact ⟨[], rfl⟩
  | cons head rest inductionHypothesis =>
    obtain ⟨value, returned⟩ := all head List.mem_cons_self
    obtain ⟨values, restReturned⟩ :=
      inductionHypothesis fun element member => all element (List.mem_cons_of_mem _ member)
    exact ⟨value :: values, by rw [List.mapM_cons, returned, restReturned]; rfl⟩

/-- Lists that agree element by element under two functions have the same images. -/
theorem map_eq_map_of_related {First Second Image : Type} {left : First → Image}
    {right : Second → Image} {list : List First} {others : List Second}
    (related : List.Forall₂ (fun element other => left element = right other) list others) :
    list.map left = others.map right := by
  induction related with
  | nil => rfl
  | cons same _ inductionHypothesis => rw [List.map_cons, List.map_cons, same, inductionHypothesis]

/-- A traversal of elements that each return something good returns good things. -/
theorem mapM_related {Error First Second Source : Type} {child : First → Except Error Second}
    {relates : First → Source → Prop} {good : Second → Source → Prop} {list : List First}
    {sources : List Source} (related : List.Forall₂ relates list sources)
    (each : ∀ element, ∀ source ∈ sources, relates element source →
      ∃ value, child element = .ok value ∧ good value source) :
    ∃ values, list.mapM child = .ok values ∧ List.Forall₂ good values sources := by
  induction related with
  | nil => exact ⟨[], rfl, .nil⟩
  | cons headRelated _ inductionHypothesis =>
    obtain ⟨value, returned, isGood⟩ := each _ _ List.mem_cons_self headRelated
    obtain ⟨values, restReturned, restGood⟩ := inductionHypothesis fun element source member =>
      each element source (List.mem_cons_of_mem _ member)
    exact ⟨value :: values, by rw [List.mapM_cons, returned, restReturned]; rfl,
      .cons isGood restGood⟩

/-- A traversal returns exactly when each source is good, if a call returns exactly on elements of
good ones. -/
theorem mapM_returns_iff {Error First Second Source : Type} {child : First → Except Error Second}
    {good : Source → Prop} {list : List First} {sources : List Source}
    (each : List.Forall₂ (fun element source => (∃ value, child element = .ok value) ↔ good source)
      list sources) :
    (∃ values, list.mapM child = .ok values) ↔ ∀ source ∈ sources, good source := by
  constructor
  · rintro ⟨values, returned⟩ source member
    obtain ⟨element, inList, iff⟩ := related_of_mem each.flip member
    exact iff.mp (returns_of_mem returned inList)
  · intro all
    refine returns_of_all fun element member => ?_
    obtain ⟨source, inSources, iff⟩ := related_of_mem each member
    exact iff.mpr (all source inSources)

/-- What a traversal returns has the keys of the sources, if each call returns the key of its
source. -/
theorem map_eq_of_returned {Error First Second Source Key : Type}
    {child : First → Except Error Second} {key : Second → Key} {name : Source → Key}
    {list : List First} {sources : List Source} {values : List Second}
    (each : List.Forall₂ (fun element source => ∀ value, child element = .ok value →
      key value = name source) list sources)
    (returned : list.mapM child = .ok values) : values.map key = sources.map name := by
  have pairs := (mapM_eq_ok child list values).mp returned
  clear returned
  induction each generalizing values with
  | nil =>
    cases pairs
    rfl
  | cons headKey _ inductionHypothesis =>
    cases pairs with
    | cons headReturned rest =>
      rw [List.map_cons, List.map_cons, headKey _ headReturned, inductionHypothesis rest]

/-- A traversal fails with the fault of the first call that does not return. -/
theorem mapM_eq_error {Error First Second : Type} (child : First → Except Error Second)
    (list : List First) (fault : Error) :
    list.mapM child = .error fault ↔
      ∃ done element more, list = done ++ element :: more ∧
        (∀ earlier ∈ done, ∃ value, child earlier = .ok value) ∧ child element = .error fault := by
  induction list with
  | nil =>
    rw [List.mapM_nil]
    refine ⟨nofun, ?_⟩
    rintro ⟨done, element, more, same, _⟩
    exact absurd same.symm (List.append_ne_nil_of_right_ne_nil _ (List.cons_ne_nil _ _))
  | cons head rest inductionHypothesis =>
    rw [List.mapM_cons, Outcome.bind_eq_error]
    constructor
    · rintro (failed | ⟨value, returned, next⟩)
      · exact ⟨[], head, rest, rfl, by simp, failed⟩
      · rcases (Outcome.bind_eq_error _ _ _).mp next with restFailed | ⟨_, _, pure⟩
        · obtain ⟨done, element, more, rfl, before, failed⟩ := inductionHypothesis.mp restFailed
          refine ⟨head :: done, element, more, rfl, ?_, failed⟩
          simpa using ⟨⟨value, returned⟩, before⟩
        · exact nomatch pure
    · rintro ⟨done, element, more, same, before, failed⟩
      cases done with
      | nil =>
        cases same
        exact Or.inl failed
      | cons first done =>
        obtain ⟨rfl, rfl⟩ := List.cons.inj same
        obtain ⟨value, returned⟩ := before head List.mem_cons_self
        refine Or.inr ⟨value, returned, (Outcome.bind_eq_error _ _ _).mpr (Or.inl ?_)⟩
        exact inductionHypothesis.mpr ⟨done, element, more, rfl,
          fun earlier member => before earlier (List.mem_cons_of_mem _ member), failed⟩

/-- Of two traversals in a row, the second is one of the elements when the first returns. -/
theorem mapM_mapM_eq_error {Error First Second Third : Type} (first : First → Except Error Second)
    (next : Second → Except Error Third) (list : List First) (fault : Error) :
    (list.mapM first >>= fun values => values.mapM next) = .error fault ↔
      list.mapM first = .error fault ∨
        (∃ values, list.mapM first = .ok values) ∧
          (list.mapM fun element => first element >>= next) = .error fault := by
  rw [Outcome.bind_eq_error]
  refine or_congr_right ⟨?_, ?_⟩
  · rintro ⟨values, returned, failed⟩
    exact ⟨⟨values, returned⟩, (mapM_bind_of_ok returned next).symm.trans failed⟩
  · rintro ⟨⟨values, returned⟩, failed⟩
    exact ⟨values, returned, (mapM_bind_of_ok returned next).trans failed⟩

/-! ### Members of `std::string` -/

/-- `std::string::npos`. -/
def npos : Int := -1

/-- `text.size()`. -/
def size (text : Text) : Int := text.length

/-- `text.find(pattern)`: the first position at which the pattern stands. -/
def find (pattern : Text) : Text → Int
  | [] => if pattern = [] then 0 else npos
  | char :: rest =>
    if pattern.isPrefixOf (char :: rest) then 0
    else if find pattern rest = npos then npos else find pattern rest + 1

/-- `text.find(char)`: the first position of a character. -/
def findChar (wanted : Char) : Text → Int
  | [] => npos
  | char :: rest =>
    if char = wanted then 0
    else if findChar wanted rest = npos then npos else findChar wanted rest + 1

/-- `text.rfind(char)`: the last position of a character. -/
def rfindChar (wanted : Char) : Text → Int
  | [] => npos
  | char :: rest =>
    if rfindChar wanted rest ≠ npos then rfindChar wanted rest + 1
    else if char = wanted then 0 else npos

/-- `text.substr(pos, count)`: raises for a start past the end, and stops at the end for a count
that reaches past it. -/
def substr (text : Text) (pos count : Int) : Outcome Text :=
  if pos < 0 ∨ size text < pos then .error .outOfRange
  else if count < 0 then .ok (text.drop pos.toNat)
  else .ok ((text.drop pos.toNat).take count.toNat)

/-- The character a `std::string` ends with, at `size()`. -/
def terminator : Char := Char.ofNat 0

/-- `text[index]`: the terminator at `size()`, and no meaning past it. -/
def charAt (text : Text) (index : Int) : Outcome Char :=
  if index = size text then .ok terminator
  else if index < 0 then .error (.undefined .readPastEnd)
  else match text[index.toNat]? with
    | some char => .ok char
    | none => .error (.undefined .readPastEnd)

/-! ### What the members answer -/

theorem find_eq_zero (pattern text : Text) : find pattern text = 0 ↔ pattern <+: text := by
  have small : ∀ rest : Text, -1 ≤ find pattern rest := by
    intro rest
    induction rest with
    | nil => unfold find npos; split_ifs <;> omega
    | cons char rest inductionHypothesis => unfold find npos; split_ifs <;> omega
  cases text with
  | nil =>
    unfold find npos
    rw [List.prefix_nil]
    split_ifs with empty <;> simp [empty]
  | cons char rest =>
    have bound := small rest
    rw [← List.isPrefixOf_iff_prefix]
    unfold find npos
    split_ifs with found missing
    · simp [found]
    · simp [found]
    · simp only [found, iff_false, Bool.false_eq_true]
      omega

theorem findChar_of_not_mem (wanted : Char) (text : Text) (absent : wanted ∉ text) :
    findChar wanted text = npos := by
  induction text with
  | nil => rfl
  | cons char rest inductionHypothesis =>
    rw [List.mem_cons, not_or] at absent
    rw [findChar, if_neg (Ne.symm absent.1), if_pos (inductionHypothesis absent.2)]

/-- The first position of a character is the length of what stands before it. -/
theorem findChar_append (wanted : Char) (front rest : Text) (absent : wanted ∉ front) :
    findChar wanted (front ++ wanted :: rest) = front.length := by
  induction front with
  | nil => rw [List.nil_append, findChar, if_pos rfl]; rfl
  | cons char front inductionHypothesis =>
    rw [List.mem_cons, not_or] at absent
    have found := inductionHypothesis absent.2
    rw [List.cons_append, findChar, if_neg (Ne.symm absent.1), found,
      if_neg (by unfold npos; omega),
      List.length_cons]
    omega

theorem rfindChar_of_not_mem (wanted : Char) (text : Text) (absent : wanted ∉ text) :
    rfindChar wanted text = npos := by
  induction text with
  | nil => rfl
  | cons char rest inductionHypothesis =>
    rw [List.mem_cons, not_or] at absent
    have missing := inductionHypothesis absent.2
    rw [rfindChar, missing, if_neg (fun differ => differ rfl), if_neg (Ne.symm absent.1)]

/-- The last position of a character is the length of what stands before its last occurrence. -/
theorem rfindChar_append (wanted : Char) (front rest : Text) (absent : wanted ∉ rest) :
    rfindChar wanted (front ++ wanted :: rest) = front.length := by
  induction front with
  | nil =>
    rw [List.nil_append, rfindChar, rfindChar_of_not_mem wanted rest absent,
      if_neg (fun differ => differ rfl), if_pos rfl]
    rfl
  | cons char front inductionHypothesis =>
    rw [List.cons_append, rfindChar, inductionHypothesis, if_pos (by unfold npos; omega),
      List.length_cons]
    omega

/-- A text splits at the first occurrence of a character in one way. -/
theorem first_unique {char : Char} {front other rest after : Text} (first : char ∉ front)
    (otherFirst : char ∉ other) (same : front ++ char :: rest = other ++ char :: after) :
    front = other ∧ rest = after := by
  have position := findChar_append char front rest first
  rw [same, findChar_append char other after otherFirst] at position
  obtain ⟨fronts, rests⟩ := List.append_inj same (by omega)
  exact ⟨fronts, (List.cons.inj rests).2⟩

/-- A text splits at the last occurrence of a character in one way. -/
theorem last_unique {char : Char} {front other rest after : Text} (last : char ∉ rest)
    (otherLast : char ∉ after) (same : front ++ char :: rest = other ++ char :: after) :
    front = other ∧ rest = after := by
  have position := rfindChar_append char front rest last
  rw [same, rfindChar_append char other after otherLast] at position
  obtain ⟨fronts, rests⟩ := List.append_inj same (by omega)
  exact ⟨fronts, (List.cons.inj rests).2⟩

/-- A text with the character splits at its last occurrence. -/
theorem exists_last (wanted : Char) (text : Text) (member : wanted ∈ text) :
    ∃ front rest, text = front ++ wanted :: rest ∧ wanted ∉ rest := by
  induction text with
  | nil => exact absurd member List.not_mem_nil
  | cons char rest inductionHypothesis =>
    by_cases later : wanted ∈ rest
    · obtain ⟨front, after, rfl, absent⟩ := inductionHypothesis later
      exact ⟨char :: front, after, rfl, absent⟩
    · rcases List.mem_cons.mp member with rfl | inRest
      · exact ⟨[], rest, rfl, later⟩
      · exact absurd inRest later

/-- A position inside a text reads the character that stands there. -/
theorem charAt_inside (text : Text) (position : Nat) (char : Char) (rest : Text)
    (here : text.drop position = char :: rest) : charAt text position = .ok char := by
  have inside : position < text.length := by
    have shorter := congrArg List.length here
    rw [List.length_drop, List.length_cons] at shorter
    omega
  have found : text[position]? = some char := by
    rw [← List.head?_drop, here, List.head?_cons]
  unfold charAt size
  rw [if_neg (by omega), if_neg (by omega), Int.toNat_natCast, found]

/-- The end of a text reads its terminator. -/
theorem charAt_end (text : Text) : charAt text text.length = .ok terminator := by
  unfold charAt size
  rw [if_pos rfl]

/-- Past its end a text has nothing to read. -/
theorem charAt_past (text : Text) (position : Nat) (past : text.length < position) :
    charAt text position = .error (.undefined .readPastEnd) := by
  unfold charAt size
  rw [if_neg (by omega), if_neg (by omega), Int.toNat_natCast, List.getElem?_eq_none (by omega)]

/-- A substring inside the text is what stands there. -/
theorem substr_inside (front middle rest : Text) :
    substr (front ++ (middle ++ rest)) front.length middle.length = .ok middle := by
  unfold substr size
  rw [if_neg (by rw [List.length_append]; omega), if_neg (by omega)]
  simp

/-- A substring of a wrapped count reaches to the end. -/
theorem substr_rest (front rest : Text) (count : Int) (wrapped : count < 0) :
    substr (front ++ rest) front.length count = .ok rest := by
  unfold substr size
  rw [if_neg (by rw [List.length_append]; omega), if_pos wrapped]
  simp

end UcCatalog
