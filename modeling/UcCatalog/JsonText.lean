/-
This file is a reader of JSON texts: what RFC 8259 calls a JSON text, and the
value it denotes. It names no program. A text is a list of code units of UTF-8,
one `Char` each; the ones from 128 on stand for themselves, and the character an
escape stands for is written in UTF-8.

The reader takes a bound on its depth and on the length of strings and lists. A
larger bound reads the same value (`readText_mono`), so a text has at most one
value (`Reads.unique`).

A string that is read is no longer than its spelling, and it is as long only
when it is spelled by itself (`Plain`).
-/

import UcCatalog.QueryString

namespace JsonText

open QueryString (hexDigit)

inductive Value where
  | null
  | bool (value : Bool)
  | number (lexeme : List Char)
  | string (text : List Char)
  | array (elements : List Value)
  | object (members : List (List Char × Value))

/-! ### Blanks -/

def isBlank (char : Char) : Bool := char = ' ' ∨ char = '\t' ∨ char = '\n' ∨ char = '\r'

/-- What is behind the blanks in front of a text and a character. -/
def expect (char : Char) (text : List Char) : Option (List Char) :=
  match text.dropWhile isBlank with
  | [] => none
  | found :: rest => if found = char then some rest else none

/-! ### Strings -/

/-- The code unit four hexadecimal digits number. -/
def readUnit : List Char → Option (Nat × List Char)
  | first :: second :: third :: fourth :: rest => do
    let unit := 4096 * (← hexDigit first) + 256 * (← hexDigit second) +
      16 * (← hexDigit third) + (← hexDigit fourth)
    return (unit, rest)
  | _ => none

/-- A code point in UTF-8. -/
def utf8 (code : Nat) : List Char :=
  (String.utf8EncodeChar (Char.ofNat code)).map fun byte => Char.ofNat byte.toNat

/-- What `\u` stands for: a code point, or one half of a pair of surrogates and the other. -/
def readUnicode (text : List Char) : Option (List Char × List Char) := do
  let (unit, rest) ← readUnit text
  if 0xD800 ≤ unit ∧ unit < 0xDC00 then
    match rest with
    | '\\' :: 'u' :: rest =>
      let (low, rest) ← readUnit rest
      if 0xDC00 ≤ low ∧ low < 0xE000 then
        return (utf8 (0x10000 + 0x400 * (unit - 0xD800) + (low - 0xDC00)), rest)
      else none
    | _ => none
  else if 0xDC00 ≤ unit ∧ unit < 0xE000 then none
  else return (utf8 unit, rest)

/-- What a character behind a backslash stands for. -/
def simpleEscape : Char → Option Char
  | '"' => some '"'
  | '\\' => some '\\'
  | '/' => some '/'
  | 'b' => some '\x08'
  | 'f' => some '\x0c'
  | 'n' => some '\n'
  | 'r' => some '\r'
  | 't' => some '\t'
  | _ => none

def readEscape : List Char → Option (List Char × List Char)
  | [] => none
  | 'u' :: rest => readUnicode rest
  | char :: rest => (simpleEscape char).map fun plain => ([plain], rest)

/-- A character that stands for itself in a string. -/
def PlainChar (char : Char) : Prop := ' ' ≤ char ∧ char ≠ '"' ∧ char ≠ '\\'

instance (char : Char) : Decidable (PlainChar char) := inferInstanceAs (Decidable (_ ∧ _))

/-- The text of a string behind its opening quote, and what is behind its closing quote. -/
def readString : Nat → List Char → Option (List Char × List Char)
  | 0, _ => none
  | _ + 1, [] => none
  | fuel + 1, char :: text =>
    if char = '"' then some ([], text)
    else if char = '\\' then do
      let (piece, rest) ← readEscape text
      let (value, rest) ← readString fuel rest
      return (piece ++ value, rest)
    else if PlainChar char then do
      let (value, rest) ← readString fuel text
      return (char :: value, rest)
    else none

theorem length_utf8_le (code : Nat) : (utf8 code).length ≤ 4 := by
  rw [utf8, List.length_map, String.length_utf8EncodeChar]
  exact Char.utf8Size_le_four _

theorem readUnit_consumes {text rest : List Char} {unit : Nat}
    (read : readUnit text = some (unit, rest)) :
    ∃ digits, text = digits ++ rest ∧ digits.length = 4 := by
  unfold readUnit at read
  split at read
  · rename_i first second third fourth rest'
    simp only [bind, pure, Option.bind_eq_some_iff, Option.some.injEq, Prod.mk.injEq] at read
    obtain ⟨_, _, _, _, _, _, _, _, _, rfl⟩ := read
    exact ⟨[first, second, third, fourth], rfl, rfl⟩
  · cases read

/-- What an escape stands for is no longer than the escape without its backslash. -/
theorem readUnicode_consumes {text piece rest : List Char}
    (read : readUnicode text = some (piece, rest)) :
    ∃ raw, text = raw ++ rest ∧ piece.length ≤ raw.length := by
  unfold readUnicode at read
  obtain ⟨⟨unit, behind⟩, readFirst, found⟩ := Option.bind_eq_some_iff.mp read
  obtain ⟨digits, rfl, length⟩ := readUnit_consumes readFirst
  dsimp only at found
  split at found
  · split at found
    · obtain ⟨⟨low, after⟩, readSecond, paired⟩ := Option.bind_eq_some_iff.mp found
      obtain ⟨lowDigits, rfl, _⟩ := readUnit_consumes readSecond
      dsimp only at paired
      split at paired
      · obtain ⟨samePiece, rfl⟩ := Prod.mk.inj (Option.some.inj paired)
        refine ⟨digits ++ '\\' :: 'u' :: lowDigits, by simp, ?_⟩
        rw [← samePiece, List.length_append, length]
        exact (length_utf8_le _).trans (Nat.le_add_right 4 _)
      · cases paired
    · cases found
  · split at found
    · cases found
    · cases found
      exact ⟨digits, rfl, length ▸ length_utf8_le unit⟩

theorem readEscape_consumes {text piece rest : List Char}
    (read : readEscape text = some (piece, rest)) :
    ∃ raw, text = raw ++ rest ∧ piece.length ≤ raw.length := by
  unfold readEscape at read
  split at read
  · cases read
  · obtain ⟨raw, rfl, shorter⟩ := readUnicode_consumes read
    exact ⟨'u' :: raw, rfl, Nat.le_succ_of_le shorter⟩
  · rename_i char rest' _
    obtain ⟨plain, _, same⟩ := Option.map_eq_some_iff.mp read
    cases same
    exact ⟨[char], rfl, Nat.le_refl 1⟩

/-- Every character of the text stands for itself in a string. -/
def Plain (text : List Char) : Prop := ∀ char ∈ text, PlainChar char

instance (text : List Char) : Decidable (Plain text) := List.decidableBAll _ _

/-- A string that is read ends in front of a quote, is no longer than its spelling, and is plain
when it is as long. -/
theorem readString_consumes {fuel : Nat} {text value rest : List Char}
    (read : readString fuel text = some (value, rest)) :
    ∃ raw, text = raw ++ '"' :: rest ∧ value.length ≤ raw.length ∧
      (value.length = raw.length → Plain value) := by
  induction fuel generalizing text value with
  | zero => cases read
  | succ fuel inductionHypothesis =>
    cases text with
    | nil => cases read
    | cons char text =>
      rw [readString] at read
      split_ifs at read with quote backslash plain
      · cases read
        exact ⟨[], by rw [quote]; rfl, Nat.le_refl 0, fun _ _ member => nomatch member⟩
      · obtain ⟨⟨piece, behind⟩, readPiece, read⟩ := Option.bind_eq_some_iff.mp read
        obtain ⟨⟨others, after⟩, readOthers, same⟩ := Option.bind_eq_some_iff.mp read
        cases same
        obtain ⟨rawPiece, rfl, shorterPiece⟩ := readEscape_consumes readPiece
        obtain ⟨raw, rfl, shorter, _⟩ := inductionHypothesis readOthers
        have lengths : (char :: (rawPiece ++ raw)).length = rawPiece.length + raw.length + 1 := by
          rw [List.length_cons, List.length_append]
        refine ⟨char :: (rawPiece ++ raw), by simp, ?_, fun equal => absurd equal ?_⟩
        · rw [lengths, List.length_append]
          omega
        · -- the backslash itself stands for nothing
          rw [lengths, List.length_append]
          omega
      · obtain ⟨⟨others, after⟩, readOthers, same⟩ := Option.bind_eq_some_iff.mp read
        cases same
        obtain ⟨raw, rfl, shorter, plainOthers⟩ := inductionHypothesis readOthers
        refine ⟨char :: raw, rfl, Nat.succ_le_succ shorter, fun equal => ?_⟩
        exact List.forall_mem_cons.mpr ⟨plain, plainOthers (Nat.succ.inj equal)⟩

/-- A plain text in front of a quote is read as itself. -/
theorem readString_plain {fuel : Nat} {value : List Char} (plain : Plain value)
    (enough : value.length < fuel) (rest : List Char) :
    readString fuel (value ++ '"' :: rest) = some (value, rest) := by
  induction value generalizing fuel with
  | nil =>
    cases fuel with
    | zero => exact absurd enough (Nat.lt_irrefl 0)
    | succ fuel => rfl
  | cons char value inductionHypothesis =>
    cases fuel with
    | zero => exact absurd enough (Nat.not_lt_zero _)
    | succ fuel =>
      obtain ⟨isPlain, othersPlain⟩ := List.forall_mem_cons.mp plain
      rw [List.cons_append, readString, if_neg isPlain.2.1, if_neg isPlain.2.2, if_pos isPlain,
        inductionHypothesis othersPlain (Nat.lt_of_succ_lt_succ enough)]
      rfl

theorem readString_mono {fuel more : Nat} (enough : fuel ≤ more) {text : List Char}
    {result : List Char × List Char} (read : readString fuel text = some result) :
    readString more text = some result := by
  induction fuel generalizing more text result with
  | zero => cases read
  | succ fuel inductionHypothesis =>
    obtain ⟨more, rfl⟩ := Nat.exists_eq_add_one_of_ne_zero (Nat.ne_zero_of_lt enough)
    have enough := Nat.le_of_succ_le_succ enough
    cases text with
    | nil => cases read
    | cons char text =>
      rw [readString] at read ⊢
      split_ifs at read ⊢ with quote backslash plain
      · exact read
      · obtain ⟨piece, readPiece, found⟩ := Option.bind_eq_some_iff.mp read
        obtain ⟨others, readOthers, same⟩ := Option.bind_eq_some_iff.mp found
        refine Option.bind_eq_some_iff.mpr ⟨piece, readPiece, ?_⟩
        exact Option.bind_eq_some_iff.mpr ⟨others, inductionHypothesis enough readOthers, same⟩
      · obtain ⟨others, readOthers, same⟩ := Option.bind_eq_some_iff.mp read
        exact Option.bind_eq_some_iff.mpr ⟨others, inductionHypothesis enough readOthers, same⟩

/-! ### Numbers -/

def isDigit (char : Char) : Bool := '0' ≤ char ∧ char ≤ '9'

def isExponent : List Char → Bool
  | [] => true
  | mark :: rest =>
    let digits := if rest.head? = some '+' ∨ rest.head? = some '-' then rest.drop 1 else rest
    (mark = 'e' || mark = 'E') && digits ≠ [] && digits.all isDigit

def isFraction : List Char → Bool
  | '.' :: rest =>
    rest.takeWhile isDigit ≠ [] && isExponent (rest.dropWhile isDigit)
  | rest => isExponent rest

def isNumber (lexeme : List Char) : Bool :=
  let unsigned := if lexeme.head? = some '-' then lexeme.drop 1 else lexeme
  let whole := unsigned.takeWhile isDigit
  whole ≠ [] && (whole = ['0'] || whole.head? ≠ some '0') &&
    isFraction (unsigned.dropWhile isDigit)

/-- A word of the characters numbers and the three literals are made of. -/
def isWordChar (char : Char) : Bool :=
  isDigit char || char = '+' || char = '-' || char = '.' || char = 'E' ||
    ('a' ≤ char ∧ char ≤ 'z')

def readWord (word : List Char) : Option Value :=
  if word = "null".toList then some .null
  else if word = "true".toList then some (.bool true)
  else if word = "false".toList then some (.bool false)
  else if isNumber word then some (.number word)
  else none

/-! ### Values -/

/-- What follows an element or a member: the closing character, or a comma and more of them. -/
def readMore {Element : Type} (close : Char)
    (readNext : List Char → Option (List Element × List Char)) (text : List Char) :
    Option (List Element × List Char) :=
  match expect close text with
  | some rest => some ([], rest)
  | none => do readNext (← expect ',' text)

mutual

def readValue : Nat → List Char → Option (Value × List Char)
  | 0, _ => none
  | fuel + 1, text =>
    match text.dropWhile isBlank with
    | '"' :: rest => do
      let (value, rest) ← readString fuel rest
      return (.string value, rest)
    | '[' :: rest =>
      match expect ']' rest with
      | some rest => return (.array [], rest)
      | none => do
        let (elements, rest) ← readElements fuel rest
        return (.array elements, rest)
    | '\x7b' :: rest =>
      match expect '\x7d' rest with
      | some rest => return (.object [], rest)
      | none => do
        let (members, rest) ← readMembers fuel rest
        return (.object members, rest)
    | text => do
      let value ← readWord (text.takeWhile isWordChar)
      return (value, text.dropWhile isWordChar)

def readElements : Nat → List Char → Option (List Value × List Char)
  | 0, _ => none
  | fuel + 1, text => do
    let (element, rest) ← readValue fuel text
    let (elements, rest) ← readMore ']' (readElements fuel) rest
    return (element :: elements, rest)

def readMembers : Nat → List Char → Option (List (List Char × Value) × List Char)
  | 0, _ => none
  | fuel + 1, text => do
    let opened ← expect '"' text
    let (key, rest) ← readString fuel opened
    let assigned ← expect ':' rest
    let (value, rest) ← readValue fuel assigned
    let (members, rest) ← readMore '\x7d' (readMembers fuel) rest
    return ((key, value) :: members, rest)

end

theorem readMore_mono {Element : Type} {close : Char}
    {next larger : List Char → Option (List Element × List Char)}
    (more : ∀ {text result}, next text = some result → larger text = some result)
    {text : List Char} {result : List Element × List Char}
    (read : readMore close next text = some result) :
    readMore close larger text = some result := by
  unfold readMore at read ⊢
  split at read
  · exact read
  · obtain ⟨behind, expected, found⟩ := Option.bind_eq_some_iff.mp read
    exact Option.bind_eq_some_iff.mpr ⟨behind, expected, more found⟩

/-- A larger bound reads what a smaller one reads. -/
structure Monotone (fuel more : Nat) : Prop where
  value {text : List Char} {result : Value × List Char} :
    readValue fuel text = some result → readValue more text = some result
  elements {text : List Char} {result : List Value × List Char} :
    readElements fuel text = some result → readElements more text = some result
  members {text : List Char} {result : List (List Char × Value) × List Char} :
    readMembers fuel text = some result → readMembers more text = some result

theorem monotone_of_le {fuel more : Nat} (enough : fuel ≤ more) : Monotone fuel more := by
  induction fuel generalizing more with
  | zero => exact ⟨nofun, nofun, nofun⟩
  | succ fuel inductionHypothesis =>
    obtain ⟨more, rfl⟩ := Nat.exists_eq_add_one_of_ne_zero (Nat.ne_zero_of_lt enough)
    have enough := Nat.le_of_succ_le_succ enough
    have smaller := inductionHypothesis enough
    refine ⟨fun {text result} read => ?_, fun {text result} read => ?_,
      fun {text result} read => ?_⟩
    · rw [readValue] at read ⊢
      split at read
      · obtain ⟨found, readFound, same⟩ := Option.bind_eq_some_iff.mp read
        exact Option.bind_eq_some_iff.mpr ⟨found, readString_mono enough readFound, same⟩
      · split at read
        · exact read
        · obtain ⟨found, readFound, same⟩ := Option.bind_eq_some_iff.mp read
          exact Option.bind_eq_some_iff.mpr ⟨found, smaller.elements readFound, same⟩
      · split at read
        · exact read
        · obtain ⟨found, readFound, same⟩ := Option.bind_eq_some_iff.mp read
          exact Option.bind_eq_some_iff.mpr ⟨found, smaller.members readFound, same⟩
      · exact read
    · rw [readElements] at read ⊢
      obtain ⟨first, readFirst, found⟩ := Option.bind_eq_some_iff.mp read
      obtain ⟨others, readOthers, same⟩ := Option.bind_eq_some_iff.mp found
      have readOthers := readMore_mono smaller.elements readOthers
      refine Option.bind_eq_some_iff.mpr ⟨first, smaller.value readFirst, ?_⟩
      exact Option.bind_eq_some_iff.mpr ⟨others, readOthers, same⟩
    · rw [readMembers] at read ⊢
      obtain ⟨opened, expected, found⟩ := Option.bind_eq_some_iff.mp read
      obtain ⟨key, readKey, found⟩ := Option.bind_eq_some_iff.mp found
      obtain ⟨assigned, expectedColon, found⟩ := Option.bind_eq_some_iff.mp found
      obtain ⟨first, readFirst, found⟩ := Option.bind_eq_some_iff.mp found
      obtain ⟨others, readOthers, same⟩ := Option.bind_eq_some_iff.mp found
      have readOthers := readMore_mono smaller.members readOthers
      refine Option.bind_eq_some_iff.mpr ⟨opened, expected, ?_⟩
      refine Option.bind_eq_some_iff.mpr ⟨key, readString_mono enough readKey, ?_⟩
      refine Option.bind_eq_some_iff.mpr ⟨assigned, expectedColon, ?_⟩
      refine Option.bind_eq_some_iff.mpr ⟨first, smaller.value readFirst, ?_⟩
      exact Option.bind_eq_some_iff.mpr ⟨others, readOthers, same⟩

/-- The value of a whole text. -/
def readText (fuel : Nat) (text : List Char) : Option Value := do
  let (value, rest) ← readValue fuel text
  if rest.dropWhile isBlank = [] then return value else none

/-- A text is JSON and denotes a value. -/
def Reads (text : List Char) (value : Value) : Prop := ∃ fuel, readText fuel text = some value

theorem readText_mono {fuel more : Nat} (enough : fuel ≤ more) {text : List Char} {value : Value}
    (read : readText fuel text = some value) : readText more text = some value := by
  obtain ⟨found, readFound, same⟩ := Option.bind_eq_some_iff.mp read
  exact Option.bind_eq_some_iff.mpr ⟨found, (monotone_of_le enough).value readFound, same⟩

theorem Reads.unique {text : List Char} {first second : Value} (readsFirst : Reads text first)
    (readsSecond : Reads text second) : first = second := by
  obtain ⟨fuel, readFirst⟩ := readsFirst
  obtain ⟨more, readSecond⟩ := readsSecond
  have largeFirst := readText_mono (Nat.le_max_left fuel more) readFirst
  have largeSecond := readText_mono (Nat.le_max_right fuel more) readSecond
  exact Option.some.inj (largeFirst.symm.trans largeSecond)

/-! ### Members that are strings -/

theorem readMembers_blank (fuel : Nat) (text : List Char) :
    readMembers fuel (' ' :: text) = readMembers fuel text := by
  cases fuel <;> rfl

/-- A member with a plain key and a string for its value. -/
theorem readMembers_string {fuel : Nat} {key : List Char} (plain : Plain key)
    (enough : key.length ≤ fuel) (text : List Char) :
    readMembers (fuel + 2) ('"' :: (key ++ '"' :: ' ' :: ':' :: ' ' :: '"' :: text)) = do
      let (value, rest) ← readString fuel text
      let (members, rest) ← readMore '\x7d' (readMembers (fuel + 1)) rest
      return ((key, .string value) :: members, rest) := by
  have opened : expect '"' ('"' :: (key ++ '"' :: ' ' :: ':' :: ' ' :: '"' :: text)) =
      some (key ++ '"' :: ' ' :: ':' :: ' ' :: '"' :: text) := rfl
  have assigned : expect ':' (' ' :: ':' :: ' ' :: '"' :: text) = some (' ' :: '"' :: text) := rfl
  have value : readValue (fuel + 1) (' ' :: '"' :: text) = do
      let (value, rest) ← readString fuel text
      return (.string value, rest) := rfl
  have keyed := readString_plain plain (Nat.lt_succ_of_le enough) (' ' :: ':' :: ' ' :: '"' :: text)
  rw [readMembers, opened, Option.bind_eq_bind, Option.bind_some, keyed, Option.bind_eq_bind,
    Option.bind_some]
  dsimp only
  rw [assigned, Option.bind_eq_bind, Option.bind_some, value]
  cases readString fuel text <;> rfl

end JsonText
