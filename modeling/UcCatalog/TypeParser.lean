/-
This file is the column type parser, `UCUtils::TypeToLogicalType`, with the
logical types it builds. The function calls itself on the texts of the child
types; its body is `typeFrame`, written over the function `self` it calls, and
`typeToLogicalType` ties the knot with enough fuel for every text.

The parser takes one function from DuckDB, the cast of a numeral to an 8-bit
integer. It is a parameter throughout; what the results need of it is stated by
`CastsNumerals`, `CastsNumbersOnly` and `QuotesRejected`.
-/

import UcCatalog.CxxString

namespace UcCatalog

/-! ### Logical types -/

/-- The part of DuckDB's `LogicalType` the parser builds. -/
inductive LogicalType where
  | tinyint
  | smallint
  | bigint
  | integer
  | varchar
  | double
  | float
  | boolean
  | timestamp
  | blob
  | date
  | decimal (width scale : UInt8)
  | list (child : LogicalType)
  | map (key value : LogicalType)
  | struct (children : List (Text × LogicalType))

/-- `LogicalType::DECIMAL`, in a release build: the one check is on the width. -/
def LogicalType.ofDecimal (width scale : UInt8) : Outcome LogicalType :=
  if width ≤ 38 then .ok (.decimal width scale)
  else raise .internalException
    ("Decimal has a width of ".toList ++ Nat.toDigits 10 width.toNat ++
      " which is bigger than the maximum supported width of 38".toList)

/-! ### The cast the parser takes from DuckDB -/

/-- `Cast::Operation<string_t, uint8_t>`. -/
abbrev CastUInt8 := Text → Except Exception UInt8

/-- The decimal numeral of a number. -/
def numeral (number : UInt8) : Text := Nat.toDigits 10 number.toNat

/-- The cast reads the numerals of its type. -/
def CastsNumerals (castUInt8 : CastUInt8) : Prop :=
  ∀ number, castUInt8 (numeral number) = .ok number

/-- The punctuation of the type syntax. -/
def punctuation : Text := [',', '(', ')', '<', '>', ':']

/-- The cast accepts numbers only: no text with the punctuation of the type syntax in it. -/
def CastsNumbersOnly (castUInt8 : CastUInt8) : Prop :=
  ∀ text number, castUInt8 text = .ok number → ∀ char ∈ punctuation, char ∉ text

/-- The cast says which text it does not convert. -/
def QuotesRejected (castUInt8 : CastUInt8) : Prop :=
  ∀ text exception, castUInt8 text = .error exception → text <:+: exception.message

/-- A cast that reads exactly the plain decimal numerals of its type, as DuckDB's does on them. -/
def castPlainNumeral : CastUInt8 := fun text =>
  if text ≠ [] ∧ text.all Char.isDigit ∧ Nat.ofDigitChars 10 text 0 < 256 then
    .ok (UInt8.ofNat (Nat.ofDigitChars 10 text 0))
  else .error ⟨.invalidInputException,
    "Could not convert string '".toList ++ text ++ "' to UINT8".toList⟩

theorem numeral_isDigit (number : UInt8) (char : Char) (member : char ∈ numeral number) :
    char.isDigit :=
  Nat.isDigit_of_mem_toDigits (by decide) (by decide) member

theorem numeral_ne_nil (number : UInt8) : numeral number ≠ [] := Nat.toDigits_ne_nil

/-- Digits are no punctuation. -/
theorem not_mem_of_isDigit {text : Text} (digits : ∀ char ∈ text, char.isDigit) {char : Char}
    (mark : char ∈ punctuation) : char ∉ text := by
  intro member
  have plain : (punctuation.all fun symbol => !symbol.isDigit) = true := by decide
  have noDigit := List.all_eq_true.mp plain char mark
  rw [digits char member] at noDigit
  exact Bool.false_ne_true noDigit

theorem castPlainNumeral_numerals : CastsNumerals castPlainNumeral := by
  intro number
  have value : Nat.ofDigitChars 10 (numeral number) 0 = number.toNat :=
    Nat.ofDigitChars_toDigits (by decide) (by decide)
  have small : number.toNat < 256 := number.toNat_lt
  have digits : (numeral number).all Char.isDigit := List.all_eq_true.mpr (numeral_isDigit number)
  rw [castPlainNumeral, value, if_pos ⟨numeral_ne_nil number, digits, small⟩, UInt8.ofNat_toNat]

theorem castPlainNumeral_numbersOnly : CastsNumbersOnly castPlainNumeral := by
  intro text number accepted char mark
  unfold castPlainNumeral at accepted
  split at accepted
  · rename_i plain
    exact not_mem_of_isDigit (List.all_eq_true.mp plain.2.1) mark
  · cases accepted

theorem castPlainNumeral_quotes : QuotesRejected castPlainNumeral := by
  intro text exception rejected
  unfold castPlainNumeral at rejected
  split at rejected
  · cases rejected
  · cases rejected
    exact List.infix_append _ text _

/-! ### The branches of the parser -/

/-- The names that stand for one type each, in the order of the comparisons. The second
`timestamp` is never reached. -/
def primitiveTypes : List (Text × LogicalType) := [
  ("tinyint".toList, .tinyint),
  ("smallint".toList, .smallint),
  ("bigint".toList, .bigint),
  ("int".toList, .integer),
  ("long".toList, .bigint),
  ("string".toList, .varchar),
  ("double".toList, .double),
  ("float".toList, .float),
  ("boolean".toList, .boolean),
  ("timestamp".toList, .timestamp),
  ("binary".toList, .blob),
  ("date".toList, .date),
  ("timestamp".toList, .timestamp)]

/-- The `throw` at the end of the function, which every branch that finds no end falls to. -/
def unknownType (typeText : Text) : Outcome LogicalType :=
  raise .notImplementedException
    ("Tried to fallback to unknown type for '".toList ++ typeText ++ "'".toList)

/-- The `decimal(` branch. -/
def decimalType (castUInt8 : CastUInt8) (typeText : Text) : Outcome LogicalType :=
  let specEnd := findChar ')' typeText
  if specEnd ≠ npos then do
    let sep := findChar ',' typeText
    let precStr ← substr typeText 8 (sep - 8)
    let scaleStr ← substr typeText (sep + 1) (specEnd - sep - 1)
    let prec ← Outcome.ofExcept (castUInt8 precStr)
    let scale ← Outcome.ofExcept (castUInt8 scaleStr)
    LogicalType.ofDecimal prec scale
  else unknownType typeText

/-- The `array<` branch. -/
def arrayType (self : Text → Outcome LogicalType) (typeText : Text) : Outcome LogicalType :=
  let typeEnd := rfindChar '>' typeText
  if typeEnd ≠ npos then do
    let childTypeStr ← substr typeText 6 (typeEnd - 6)
    let childType ← self childTypeStr
    return .list childType
  else unknownType typeText

/-- The inner loop of the `map<` and `struct<` branches: from `nextSep` on, the position of the
next separator outside nested brackets or of the end, and the count of open brackets there. -/
def nextSeparator (typeText : Text) (typeEnd : Int) : Nat → Int → Int → Outcome (Int × Int)
  | 0, _, _ => .error .diverges
  | fuel + 1, nextSep, nestedOpens => do
    let char ← charAt typeText nextSep
    if char ≠ ',' ∨ nestedOpens > 0 then
      let nestedOpens :=
        if char = '<' then nestedOpens + 1
        else if char = '>' then nestedOpens - 1
        else nestedOpens
      let nextSep := nextSep + 1
      if nextSep = typeEnd then return (nextSep, nestedOpens)
      else nextSeparator typeText typeEnd fuel nextSep nestedOpens
    else return (nextSep, nestedOpens)

/-- The outer loop of the `map<` and `struct<` branches, which differ in what they make of a
separated text: `child` is that part. -/
def separatedChildren {Child : Type} (child : Text → Outcome Child) (typeText : Text)
    (typeEnd : Int) : Nat → Int → Int → Outcome (List Child)
  | 0, _, _ => .error .diverges
  | fuel + 1, cur, nestedOpens => do
    let (nextSep, nestedOpens) ←
      nextSeparator typeText typeEnd (typeText.length + 2) cur nestedOpens
    let childStr ← substr typeText cur (nextSep - cur)
    let value ← child childStr
    if nextSep = typeEnd then return [value]
    else do
      let values ← separatedChildren child typeText typeEnd fuel (nextSep + 1) nestedOpens
      return value :: values

/-- The `map<` branch after its loop. -/
def mapOfChildren : List LogicalType → Outcome LogicalType
  | [key, value] => .ok (.map key value)
  | keyVal => raise .notImplementedException
      ("Invalid map specification with ".toList ++ Nat.toDigits 10 keyVal.length ++
        " types".toList)

/-- The `map<` branch. -/
def mapType (self : Text → Outcome LogicalType) (typeText : Text) : Outcome LogicalType :=
  let typeEnd := rfindChar '>' typeText
  if typeEnd ≠ npos then do
    let keyVal ← separatedChildren self typeText typeEnd (typeText.length + 1) 4 0
    mapOfChildren keyVal
  else unknownType typeText

/-- What the `struct<` branch makes of one separated text. -/
def structChild (self : Text → Outcome LogicalType) (childStr : Text) :
    Outcome (Text × LogicalType) :=
  let typeSep := findChar ':' childStr
  if typeSep = npos then
    raise .notImplementedException
      ("Invalid struct child type specifier: ".toList ++ childStr)
  else do
    let childName ← substr childStr 0 typeSep
    let childTypeStr ← substr childStr (typeSep + 1) npos
    let childType ← self childTypeStr
    return (childName, childType)

/-- The `struct<` branch. -/
def structType (self : Text → Outcome LogicalType) (typeText : Text) : Outcome LogicalType :=
  let typeEnd := rfindChar '>' typeText
  if typeEnd ≠ npos then do
    let children ←
      separatedChildren (structChild self) typeText typeEnd (typeText.length + 1) 7 0
    return .struct children
  else unknownType typeText

/-! ### The function -/

section Frame

variable (castUInt8 : CastUInt8)

/-- The body of `TypeToLogicalType`, over the function it calls for child types. -/
def typeFrame (self : Text → Outcome LogicalType) (typeText : Text) : Outcome LogicalType :=
  match primitiveTypes.lookup typeText with
  | some type => .ok type
  | none =>
    if find "decimal(".toList typeText = 0 then decimalType castUInt8 typeText
    else if find "array<".toList typeText = 0 then arrayType self typeText
    else if find "map<".toList typeText = 0 then mapType self typeText
    else if find "struct<".toList typeText = 0 then structType self typeText
    else unknownType typeText

/-- The recursion, cut off after as many nested calls as there is fuel. -/
def typeToLogicalTypeFueled : Nat → Text → Outcome LogicalType
  | 0, _ => .error .diverges
  | fuel + 1, typeText => typeFrame castUInt8 (typeToLogicalTypeFueled fuel) typeText

/-- `UCUtils::TypeToLogicalType`. -/
def typeToLogicalType (typeText : Text) : Outcome LogicalType :=
  typeToLogicalTypeFueled castUInt8 (typeText.length + 1) typeText

end Frame

end UcCatalog
