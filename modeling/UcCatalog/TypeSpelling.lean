/-
This file compares the type parser with the spelling Unity Catalog gives a column
type. `ColumnType` is the language of column types, `spelling` its text without
blanks and `logical` the DuckDB type it stands for.

The parser inverts the spelling exactly on the types in which no decimal stands
directly below a map or a struct (`Separable`). The loops of those branches skip
the commas inside angle brackets, and a decimal carries its comma inside round
ones: its spelling falls into two parts, and the first of them has no closing
bracket.
-/

import UcCatalog.TypeEquations

namespace UcCatalog

open Nesting

/-! ### Column types -/

/-- The primitive types of Unity Catalog. -/
inductive PrimitiveType where
  | tinyint
  | smallint
  | int
  | bigint
  | string
  | double
  | float
  | boolean
  | timestamp
  | binary
  | date

def PrimitiveType.spelling : PrimitiveType → Text
  | .tinyint => "tinyint".toList
  | .smallint => "smallint".toList
  | .int => "int".toList
  | .bigint => "bigint".toList
  | .string => "string".toList
  | .double => "double".toList
  | .float => "float".toList
  | .boolean => "boolean".toList
  | .timestamp => "timestamp".toList
  | .binary => "binary".toList
  | .date => "date".toList

def PrimitiveType.logical : PrimitiveType → LogicalType
  | .tinyint => .tinyint
  | .smallint => .smallint
  | .int => .integer
  | .bigint => .bigint
  | .string => .varchar
  | .double => .double
  | .float => .float
  | .boolean => .boolean
  | .timestamp => .timestamp
  | .binary => .blob
  | .date => .date

/-- A struct field name: free of the characters the type syntax gives a meaning to. -/
abbrev FieldName := { name : Text // ∀ char ∈ [',', ':', '<', '>'], char ∉ name }

mutual

/-- A column type. A decimal carries its bounds, and a struct has at least one field. -/
inductive ColumnType where
  | primitive (type : PrimitiveType)
  | decimal (precision scale : UInt8) (positive : 1 ≤ precision) (bounded : precision ≤ 38)
      (fits : scale ≤ precision)
  | array (element : ColumnType)
  | map (key value : ColumnType)
  | struct (fields : FieldTypes)

/-- The fields of a struct. -/
inductive FieldTypes where
  | last (name : FieldName) (type : ColumnType)
  | more (name : FieldName) (type : ColumnType) (rest : FieldTypes)

end

mutual

/-- The text Unity Catalog gives a type. -/
def ColumnType.spelling : ColumnType → Text
  | .primitive type => type.spelling
  | .decimal precision scale _ _ _ =>
    "decimal(".toList ++ ((numeral precision ++ ',' :: numeral scale) ++ [')'])
  | .array element => "array<".toList ++ (element.spelling ++ ['>'])
  | .map key value => "map<".toList ++ ((key.spelling ++ ',' :: value.spelling) ++ ['>'])
  | .struct fields => "struct<".toList ++ (fields.spelling ++ ['>'])

def FieldTypes.spelling : FieldTypes → Text
  | .last name type => (name.val ++ [':']) ++ type.spelling
  | .more name type rest => (name.val ++ [':']) ++ (type.spelling ++ ',' :: rest.spelling)

end

mutual

/-- The DuckDB type a column type stands for. -/
def ColumnType.logical : ColumnType → LogicalType
  | .primitive type => type.logical
  | .decimal precision scale _ _ _ => .decimal precision scale
  | .array element => .list element.logical
  | .map key value => .map key.logical value.logical
  | .struct fields => .struct fields.logical

def FieldTypes.logical : FieldTypes → List (Text × LogicalType)
  | .last name type => [(name.val, type.logical)]
  | .more name type rest => (name.val, type.logical) :: rest.logical

end

theorem spelling_primitive (type : PrimitiveType) :
    (ColumnType.primitive type).spelling = type.spelling := rfl

theorem spelling_decimal (precision scale : UInt8) (positive : 1 ≤ precision)
    (bounded : precision ≤ 38) (fits : scale ≤ precision) :
    (ColumnType.decimal precision scale positive bounded fits).spelling =
      "decimal(".toList ++ ((numeral precision ++ ',' :: numeral scale) ++ [')']) := rfl

theorem spelling_array (element : ColumnType) :
    (ColumnType.array element).spelling = "array<".toList ++ (element.spelling ++ ['>']) := rfl

theorem spelling_map (key value : ColumnType) :
    (ColumnType.map key value).spelling =
      "map<".toList ++ ((key.spelling ++ ',' :: value.spelling) ++ ['>']) := rfl

theorem spelling_struct (fields : FieldTypes) :
    (ColumnType.struct fields).spelling = "struct<".toList ++ (fields.spelling ++ ['>']) := rfl

def ColumnType.isDecimal : ColumnType → Bool
  | .decimal .. => true
  | _ => false

mutual

/-- No decimal stands directly below a map or a struct, at any depth. -/
def ColumnType.Separable : ColumnType → Prop
  | .primitive _ => True
  | .decimal .. => True
  | .array element => element.Separable
  | .map key value =>
    (key.isDecimal = false ∧ key.Separable) ∧ (value.isDecimal = false ∧ value.Separable)
  | .struct fields => fields.Separable

def FieldTypes.Separable : FieldTypes → Prop
  | .last _ type => type.isDecimal = false ∧ type.Separable
  | .more _ type rest => (type.isDecimal = false ∧ type.Separable) ∧ rest.Separable

end

/-! ### Every bracket of a spelling closes -/

theorem balanced_numeral (number : UInt8) : Balanced commaMarks (numeral number) :=
  Balanced.of_plain commaMarks fun char member => by
    have digit := numeral_isDigit number char member
    constructor <;> rintro rfl <;> exact absurd digit (by decide)

theorem balanced_plain (text : Text) (plain : '<' ∉ text ∧ '>' ∉ text) :
    Balanced commaMarks text :=
  Balanced.of_plain commaMarks fun char member => by
    constructor
    · rintro rfl
      exact plain.1 member
    · rintro rfl
      exact plain.2 member

/-- A comma leaves the counter alone. -/
theorem balanced_comma {front rest : Text} (first : Balanced commaMarks front)
    (second : Balanced commaMarks rest) : Balanced commaMarks (front ++ ',' :: rest) :=
  first.append commaMarks ((balanced_plain [','] (by decide)).append commaMarks second)

theorem FieldName.balanced (name : FieldName) : Balanced commaMarks (name.val ++ [':']) :=
  balanced_plain _ (by
    constructor
    · simp [name.property '<' (by simp)]
    · simp [name.property '>' (by simp)])

theorem FieldName.shielded (name : FieldName) (depth : Int) :
    Shielded commaMarks depth (name.val ++ [':']) :=
  shielded_of_not_mem commaMarks depth _ (by
    have absent := name.property ',' (by simp)
    simpa [commaMarks] using absent)

mutual

theorem ColumnType.balanced : ∀ type : ColumnType, Balanced commaMarks type.spelling
  | .primitive type => balanced_plain _ (by cases type <;> decide)
  | .decimal precision scale _ _ _ =>
    (balanced_plain "decimal(".toList (by decide)).append commaMarks
      ((balanced_comma (balanced_numeral precision) (balanced_numeral scale)).append commaMarks
        (balanced_plain _ (by decide)))
  | .array element =>
    (balanced_plain "array".toList (by decide)).append commaMarks
      (element.balanced.wrap commaMarks)
  | .map key value =>
    (balanced_plain "map".toList (by decide)).append commaMarks
      ((balanced_comma key.balanced value.balanced).wrap commaMarks)
  | .struct fields =>
    (balanced_plain "struct".toList (by decide)).append commaMarks
      (fields.balanced.wrap commaMarks)

theorem FieldTypes.balanced : ∀ fields : FieldTypes, Balanced commaMarks fields.spelling
  | .last name type => name.balanced.append commaMarks type.balanced
  | .more name type rest =>
    name.balanced.append commaMarks (balanced_comma type.balanced rest.balanced)

end

/-! ### Where a spelling falls apart -/

/-- A balanced text in brackets is one part. -/
theorem shielded_wrap (word inner : Text) (plain : ',' ∉ word) (still : Balanced commaMarks word)
    (balanced : Balanced commaMarks inner) :
    Shielded commaMarks 0 (word ++ '<' :: (inner ++ ['>'])) := by
  refine (shielded_of_not_mem commaMarks 0 word plain).append commaMarks ?_
  rw [still.depthAfter]
  refine ⟨fun same => absurd same (by decide), ?_⟩
  refine (balanced.shielded commaMarks (by decide)).append commaMarks ?_
  exact ⟨fun same => absurd same (by decide), trivial⟩

/-- The parts of a type's spelling. -/
def ColumnType.parts : ColumnType → List Text
  | .decimal precision scale _ _ _ =>
    ["decimal(".toList ++ numeral precision, numeral scale ++ [')']]
  | type => [type.spelling]

/-- The parts of a struct body. -/
def FieldTypes.parts : FieldTypes → List Text
  | .last name type => prepend (name.val ++ [':']) type.parts
  | .more name type rest => prepend (name.val ++ [':']) type.parts ++ rest.parts

theorem ColumnType.shielded {type : ColumnType} (other : type.isDecimal = false) :
    Shielded commaMarks 0 type.spelling := by
  cases type with
  | primitive type => exact shielded_of_not_mem commaMarks 0 _ (by cases type <;> decide)
  | decimal => cases other
  | array element =>
    exact shielded_wrap "array".toList _ (by decide) (balanced_plain _ (by decide)) element.balanced
  | map key value =>
    exact shielded_wrap "map".toList _ (by decide) (balanced_plain _ (by decide))
      (balanced_comma key.balanced value.balanced)
  | struct fields =>
    exact shielded_wrap "struct".toList _ (by decide) (balanced_plain _ (by decide)) fields.balanced

theorem ColumnType.parts_of_other {type : ColumnType} (other : type.isDecimal = false) :
    type.parts = [type.spelling] := by
  cases type with
  | decimal => cases other
  | primitive | array | map | struct => rfl

theorem numeral_no_comma (number : UInt8) : ',' ∉ numeral number :=
  not_mem_of_isDigit (numeral_isDigit number) (by decide)

theorem shielded_decimal_front (precision : UInt8) :
    Shielded commaMarks 0 ("decimal(".toList ++ numeral precision) :=
  shielded_of_not_mem commaMarks 0 _ (by
    have absent := numeral_no_comma precision
    simpa [commaMarks] using absent)

theorem shielded_decimal_rest (scale : UInt8) : Shielded commaMarks 0 (numeral scale ++ [')']) :=
  shielded_of_not_mem commaMarks 0 _ (by
    have absent := numeral_no_comma scale
    simpa [commaMarks] using absent)

theorem balanced_decimal_front (precision : UInt8) :
    Balanced commaMarks ("decimal(".toList ++ numeral precision) :=
  (balanced_plain "decimal(".toList (by decide)).append commaMarks
    (balanced_numeral precision)

theorem balanced_decimal_rest (scale : UInt8) : Balanced commaMarks (numeral scale ++ [')']) :=
  (balanced_numeral scale).append commaMarks (balanced_plain _ (by decide))

theorem split_balanced_comma {front : Text} (rest : Text) (shielded : Shielded commaMarks 0 front)
    (balanced : Balanced commaMarks front) :
    split commaMarks 0 (front ++ ',' :: rest) = front :: split commaMarks 0 rest := by
  have depth := balanced.depthAfter commaMarks 0
  rw [split_comma 0 front rest shielded (by omega), depth]

theorem ColumnType.split_spelling (type : ColumnType) :
    split commaMarks 0 type.spelling = type.parts := by
  cases type with
  | decimal precision scale positive bounded fits =>
    rw [spelling_decimal, List.append_assoc, List.cons_append, ← List.append_assoc,
      split_balanced_comma _ (shielded_decimal_front precision) (balanced_decimal_front precision),
      split_shielded commaMarks 0 _ (shielded_decimal_rest scale)]
    rfl
  | primitive | array | map | struct => exact split_shielded commaMarks 0 _ (shielded rfl)

theorem ColumnType.split_spelling_comma (type : ColumnType) (rest : Text) :
    split commaMarks 0 (type.spelling ++ ',' :: rest) = type.parts ++ split commaMarks 0 rest := by
  cases type with
  | decimal precision scale positive bounded fits =>
    rw [spelling_decimal, List.append_assoc, List.append_assoc, List.append_assoc, List.cons_append,
      ← List.append_assoc, ← List.append_assoc (numeral scale),
      split_balanced_comma _ (shielded_decimal_front precision) (balanced_decimal_front precision),
      split_balanced_comma _ (shielded_decimal_rest scale) (balanced_decimal_rest scale)]
    rfl
  | primitive | array | map | struct =>
    exact split_balanced_comma rest (shielded rfl) (balanced _)

theorem split_named (name : FieldName) (rest : Text) :
    split commaMarks 0 ((name.val ++ [':']) ++ rest) =
      prepend (name.val ++ [':']) (split commaMarks 0 rest) := by
  rw [split_append commaMarks 0 _ rest (name.shielded 0), name.balanced.depthAfter commaMarks 0]

theorem prepend_append (front : Text) (parts others : List Text) (nonempty : parts ≠ []) :
    prepend front (parts ++ others) = prepend front parts ++ others := by
  cases parts with
  | nil => exact absurd rfl nonempty
  | cons part parts => rfl

theorem ColumnType.parts_ne_nil (type : ColumnType) : type.parts ≠ [] := by
  cases type <;> exact List.cons_ne_nil _ _

theorem FieldTypes.split_spelling : ∀ fields : FieldTypes,
    split commaMarks 0 fields.spelling = fields.parts
  | .last name type => by
    rw [FieldTypes.spelling, split_named, type.split_spelling, FieldTypes.parts]
  | .more name type rest => by
    rw [FieldTypes.spelling, split_named, type.split_spelling_comma, rest.split_spelling,
      prepend_append _ _ _ type.parts_ne_nil, FieldTypes.parts]

/-! ### Spellings and their parts are not empty -/

theorem ColumnType.spelling_ne_nil (type : ColumnType) : type.spelling ≠ [] := by
  cases type with
  | primitive type => cases type <;> exact List.cons_ne_nil _ _
  | decimal | array | map | struct => exact List.cons_ne_nil _ _

theorem ColumnType.nil_not_mem_parts (type : ColumnType) : [] ∉ type.parts := by
  cases type with
  | decimal precision scale positive bounded fits => simp [ColumnType.parts]
  | primitive type => simpa [ColumnType.parts] using (spelling_ne_nil (.primitive type)).symm
  | array element => simpa [ColumnType.parts] using (spelling_ne_nil (.array element)).symm
  | map key value => simpa [ColumnType.parts] using (spelling_ne_nil (.map key value)).symm
  | struct fields => simpa [ColumnType.parts] using (spelling_ne_nil (.struct fields)).symm

theorem nil_not_mem_prepend (name : Text) {parts : List Text} (others : [] ∉ parts) :
    [] ∉ prepend (name ++ [':']) parts := by
  cases parts with
  | nil => simp [prepend]
  | cons part parts => simpa [prepend] using fun inParts => others (List.mem_cons_of_mem _ inParts)

theorem FieldTypes.nil_not_mem_parts : ∀ fields : FieldTypes, [] ∉ fields.parts
  | .last name type => nil_not_mem_prepend name.val type.nil_not_mem_parts
  | .more name type rest => by
    rw [FieldTypes.parts, List.mem_append, not_or]
    exact ⟨nil_not_mem_prepend name.val type.nil_not_mem_parts, rest.nil_not_mem_parts⟩

theorem not_endsEmpty {body : Text} (nonempty : [] ∉ split commaMarks 0 body) :
    ¬ EndsEmpty 0 body :=
  fun ends => nonempty (List.mem_of_getLast? ends)

/-! ### Reading a spelling back -/

section Reading

variable (castUInt8 : CastUInt8)

theorem lookup_primitive (type : PrimitiveType) :
    primitiveTypes.lookup type.spelling = some type.logical := by
  cases type <;> rfl

theorem not_mem_numerals (precision scale : UInt8) :
    ')' ∉ numeral precision ++ ',' :: numeral scale := by
  have first := @not_mem_of_isDigit _ (numeral_isDigit precision) ')' (by decide)
  have second := @not_mem_of_isDigit _ (numeral_isDigit scale) ')' (by decide)
  simp [first, second]

theorem read_field (name : FieldName) (type : ColumnType)
    (read : typeToLogicalType castUInt8 type.spelling = .ok type.logical) :
    structChild (typeToLogicalType castUInt8) ((name.val ++ [':']) ++ type.spelling) =
      .ok (name.val, type.logical) := by
  rw [List.append_assoc, List.singleton_append,
    structChild_eq _ name.val type.spelling (name.property ':' (by simp)), read]
  rfl

mutual

/-- The parser reads the spelling of a separable type back. -/
theorem ColumnType.read_spelling (numerals : CastsNumerals castUInt8) :
    ∀ type : ColumnType, type.Separable →
      typeToLogicalType castUInt8 type.spelling = .ok type.logical
  | .primitive type, _ => by
    rw [spelling_primitive]
    exact typeToLogicalType_primitive castUInt8 type.spelling type.logical (lookup_primitive type)
  | .decimal precision scale positive bounded fits, _ => by
    rw [spelling_decimal, typeToLogicalType_decimal castUInt8 _ _ []
      (numeral_no_comma precision) (not_mem_numerals precision scale), numerals, numerals]
    show LogicalType.ofDecimal precision scale = _
    rw [LogicalType.ofDecimal, if_pos bounded]
    rfl
  | .array element, separable => by
    rw [spelling_array, typeToLogicalType_array castUInt8 _ [] List.not_mem_nil,
      element.read_spelling numerals separable]
    rfl
  | .map key value, ⟨⟨keyOther, keySeparable⟩, ⟨valueOther, valueSeparable⟩⟩ => by
    have parts : split commaMarks 0 (key.spelling ++ ',' :: value.spelling) =
        [key.spelling, value.spelling] := by
      rw [key.split_spelling_comma, value.split_spelling, key.parts_of_other keyOther,
        value.parts_of_other valueOther]
      rfl
    have nonempty : [] ∉ split commaMarks 0 (key.spelling ++ ',' :: value.spelling) := by
      rw [parts]
      simp [key.spelling_ne_nil.symm, value.spelling_ne_nil.symm]
    have children := (bodyChildren_eq_ok (typeToLogicalType castUInt8) 0
      (key.spelling ++ ',' :: value.spelling) [] [key.logical, value.logical]).mpr
      ⟨not_endsEmpty nonempty, by
        rw [parts, mapM_eq_ok]
        exact .cons (key.read_spelling numerals keySeparable)
          (.cons (value.read_spelling numerals valueSeparable) .nil)⟩
    rw [spelling_map, typeToLogicalType_map castUInt8 _ [] List.not_mem_nil, children]
    rfl
  | .struct fields, separable => by
    have nonempty : [] ∉ split commaMarks 0 fields.spelling := by
      rw [fields.split_spelling]
      exact fields.nil_not_mem_parts
    have children := (bodyChildren_eq_ok (structChild (typeToLogicalType castUInt8)) 0
      fields.spelling [] fields.logical).mpr
      ⟨not_endsEmpty nonempty, by
        rw [fields.split_spelling, mapM_eq_ok]
        exact fields.read_parts numerals separable⟩
    rw [spelling_struct, typeToLogicalType_struct castUInt8 _ [] List.not_mem_nil, children]
    rfl

theorem FieldTypes.read_parts (numerals : CastsNumerals castUInt8) :
    ∀ fields : FieldTypes, fields.Separable →
      List.Forall₂ (fun part child => structChild (typeToLogicalType castUInt8) part = .ok child)
        fields.parts fields.logical
  | .last name type, ⟨other, separable⟩ => by
    rw [FieldTypes.parts, type.parts_of_other other]
    exact .cons (read_field castUInt8 name type (type.read_spelling numerals separable)) .nil
  | .more name type rest, ⟨⟨other, separable⟩, restSeparable⟩ => by
    rw [FieldTypes.parts, type.parts_of_other other]
    exact .cons (read_field castUInt8 name type (type.read_spelling numerals separable))
      (rest.read_parts numerals restSeparable)

end

/-- The first part of a type's spelling is read only when it is the whole spelling: the front of
a decimal has no closing bracket. -/
theorem ColumnType.first_part (type : ColumnType) :
    ∃ first others, type.parts = first :: others ∧
      ∀ result, typeToLogicalType castUInt8 first = .ok result →
        type.isDecimal = false ∧ first = type.spelling := by
  cases type with
  | decimal precision scale positive bounded fits =>
    refine ⟨_, _, rfl, fun result returned => ?_⟩
    have unclosed : ')' ∉ numeral precision :=
      not_mem_of_isDigit (numeral_isDigit precision) (by decide)
    rw [typeToLogicalType_decimal_open castUInt8 _ unclosed] at returned
    exact nomatch returned
  | primitive | array | map | struct => exact ⟨_, [], rfl, fun _ _ => ⟨rfl, rfl⟩⟩

mutual

/-- A spelling that is read has no decimal directly below a map or a struct. -/
theorem ColumnType.separable_of_read : ∀ (type : ColumnType) (result : LogicalType),
    typeToLogicalType castUInt8 type.spelling = .ok result → type.Separable
  | .primitive _, _, _ => trivial
  | .decimal .., _, _ => trivial
  | .array element, result, returned => by
    rw [spelling_array, typeToLogicalType_array castUInt8 _ [] List.not_mem_nil] at returned
    obtain ⟨child, read, _⟩ := (Outcome.bind_eq_ok _ _ _).mp returned
    exact element.separable_of_read child read
  | .map key value, result, returned => by
    rw [spelling_map, typeToLogicalType_map castUInt8 _ [] List.not_mem_nil] at returned
    obtain ⟨children, read, _⟩ := (Outcome.bind_eq_ok _ _ _).mp returned
    have traversed := ((bodyChildren_eq_ok _ 0 _ _ children).mp read).2
    rw [key.split_spelling_comma, value.split_spelling] at traversed
    exact ⟨key.separable_of_parts fun part member =>
        returns_of_mem traversed (List.mem_append_left _ member),
      value.separable_of_parts fun part member =>
        returns_of_mem traversed (List.mem_append_right _ member)⟩
  | .struct fields, result, returned => by
    rw [spelling_struct, typeToLogicalType_struct castUInt8 _ [] List.not_mem_nil] at returned
    obtain ⟨children, read, _⟩ := (Outcome.bind_eq_ok _ _ _).mp returned
    have traversed := ((bodyChildren_eq_ok _ 0 _ _ children).mp read).2
    rw [fields.split_spelling] at traversed
    exact fields.separable_of_parts fun part member => returns_of_mem traversed member

theorem ColumnType.separable_of_parts (type : ColumnType)
    (read : ∀ part ∈ type.parts, ∃ result, typeToLogicalType castUInt8 part = .ok result) :
    type.isDecimal = false ∧ type.Separable := by
  obtain ⟨first, others, parts, whole⟩ := type.first_part castUInt8
  obtain ⟨result, returned⟩ := read first (parts ▸ List.mem_cons_self)
  obtain ⟨other, rfl⟩ := whole result returned
  exact ⟨other, type.separable_of_read result returned⟩

theorem FieldTypes.separable_of_parts : ∀ fields : FieldTypes,
    (∀ part ∈ fields.parts, ∃ child, structChild (typeToLogicalType castUInt8) part = .ok child) →
      fields.Separable
  | .last name type, read => type.separable_of_field name read
  | .more name type rest, read =>
    ⟨type.separable_of_field name fun part member => read part (List.mem_append_left _ member),
      rest.separable_of_parts fun part member => read part (List.mem_append_right _ member)⟩

theorem ColumnType.separable_of_field (type : ColumnType) (name : FieldName)
    (read : ∀ part ∈ prepend (name.val ++ [':']) type.parts,
      ∃ child, structChild (typeToLogicalType castUInt8) part = .ok child) :
    type.isDecimal = false ∧ type.Separable := by
  obtain ⟨first, others, parts, whole⟩ := type.first_part castUInt8
  obtain ⟨child, returned⟩ := read ((name.val ++ [':']) ++ first) (by
    rw [parts]
    exact List.mem_cons_self)
  rw [List.append_assoc, List.singleton_append,
    structChild_eq _ name.val first (name.property ':' (by simp))] at returned
  obtain ⟨result, returned, _⟩ := (Outcome.bind_eq_ok _ _ _).mp returned
  obtain ⟨other, rfl⟩ := whole result returned
  exact ⟨other, type.separable_of_read result returned⟩

end

/-- The parser inverts the spelling of exactly the separable types. -/
theorem typeToLogicalType_spelling (numerals : CastsNumerals castUInt8) (type : ColumnType) :
    typeToLogicalType castUInt8 type.spelling = .ok type.logical ↔ type.Separable :=
  ⟨type.separable_of_read castUInt8 type.logical, type.read_spelling castUInt8 numerals⟩

end Reading

/-- `map<int,array<decimal(10,2)>>`, where the comma of the decimal is inside angle brackets. -/
def arrayOfDecimalsMap : ColumnType :=
  .map (.primitive .int) (.array (.decimal 10 2 (by decide) (by decide) (by decide)))

theorem typeToLogicalType_spelling_arrayOfDecimalsMap :
    typeToLogicalType castPlainNumeral arrayOfDecimalsMap.spelling =
      .ok arrayOfDecimalsMap.logical :=
  (typeToLogicalType_spelling castPlainNumeral castPlainNumeral_numerals arrayOfDecimalsMap).mpr
    ⟨⟨rfl, trivial⟩, rfl, trivial⟩

/-- `struct<a:decimal(10,2)>`. -/
def decimalField : ColumnType :=
  .struct (.last ⟨['a'], by simp⟩ (.decimal 10 2 (by decide) (by decide) (by decide)))

/-- The parser rejects the spelling of a struct with a decimal field. -/
theorem typeToLogicalType_decimalField :
    ¬ ∀ castUInt8, CastsNumerals castUInt8 → ∀ type : ColumnType,
      typeToLogicalType castUInt8 type.spelling = .ok type.logical := by
  intro reads
  have read := reads castPlainNumeral castPlainNumeral_numerals decimalField
  have separable := decimalField.separable_of_read castPlainNumeral _ read
  exact absurd separable.1 (by decide)

end UcCatalog
