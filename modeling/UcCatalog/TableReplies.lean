/-
This file decides which replies `UCAPI::GetTables` accepts.

The readers of fields raise on a field that is missing or of another type, and
the accessors of yyjson do not: a body that is no JSON, a root without tables
and a value that is no array are all read as an array without elements. So the
decoder returns exactly when the fields are there wherever it looks for them
(`FieldsPresent`), and it looks only into arrays. It tells well-formed replies
from the others when the values it iterates over are arrays or absent
(`ContainersTyped`), and otherwise only where a missing field gives the reply
away.
-/

import UcCatalog.Api

namespace UcCatalog

open Stateful

/-! ### Well-formed replies -/

def HasText (json : Json) (field : String) : Prop :=
  ∃ text, objGet json field.toList = some (.str text)

def HasNumber (json : Json) (field : String) : Prop :=
  ∃ number, objGet json field.toList = some number ∧ number.IsNumber

/-- The fields a column has to have. -/
structure ColumnFields (column : Json) : Prop where
  name : HasText column "name"
  typeText : HasText column "type_text"
  precision : HasNumber column "type_precision"
  scale : HasNumber column "type_scale"
  position : HasNumber column "position"

/-- The fields a table has to have. -/
structure TableFields (table : Json) : Prop where
  name : HasText table "name"
  tableType : HasText table "table_type"
  tableId : HasText table "table_id"

/-- There is no value, or it is an array. -/
def AbsentOrArray (value : Option Json) : Prop :=
  value = none ∨ ∃ elements, value = some (.arr elements)

def columnsOf (table : Json) : Option Json := objGet table "columns".toList

def tablesOf (root : Option Json) : Option Json := objGet root "tables".toList

structure WellFormedTable (table : Json) : Prop where
  isObject : ∃ members, table = .obj members
  fields : TableFields table
  columns : AbsentOrArray (columnsOf table)
  columnFields : ∀ column ∈ arrForeach (columnsOf table),
    (∃ members, column = .obj members) ∧ ColumnFields column

/-- The body is JSON whose root is an object that lists tables, or has no list. -/
structure WellFormedReply (root : Option Json) : Prop where
  isObject : ∃ members, root = some (.obj members)
  tables : AbsentOrArray (tablesOf root)
  each : ∀ table ∈ arrForeach (tablesOf root), WellFormedTable table

/-! ### What the decoder looks at -/

/-- The fields are there in every table and column the decoder comes to. -/
def FieldsPresent (root : Option Json) : Prop :=
  ∀ table ∈ arrForeach (tablesOf root),
    TableFields table ∧ ∀ column ∈ arrForeach (columnsOf table), ColumnFields column

/-- The root is an object, and what the decoder iterates over is absent or an array. -/
structure ContainersTyped (root : Option Json) : Prop where
  isObject : ∃ members, root = some (.obj members)
  tables : AbsentOrArray (tablesOf root)
  columns : ∀ table ∈ arrForeach (tablesOf root), AbsentOrArray (columnsOf table)

theorem HasText.isObject {json : Json} {field : String} (present : HasText json field) :
    ∃ members, json = .obj members := by
  obtain ⟨text, found⟩ := present
  cases json with
  | obj members => exact ⟨members, rfl⟩
  | null | bool | uint | sint | real | str | arr => exact nomatch found

theorem wellFormedReply_iff (root : Option Json) :
    WellFormedReply root ↔ ContainersTyped root ∧ FieldsPresent root := by
  constructor
  · intro wellFormed
    refine ⟨⟨wellFormed.isObject, wellFormed.tables, fun table listed => ?_⟩,
      fun table listed => ⟨?_, fun column inTable => ?_⟩⟩
    · exact (wellFormed.each table listed).columns
    · exact (wellFormed.each table listed).fields
    · exact ((wellFormed.each table listed).columnFields column inTable).2
  · rintro ⟨typed, present⟩
    refine ⟨typed.isObject, typed.tables, fun table listed => ?_⟩
    obtain ⟨fields, columnFields⟩ := present table listed
    exact ⟨fields.name.isObject, fields, typed.columns table listed, fun column inTable =>
      ⟨(columnFields column inTable).name.isObject, columnFields column inTable⟩⟩

/-! ### When the decoder returns -/

section Returns

variable {First Second : Type}

def Returns (outcome : Except Exception First) : Prop := ∃ value, outcome = .ok value

theorem returns_bind_iff {first : Except Exception First} {next : First → Except Exception Second}
    {rest : Prop} (nextReturns : ∀ value, Returns (next value) ↔ rest) :
    Returns (first >>= next) ↔ Returns first ∧ rest := by
  constructor
  · rintro ⟨result, returned⟩
    obtain ⟨value, early, late⟩ := (Outcome.bind_eq_ok first next result).mp returned
    exact ⟨⟨value, early⟩, (nextReturns value).mp ⟨result, late⟩⟩
  · rintro ⟨⟨value, early⟩, holds⟩
    obtain ⟨result, late⟩ := (nextReturns value).mpr holds
    exact ⟨result, (Outcome.bind_eq_ok first next result).mpr ⟨value, early, late⟩⟩

theorem returns_mapM_iff (child : First → Except Exception Second) (list : List First) :
    Returns (list.mapM child) ↔ ∀ element ∈ list, Returns (child element) :=
  ⟨fun ⟨_, returned⟩ _ member => returns_of_mem returned member, returns_of_all⟩

theorem returns_pure_iff (value : First) : Returns (pure value) ↔ True :=
  iff_true_intro ⟨value, rfl⟩

end Returns

theorem tryGetStr_eq_ok {value : Option Json} {field found : Text}
    (returned : tryGetStrFromObject value field true = .ok found) :
    ∃ text, objGet value field = some (.str text) ∧ found = cString text := by
  unfold tryGetStrFromObject at returned
  split at returned
  · next text present => exact ⟨text, present, (Except.ok.inj returned).symm⟩
  · exact nomatch returned

theorem tryGetStr_returns_iff (json : Json) (field : String) :
    Returns (tryGetStrFromObject json field.toList true) ↔ HasText json field := by
  refine ⟨?_, fun ⟨_, present⟩ => tryGetStr_returns present⟩
  rintro ⟨value, returned⟩
  obtain ⟨text, present, _⟩ := tryGetStr_eq_ok returned
  exact ⟨text, present⟩

theorem tryGetNum_returns_iff (json : Json) (field : String) :
    Returns (tryGetNumFromObject json field.toList) ↔ HasNumber json field := by
  refine ⟨?_, fun ⟨_, present, isNumber⟩ => tryGetNum_returns present isNumber⟩
  rintro ⟨value, returned⟩
  unfold tryGetNumFromObject at returned
  split at returned
  · next number found => exact ⟨.uint number, found, trivial⟩
  · next number found => exact ⟨.sint number, found, trivial⟩
  · next found => exact ⟨.real, found, trivial⟩
  · exact nomatch returned

theorem parseColumnDefinition_returns_iff (column : Json) :
    Returns (parseColumnDefinition column) ↔ ColumnFields column := by
  have steps : Returns (parseColumnDefinition column) ↔ _ :=
    returns_bind_iff fun _ => returns_bind_iff fun _ => returns_bind_iff fun _ =>
      returns_bind_iff fun _ => returns_bind_iff fun _ => returns_pure_iff _
  rw [steps, tryGetStr_returns_iff, tryGetStr_returns_iff, tryGetNum_returns_iff,
    tryGetNum_returns_iff, tryGetNum_returns_iff]
  constructor
  · rintro ⟨name, typeText, precision, scale, position, _⟩
    exact ⟨name, typeText, precision, scale, position⟩
  · rintro ⟨name, typeText, precision, scale, position⟩
    exact ⟨name, typeText, precision, scale, position, trivial⟩

theorem parseTable_returns_iff (catalog schema : Text) (table : Json) :
    Returns (parseTable catalog schema table) ↔
      TableFields table ∧ ∀ column ∈ arrForeach (columnsOf table), ColumnFields column := by
  have steps : Returns (parseTable catalog schema table) ↔ _ :=
    returns_bind_iff fun _ => returns_bind_iff fun _ => returns_bind_iff fun _ =>
      returns_bind_iff fun _ => returns_bind_iff fun _ => returns_bind_iff fun _ =>
        returns_pure_iff _
  rw [steps, tryGetStr_returns_iff, tryGetStr_returns_iff, tryGetStr_returns_iff,
    returns_mapM_iff]
  constructor
  · rintro ⟨name, tableType, _, _, tableId, columns, _⟩
    exact ⟨⟨name, tableType, tableId⟩, fun column listed =>
      (parseColumnDefinition_returns_iff column).mp (columns column listed)⟩
  · rintro ⟨⟨name, tableType, tableId⟩, columns⟩
    exact ⟨name, tableType, tryGetStr_optional _ _, tryGetStr_optional _ _, tableId,
      fun column listed => (parseColumnDefinition_returns_iff column).mpr (columns column listed),
      trivial⟩

section Replies

theorem decodeTables_returns_iff (libraries : Libraries) (catalog schema body : Text) :
    Returns (decodeTables libraries catalog schema body) ↔
      FieldsPresent (libraries.yyjsonRead body) := by
  unfold decodeTables
  rw [returns_mapM_iff]
  exact forall₂_congr fun table _ => parseTable_returns_iff catalog schema table

variable {libraries : Libraries} {catalog schema : Text}

/-- A call that is answered ends as the decoder does on the body of the answer. -/
theorem outcome_getTables {credentials : Credentials} {world : World} {body : Text}
    (replied : world.remote (getRequestOf (tablesUrl credentials catalog schema)
      credentials.token) = .body body) :
    outcome (getTables libraries catalog schema credentials world) =
      Outcome.ofExcept (decodeTables libraries catalog schema body) := by
  rw [getTables_of_body libraries replied, outcome_finish]

/-- The call returns on well-formed replies and raises an `IOException` on all others. -/
structure AcceptsWellFormed (root : Option Json) (ending : Outcome (List APITable)) : Prop where
  returns : (∃ tables, ending = .ok tables) ↔ WellFormedReply root
  raises : ¬ WellFormedReply root →
    ∃ message, ending = .error (.raised ⟨.ioException, message⟩)

/-- The call ends as it should where its containers are typed, or else a field is missing that
the decoder comes to. -/
theorem acceptsWellFormed_iff {credentials : Credentials} {world : World} {body : Text}
    (replied : world.remote (getRequestOf (tablesUrl credentials catalog schema)
      credentials.token) = .body body) :
    AcceptsWellFormed (libraries.yyjsonRead body)
        (outcome (getTables libraries catalog schema credentials world)) ↔
      ContainersTyped (libraries.yyjsonRead body) ∨
        ¬ FieldsPresent (libraries.yyjsonRead body) := by
  have returned : (∃ tables, outcome (getTables libraries catalog schema credentials world) =
      .ok tables) ↔ FieldsPresent (libraries.yyjsonRead body) := by
    rw [outcome_getTables replied, ← decodeTables_returns_iff libraries catalog schema]
    exact exists_congr fun tables => Outcome.ofExcept_eq_ok _ _
  constructor
  · intro accepts
    by_cases present : FieldsPresent (libraries.yyjsonRead body)
    · have wellFormed := accepts.returns.mp (returned.mpr present)
      exact Or.inl ((wellFormedReply_iff _).mp wellFormed).1
    · exact Or.inr present
  · intro condition
    have agree : FieldsPresent (libraries.yyjsonRead body) ↔
        WellFormedReply (libraries.yyjsonRead body) := by
      rw [wellFormedReply_iff]
      refine ⟨fun present => ⟨?_, present⟩, And.right⟩
      exact condition.resolve_right fun missing => missing present
    refine ⟨returned.trans agree, fun malformed => ?_⟩
    have absent : ¬ Returns (decodeTables libraries catalog schema body) := fun found =>
      malformed (agree.mp ((decodeTables_returns_iff libraries catalog schema body).mp found))
    rw [outcome_getTables replied]
    cases decoded : decodeTables libraries catalog schema body with
    | ok tables => exact absurd ⟨tables, decoded⟩ absent
    | error exception =>
      have kind := decodeTables_raisesIoException libraries catalog schema body exception decoded
      exact ⟨exception.message, by rw [← kind]; rfl⟩

end Replies

/-- A table of a reply, with one column. -/
def tableText (name : String) : Text :=
  ["\x7b\"name\":\"", name, "\",\"table_type\":\"MANAGED\",\"table_id\":\"1\",",
    "\"columns\":[\x7b\"name\":\"x\",\"type_text\":\"int\",\"type_precision\":0,",
    "\"type_scale\":0,\"position\":0\x7d]\x7d"].flatMap String.toList

def tableJson (name : String) : Json :=
  .obj [("name".toList, .str name.toList), ("table_type".toList, .str "MANAGED".toList),
    ("table_id".toList, .str "1".toList),
    ("columns".toList, .arr [.obj [("name".toList, .str "x".toList),
      ("type_text".toList, .str "int".toList), ("type_precision".toList, .uint 0),
      ("type_scale".toList, .uint 0), ("position".toList, .uint 0)]])]

/-- A reply with three tables, two of which have names that differ in case only. -/
def threeTablesBody : Text :=
  "\x7b\"tables\":[".toList ++ tableText "t" ++ [','] ++ tableText "T" ++ [','] ++
    tableText "u" ++ "]\x7d".toList

/-- A reply whose second table has no id, and a text for its columns. -/
def missingIdBody : Text :=
  "\x7b\"tables\":[".toList ++ tableText "t" ++
    ",\x7b\"name\":\"u\",\"table_type\":\"VIEW\",\"columns\":\"x\"\x7d]\x7d".toList

def missingIdTable : Json :=
  .obj [("name".toList, .str "u".toList), ("table_type".toList, .str "VIEW".toList),
    ("columns".toList, .str "x".toList)]

/-- What the two bodies are read as. -/
def readReply (body : Text) : Option Json :=
  if body = threeTablesBody then
    some (.obj [("tables".toList, .arr [tableJson "t", tableJson "T", tableJson "u"])])
  else if body = missingIdBody then
    some (.obj [("tables".toList, .arr [tableJson "t", missingIdTable])])
  else none

def tableReplies : Libraries where
  castUInt8 := castPlainNumeral
  addColumn columns column := .ok (columns ++ [column])
  yyjsonRead := readReply

theorem yyjsonRead_tableReplies (body : Text) : tableReplies.yyjsonRead body = readReply body := rfl

theorem readReply_threeTables : readReply threeTablesBody =
    some (.obj [("tables".toList, .arr [tableJson "t", tableJson "T", tableJson "u"])]) := by
  rw [readReply, if_pos rfl]

theorem readReply_missingId : readReply missingIdBody =
    some (.obj [("tables".toList, .arr [tableJson "t", missingIdTable])]) := by
  have different : missingIdBody ≠ threeTablesBody := by decide +kernel
  rw [readReply, if_neg different, if_pos rfl]

theorem readReply_gateway : readReply "Bad Gateway".toList = none := by
  have notTables : "Bad Gateway".toList ≠ threeTablesBody := by decide +kernel
  have notMissing : "Bad Gateway".toList ≠ missingIdBody := by decide +kernel
  rw [readReply, if_neg notTables, if_neg notMissing]

/-- Three tables with their columns are accepted. A missing id is reported, although a list of
columns beside it is of another type. -/
theorem acceptsWellFormed_tables :
    AcceptsWellFormed (tableReplies.yyjsonRead threeTablesBody)
        (outcome (getTables tableReplies "uc".toList "s".toList ⟨[], [], []⟩
          ⟨fun _ => .body threeTablesBody, []⟩)) ∧
      AcceptsWellFormed (tableReplies.yyjsonRead missingIdBody)
        (outcome (getTables tableReplies "uc".toList "s".toList ⟨[], [], []⟩
          ⟨fun _ => .body missingIdBody, []⟩)) := by
  have typed : ContainersTyped (tableReplies.yyjsonRead threeTablesBody) := by
    rw [yyjsonRead_tableReplies, readReply_threeTables]
    refine ⟨⟨_, rfl⟩, Or.inr ⟨_, rfl⟩, fun table listed => Or.inr ?_⟩
    rcases List.mem_cons.mp listed with rfl | inRest
    · exact ⟨_, rfl⟩
    · rcases List.mem_pair.mp inRest with rfl | rfl
      · exact ⟨_, rfl⟩
      · exact ⟨_, rfl⟩
  have missing : ¬ FieldsPresent (tableReplies.yyjsonRead missingIdBody) := by
    rw [yyjsonRead_tableReplies, readReply_missingId]
    intro present
    obtain ⟨text, found⟩ := (present missingIdTable (.tail _ (.head _))).1.tableId
    exact nomatch found
  exact ⟨(acceptsWellFormed_iff rfl).mpr (Or.inl typed),
    (acceptsWellFormed_iff rfl).mpr (Or.inr missing)⟩

/-- The page of a gateway is read as a listing without tables. -/
theorem acceptsWellFormed_gateway :
    ¬ ∀ (libraries : Libraries) (catalog schema : Text) (credentials : Credentials)
      (world : World) (body : Text),
      world.remote (getRequestOf (tablesUrl credentials catalog schema) credentials.token) =
        .body body →
      AcceptsWellFormed (libraries.yyjsonRead body)
        (outcome (getTables libraries catalog schema credentials world)) := by
  intro always
  have accepts := always tableReplies "uc".toList "s".toList ⟨[], [], []⟩
    ⟨fun _ => .body "Bad Gateway".toList, []⟩ "Bad Gateway".toList rfl
  rw [@outcome_getTables tableReplies _ _ _ _ "Bad Gateway".toList rfl, decodeTables,
    yyjsonRead_tableReplies, readReply_gateway] at accepts
  obtain ⟨members, root⟩ := (accepts.returns.mp ⟨[], rfl⟩).isObject
  exact nomatch root

end UcCatalog
