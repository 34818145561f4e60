/-
This file is the entries of an attached catalog and the sets that hold them: a
schema with its tables, the two ways a table entry is made, and the members of
`UCSchemaEntry`. `UCTableSet` and `UCSchemaSet` are each the loader of a set.

A table entry is made with its `table_data` when the tables of a schema are
loaded, and without it by `RefreshTable`, which `GetTableInfo` never lets come so
far.
-/

import UcCatalog.CatalogSet

namespace UcCatalog

open Stateful

/-! ### Entries -/

/-- `UCTableEntry`. -/
structure TableEntry where
  name : Text
  columns : List ColumnDefinition
  tableData : Option APITable
  internal : Bool

instance : CatalogEntry TableEntry := ⟨TableEntry.name⟩

/-- `UCSchemaEntry`. -/
structure SchemaEntry where
  name : Text
  internal : Bool
  schemaData : Option APISchema
  tables : CatalogSet TableEntry

instance : CatalogEntry SchemaEntry := ⟨SchemaEntry.name⟩

/-- DuckDB's `CatalogType`, with the types the extension tells apart by name. -/
inductive CatalogType where
  | tableEntry
  | viewEntry
  | indexEntry
  | schemaEntry
  | other (code : Nat)
  deriving DecidableEq

/-- DuckDB's `OnCreateConflict`. -/
inductive OnCreateConflict where
  | errorOnConflict
  | ignoreOnConflict
  | replaceOnConflict
  | alterOnConflict
  deriving DecidableEq

/-- DuckDB's `OnEntryNotFound`. -/
inductive OnEntryNotFound where
  | throwException
  | returnNull
  deriving DecidableEq

/-! ### `UCTableSet` -/

section Tables

variable (libraries : Libraries)

/-- `CreateColumnDefinition`. -/
def createColumnDefinition (coldef : APIColumnDefinition) : Outcome ColumnDefinition := do
  let type ← typeToLogicalType libraries.castUInt8 coldef.typeText
  return { name := coldef.name, type }

/-- The loop over the columns in `UCTableSet::LoadEntries`. -/
def addColumns (columns : List ColumnDefinition) :
    List APIColumnDefinition → Outcome (List ColumnDefinition)
  | [] => .ok columns
  | col :: cols => do
    let column ← createColumnDefinition libraries col
    let columns ← Outcome.ofExcept (libraries.addColumn columns column)
    addColumns columns cols

/-- The table entry `UCTableSet::LoadEntries` makes, with its `table_data`. -/
def buildTableEntry (table : APITable) : Outcome TableEntry := do
  let columns ← addColumns libraries [] table.columns
  return { name := table.name, columns, tableData := some table, internal := false }

/-- What `UCInSchemaSet::CreateEntry` does to an entry before it creates it. -/
def adoptInSchema (schemaInternal : Bool) (entry : TableEntry) : TableEntry :=
  if entry.internal = false then { entry with internal := schemaInternal } else entry

theorem adoptInSchema_name (schemaInternal : Bool) (entry : TableEntry) :
    (adoptInSchema schemaInternal entry).name = entry.name := by
  unfold adoptInSchema
  split
  · rfl
  · rfl

theorem adoptInSchema_columns (schemaInternal : Bool) (entry : TableEntry) :
    (adoptInSchema schemaInternal entry).columns = entry.columns := by
  unfold adoptInSchema
  split
  · rfl
  · rfl

/-- How `UCTableSet` loads: from the catalog named by the path, for one schema. -/
def tableLoader (dbPath : Text) (credentials : Credentials) (schemaName : Text)
    (schemaInternal : Bool) : Loader APITable TableEntry where
  url := tablesUrl credentials dbPath schemaName
  token := credentials.token
  decode apiResult := Outcome.ofExcept (decodeTables libraries dbPath schemaName apiResult)
  build := buildTableEntry libraries
  adopt := adoptInSchema schemaInternal

theorem tableLoader_fetch (dbPath : Text) (credentials : Credentials) (schemaName : Text)
    (schemaInternal : Bool) :
    (tableLoader libraries dbPath credentials schemaName schemaInternal).fetch =
      getTables libraries dbPath schemaName credentials := rfl

end Tables

/-- `UCTableInfo`: the table name and the columns of its `create_info`. -/
structure TableInfo where
  table : Text
  columns : List ColumnDefinition

/-- `UCTableSet::GetTableInfo`. -/
def getTableInfo (_tableName : Text) : Outcome TableInfo :=
  raise .notImplementedException "UCTableSet::CreateTable".toList

/-- `UCTableSet::RefreshTable`. The entry it would create has no `table_data`. -/
def refreshTable (schemaInternal : Bool) (tableName : Text) :
    EStateM Fault (SetState TableEntry) TableEntry := do
  let tableInfo ← lift (getTableInfo tableName)
  createEntry (adoptInSchema schemaInternal
    { name := tableInfo.table, columns := tableInfo.columns, tableData := none, internal := false })

/-- `UCTableSet::CreateTable`. -/
def tableSetCreateTable : EStateM Fault (SetState TableEntry) TableEntry :=
  throw (.raised ⟨.notImplementedException, "UCTableSet::CreateTable".toList⟩)

/-- `UCTableSet::AlterTable`. -/
def alterTable : EStateM Fault (SetState TableEntry) Unit :=
  throw (.raised ⟨.notImplementedException, "UCTableSet::AlterTable".toList⟩)

/-! ### `UCSchemaEntry` -/

/-- `CatalogTypeIsSupported`. -/
def catalogTypeIsSupported : CatalogType → Bool
  | .indexEntry | .tableEntry | .viewEntry => true
  | _ => false

/-- `UCSchemaEntry::GetCatalogSet`: the one set a schema has, or an exception. -/
def getCatalogSet : CatalogType → EStateM Fault (SetState TableEntry) Unit
  | .tableEntry | .viewEntry => pure ()
  | _ => throw (.raised ⟨.internalException, "Type not supported for GetCatalogSet".toList⟩)

/-- What `UCSchemaEntry::CreateView` reads of a `CreateViewInfo`. -/
structure CreateViewInfo where
  sql : Text
  onConflict : OnCreateConflict
  viewName : Text

/-- The kinds of entries a schema rejects without looking at them. -/
inductive RejectedKind where
  | function
  | index
  | type
  | sequence
  | tableFunction
  | copyFunction
  | pragmaFunction
  | collation
  deriving DecidableEq

/-- What the `Create` member of a rejected kind raises. -/
def RejectedKind.exception : RejectedKind → Exception
  | .function => ⟨.binderException, "UC databases do not support creating functions".toList⟩
  | .index => ⟨.notImplementedException, "CreateIndex".toList⟩
  | .type => ⟨.binderException, "UC databases do not support creating types".toList⟩
  | .sequence => ⟨.binderException, "UC databases do not support creating sequences".toList⟩
  | .tableFunction =>
    ⟨.binderException, "UC databases do not support creating table functions".toList⟩
  | .copyFunction =>
    ⟨.binderException, "UC databases do not support creating copy functions".toList⟩
  | .pragmaFunction =>
    ⟨.binderException, "UC databases do not support creating pragma functions".toList⟩
  | .collation => ⟨.binderException, "UC databases do not support creating collations".toList⟩

section Schema

variable (loadEntries : EStateM Fault (SetState TableEntry) Unit)

/-- `UCSchemaEntry::Scan`. -/
def schemaScan (type : CatalogType) : EStateM Fault (SetState TableEntry) (List TableEntry) := do
  if catalogTypeIsSupported type = false then return []
  else
    getCatalogSet type
    CatalogSet.scan loadEntries

/-- `UCSchemaEntry::GetEntry`. -/
def schemaGetEntry (type : CatalogType) (name : Text) :
    EStateM Fault (SetState TableEntry) (Option TableEntry) := do
  if catalogTypeIsSupported type = false then return none
  else
    getCatalogSet type
    CatalogSet.getEntry loadEntries name

/-- `UCSchemaEntry::DropEntry`. -/
def schemaDropEntry (type : CatalogType) : EStateM Fault (SetState TableEntry) Unit := do
  getCatalogSet type
  CatalogSet.dropEntry

/-- `UCSchemaEntry::CreateTable`. -/
def schemaCreateTable (onConflict : OnCreateConflict) :
    EStateM Fault (SetState TableEntry) TableEntry :=
  if onConflict = .replaceOnConflict then
    throw (.raised ⟨.notImplementedException, "REPLACE ON CONFLICT in CreateTable".toList⟩)
  else tableSetCreateTable

/-- `GetUCTransaction`. -/
def getUCTransaction (hasTransaction : Bool) : EStateM Fault (SetState TableEntry) Unit :=
  if hasTransaction then pure ()
  else throw (.raised ⟨.internalException, "No transaction!?".toList⟩)

/-- `UCSchemaEntry::CreateView`. -/
def schemaCreateView (schemaInternal hasTransaction : Bool) (info : CreateViewInfo) :
    EStateM Fault (SetState TableEntry) TableEntry := do
  if info.sql = [] then
    throw (.raised ⟨.binderException,
      "Cannot create view in UC that originated from an empty SQL statement".toList⟩)
  else
    let currentEntry ←
      if info.onConflict = .replaceOnConflict ∨ info.onConflict = .ignoreOnConflict then
        schemaGetEntry loadEntries .viewEntry info.viewName
      else pure none
    match currentEntry with
    | some entry =>
      if info.onConflict = .ignoreOnConflict then return entry
      else throw (.raised ⟨.notImplementedException, "REPLACE ON CONFLICT in CreateView".toList⟩)
    | none =>
      getUCTransaction hasTransaction
      refreshTable schemaInternal info.viewName

/-- `UCSchemaEntry::Alter`, by whether the `AlterInfo` is one for tables. -/
def schemaAlter (isAlterTable : Bool) : EStateM Fault (SetState TableEntry) Unit :=
  if isAlterTable then alterTable
  else throw (.raised ⟨.binderException, "Only altering tables is supported for now".toList⟩)

end Schema

/-! ### `UCSchemaSet` -/

/-- `IsInternalTable`. -/
def isInternalTable (_catalog schema : Text) : Bool := schema = "information_schema".toList

/-- The schema entry `UCSchemaSet::LoadEntries` makes. -/
def buildSchemaEntry (schema : APISchema) : Outcome SchemaEntry :=
  .ok { name := schema.schemaName
        internal := isInternalTable schema.catalogName schema.schemaName
        schemaData := some schema
        tables := .new TableEntry }

/-- How `UCSchemaSet` loads: from the catalog named by the alias. -/
def schemaLoader (libraries : Libraries) (catalogName : Text) (credentials : Credentials) :
    Loader APISchema SchemaEntry where
  url := schemasUrl credentials catalogName
  token := credentials.token
  decode apiResult := decodeSchemas libraries catalogName apiResult
  build := buildSchemaEntry
  adopt := id

theorem schemaLoader_fetch (libraries : Libraries) (catalogName : Text)
    (credentials : Credentials) :
    (schemaLoader libraries catalogName credentials).fetch =
      getSchemas libraries catalogName credentials := rfl

/-- `UCSchemaSet::CreateSchema`. -/
def schemaSetCreateSchema : EStateM Fault (SetState SchemaEntry) SchemaEntry :=
  throw (.raised ⟨.notImplementedException, "Schema creation".toList⟩)

end UcCatalog
