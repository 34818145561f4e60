/-
This file is `UCCatalog` and the operations DuckDB can call on an attached
catalog. Every one is an `Op`, and `Op.run` is what the code does for it; the
operations that write are all rejected, at different points.

DuckDB holds a schema entry by its address. Here it is held by a handle, the
name it is stored under and the number of clears before it was looked up: the
entries of a set are freed when the set is cleared, and a handle from before is
dangling. The count of clears has no counterpart in the code, and only `resolve`
and the making of handles read it.
-/

import Mathlib.Data.Multiset.Defs
import UcCatalog.Catalog

namespace UcCatalog

open Stateful

/-! ### `UCCatalog` -/

structure Catalog where
  /-- `Catalog::GetName()`: the name the database is attached under. -/
  name : Text
  /-- `GetDBPath()`: the path it is attached from. -/
  internalName : Text
  credentials : Credentials
  schemas : CatalogSet SchemaEntry
  defaultSchema : Text

/-- The constructor, as `UCCatalogAttach` calls it. -/
def attach (name path : Text) (credentials : Credentials) : Catalog where
  name := name
  internalName := path
  credentials := credentials
  schemas := .new SchemaEntry
  defaultSchema := []

structure CatalogState where
  world : World
  catalog : Catalog
  clears : Nat

/-- A pointer to a schema entry. -/
structure SchemaHandle where
  clears : Nat
  name : Text
  deriving DecidableEq

/-- What is seen of a schema entry through its pointer. -/
structure SchemaInfo where
  handle : SchemaHandle
  internal : Bool
  schemaData : Option APISchema

/-- The entry a pointer leads to, unless its set has been cleared. -/
def CatalogState.resolve (state : CatalogState) (handle : SchemaHandle) : Option SchemaEntry :=
  if handle.clears = state.clears then state.catalog.schemas.entries.find handle.name else none

def CatalogState.info (state : CatalogState) (schema : SchemaEntry) : SchemaInfo where
  handle := { clears := state.clears, name := schema.name }
  internal := schema.internal
  schemaData := schema.schemaData

/-- The set of schemas, and the server. -/
def CatalogState.schemaPart (state : CatalogState) : SetState SchemaEntry :=
  ⟨state.world, state.catalog.schemas⟩

def CatalogState.withSchemaPart (part : SetState SchemaEntry) (state : CatalogState) :
    CatalogState :=
  { state with world := part.world, catalog := { state.catalog with schemas := part.set } }

def SchemaEntry.withTables (tables : CatalogSet TableEntry) (schema : SchemaEntry) : SchemaEntry :=
  { schema with tables }

def CatalogState.withTablePart (name : Text) (part : SetState TableEntry) (state : CatalogState) :
    CatalogState :=
  { state with
    world := part.world
    catalog := { state.catalog with
      schemas := { state.catalog.schemas with
        entries := state.catalog.schemas.entries.update name (SchemaEntry.withTables part.set) } } }

def onSchemas {Value : Type} (program : EStateM Fault (SetState SchemaEntry) Value) :
    EStateM Fault CatalogState Value :=
  zoom CatalogState.schemaPart CatalogState.withSchemaPart program

theorem onSchemas_of_ok {Value : Type} (program : EStateM Fault (SetState SchemaEntry) Value)
    (state : CatalogState) {value : Value} {part : SetState SchemaEntry}
    (returned : program state.schemaPart = .ok value part) :
    onSchemas program state = .ok value (state.withSchemaPart part) :=
  zoom_of_ok returned

/-- Run a member of the schema entry behind a pointer. -/
def onSchema {Value : Type} (handle : SchemaHandle)
    (program : SchemaEntry → EStateM Fault (SetState TableEntry) Value) :
    EStateM Fault CatalogState Value := do
  let state ← get
  match state.resolve handle with
  | none => throw (.undefined .danglingEntry)
  | some schema =>
    zoom (fun state => ⟨state.world, schema.tables⟩) (CatalogState.withTablePart handle.name)
      (program schema)

section OnSchema

variable {Value : Type} {handle : SchemaHandle} {state : CatalogState}
  {program : SchemaEntry → EStateM Fault (SetState TableEntry) Value}

theorem onSchema_of_dangling (lost : state.resolve handle = none) :
    onSchema handle program state = .error (.undefined .danglingEntry) state := by
  rw [onSchema, bind_of_ok _ (run_get state), lost]
  rfl

variable {schema : SchemaEntry} (leads : state.resolve handle = some schema)
  {part : SetState TableEntry}

include leads

theorem onSchema_of_ok {value : Value}
    (returned : program schema ⟨state.world, schema.tables⟩ = .ok value part) :
    onSchema handle program state = .ok value (state.withTablePart handle.name part) := by
  rw [onSchema, bind_of_ok _ (run_get state), leads]
  exact zoom_of_ok returned

theorem onSchema_of_error {fault : Fault}
    (failed : program schema ⟨state.world, schema.tables⟩ = .error fault part) :
    onSchema handle program state = .error fault (state.withTablePart handle.name part) := by
  rw [onSchema, bind_of_ok _ (run_get state), leads]
  exact zoom_of_error failed

theorem of_onSchema_ok {value : Value} {final : CatalogState}
    (returned : onSchema handle program state = .ok value final) :
    ∃ part, program schema ⟨state.world, schema.tables⟩ = .ok value part := by
  cases run : program schema ⟨state.world, schema.tables⟩ with
  | ok got part =>
    rw [onSchema_of_ok leads run] at returned
    cases returned
    exact ⟨part, rfl⟩
  | error fault part =>
    rw [onSchema_of_error leads run] at returned
    exact nomatch returned

omit leads in
/-- A part of a schema that is put back as it was changes nothing. -/
theorem withTablePart_self (leads : state.resolve handle = some schema) :
    state.withTablePart handle.name ⟨state.world, schema.tables⟩ = state := by
  have found : state.catalog.schemas.entries.find handle.name = some schema := by
    unfold CatalogState.resolve at leads
    split_ifs at leads
    exact leads
  unfold CatalogState.withTablePart
  rw [FoldedMap.update_eq_self found rfl]

end OnSchema

/-- `DEFAULT_SCHEMA`. -/
def defaultSchemaName : Text := "main".toList

section Operations

variable (libraries : Libraries)

/-- `LoadEntries` of the catalog's set of schemas. -/
def Catalog.loadSchemas (catalog : Catalog) : EStateM Fault (SetState SchemaEntry) Unit :=
  (schemaLoader libraries catalog.name catalog.credentials).loadEntries

/-- `LoadEntries` of the set of tables of a schema. -/
def Catalog.loadTables (catalog : Catalog) (schema : SchemaEntry) :
    EStateM Fault (SetState TableEntry) Unit :=
  (tableLoader libraries catalog.internalName catalog.credentials schema.name
    schema.internal).loadEntries

/-- `UCCatalog::GetSchema` for a name other than `DEFAULT_SCHEMA`. -/
def getSchemaNamed (schemaName : Text) (ifNotFound : OnEntryNotFound) :
    EStateM Fault CatalogState (Option SchemaInfo) := do
  let catalog := (← get).catalog
  let entry ← onSchemas (CatalogSet.getEntry (catalog.loadSchemas libraries) schemaName)
  match entry with
  | some schema => return some ((← get).info schema)
  | none =>
    if ifNotFound = .returnNull then return none
    else throw (.raised ⟨.binderException,
      "Schema with name \"".toList ++ schemaName ++ "\" not found".toList⟩)

/-- `UCCatalog::GetSchema`. The default schema is looked up in turn, forever if it names itself. -/
def getSchema (schemaName : Text) (ifNotFound : OnEntryNotFound) :
    EStateM Fault CatalogState (Option SchemaInfo) := do
  if schemaName = defaultSchemaName then
    let defaultSchema := (← get).catalog.defaultSchema
    if defaultSchema = [] then
      throw (.raised ⟨.invalidInputException, ("Attempting to fetch the default schema - but no " ++
        "database was provided in the connection string").toList⟩)
    else if defaultSchema = defaultSchemaName then throw .diverges
    else getSchemaNamed libraries defaultSchema ifNotFound
  else getSchemaNamed libraries schemaName ifNotFound

/-- `UCCatalog::ScanSchemas`: the schemas the callback is called on. -/
def scanSchemas : EStateM Fault CatalogState (List SchemaInfo) := do
  let catalog := (← get).catalog
  let schemas ← onSchemas (CatalogSet.scan (catalog.loadSchemas libraries))
  return schemas.map (← get).info

/-- `UCCatalog::CreateSchema`. -/
def createSchema (onConflict : OnCreateConflict) : EStateM Fault CatalogState SchemaEntry := do
  if onConflict = .replaceOnConflict then onSchemas CatalogSet.dropEntry
  onSchemas schemaSetCreateSchema

/-- `UCCatalog::DropSchema`. -/
def dropSchema : EStateM Fault CatalogState Unit := onSchemas CatalogSet.dropEntry

/-- `UCCatalog::ClearCache`. -/
def clearCache : EStateM Fault CatalogState Unit :=
  modify fun state =>
    { state with
      catalog := { state.catalog with schemas := state.catalog.schemas.clearEntries }
      clears := state.clears + 1 }

/-! ### Operations on an attached catalog -/

/-- What DuckDB calls on a catalog and its schemas, and a change on the server. -/
inductive Op where
  | getSchema (schemaName : Text) (ifNotFound : OnEntryNotFound)
  | scanSchemas
  | createSchema (onConflict : OnCreateConflict)
  | dropSchema
  | clearCache
  | getEntry (schema : SchemaHandle) (type : CatalogType) (name : Text)
  | scan (schema : SchemaHandle) (type : CatalogType)
  | createTable (schema : SchemaHandle) (onConflict : OnCreateConflict)
  | createView (schema : SchemaHandle) (hasTransaction : Bool) (info : CreateViewInfo)
  | createRejected (schema : SchemaHandle) (kind : RejectedKind)
  | alter (schema : SchemaHandle) (isAlterTable : Bool)
  | dropEntry (schema : SchemaHandle) (type : CatalogType)
  | serverChange (remote : Request → CurlResult)

/-- What an operation returns. The order in which a scan visits the entries of a map is not
part of it. -/
inductive Result where
  | done
  | schema (found : Option SchemaInfo)
  | schemas (visited : Multiset SchemaInfo)
  | table (found : Option TableEntry)
  | tables (visited : Multiset TableEntry)

def Op.run : Op → EStateM Fault CatalogState Result
  | .getSchema schemaName ifNotFound => do
    return .schema (← UcCatalog.getSchema libraries schemaName ifNotFound)
  | .scanSchemas => do return .schemas (← UcCatalog.scanSchemas libraries)
  | .createSchema onConflict => do
    let _ ← UcCatalog.createSchema onConflict
    return .done
  | .dropSchema => do
    UcCatalog.dropSchema
    return .done
  | .clearCache => do
    UcCatalog.clearCache
    return .done
  | .getEntry schema type name => do
    let catalog := (← get).catalog
    return .table (← onSchema schema fun entry =>
      schemaGetEntry (catalog.loadTables libraries entry) type name)
  | .scan schema type => do
    let catalog := (← get).catalog
    return .tables (← onSchema schema fun entry =>
      schemaScan (catalog.loadTables libraries entry) type)
  | .createTable schema onConflict => do
    return .table (some (← onSchema schema fun _ => schemaCreateTable onConflict))
  | .createView schema hasTransaction info => do
    let catalog := (← get).catalog
    return .table (some (← onSchema schema fun entry =>
      schemaCreateView (catalog.loadTables libraries entry) entry.internal hasTransaction info))
  | .createRejected schema kind => onSchema schema fun _ => throw (.raised kind.exception)
  | .alter schema isAlterTable => do
    onSchema schema fun _ => schemaAlter isAlterTable
    return .done
  | .dropEntry schema type => do
    onSchema schema fun _ => schemaDropEntry type
    return .done
  | .serverChange remote => do
    modify fun state => { state with world := { state.world with remote } }
    return .done

end Operations

end UcCatalog
