/-
This file says what the cache of an attached catalog is for. A `Snapshot` is one
listing of schemas, fetched at the first access to a schema since the catalog was
attached or its cache was cleared, and for each schema one listing of tables,
fetched at the first access to its tables since then. Every operation is answered
from these listings; among the entries of a listing whose names are equal
ignoring case the first one counts, and what writes is rejected.

The listings a snapshot fetches are kept in order, so that what was sent to the
server since the last clear can be read off.
-/

import UcCatalog.CachedListing
import UcCatalog.Operations

namespace UcCatalog

open Stateful

/-- What a catalog is attached with. -/
structure Attachment where
  libraries : Libraries
  name : Text
  path : Text
  credentials : Credentials

/-- An entry of a listing of schemas. -/
structure SchemaItem where
  name : Text
  internal : Bool
  schemaData : Option APISchema

instance : CatalogEntry SchemaItem := ⟨SchemaItem.name⟩

def SchemaEntry.item (schema : SchemaEntry) : SchemaItem where
  name := schema.name
  internal := schema.internal
  schemaData := schema.schemaData

/-- A listing that is fetched. -/
inductive Source where
  | schemas
  | tables (schema : Text)
  deriving DecidableEq

structure Snapshot where
  /-- The server at the moment. -/
  remote : Request → CurlResult
  schemas : Option (List SchemaItem)
  /-- The listings of tables, by the names of the schemas in lower case. -/
  tables : Text → Option (List TableEntry)
  clears : Nat
  /-- The requests sent before the last clear. -/
  earlier : List Request
  /-- The listings fetched since the last clear. -/
  fetched : List Source

/-- The snapshot of a catalog that has just been attached. -/
def Snapshot.new (world : World) : Snapshot where
  remote := world.remote
  schemas := none
  tables := fun _ => none
  clears := 0
  earlier := world.sent
  fetched := []

section Attachment

variable (attachment : Attachment)

/-- How the attached catalog loads its schemas. -/
def Attachment.schemaLoader : Loader APISchema SchemaEntry :=
  UcCatalog.schemaLoader attachment.libraries attachment.name attachment.credentials

/-- How the attached catalog loads the tables of a schema. -/
def Attachment.tableLoader (item : SchemaItem) : Loader APITable TableEntry :=
  UcCatalog.tableLoader attachment.libraries attachment.path attachment.credentials item.name
    item.internal

/-- The request a listing is fetched with. -/
def Attachment.request : Source → Request
  | .schemas =>
    getRequestOf (schemasUrl attachment.credentials attachment.name) attachment.credentials.token
  | .tables schema =>
    getRequestOf (tablesUrl attachment.credentials attachment.path schema)
      attachment.credentials.token

/-! ### Accesses -/

variable (snapshot : Snapshot)

def Snapshot.info (item : SchemaItem) : SchemaInfo where
  handle := { clears := snapshot.clears, name := item.name }
  internal := item.internal
  schemaData := item.schemaData

/-- The schema a pointer leads to. -/
def Snapshot.resolve (handle : SchemaHandle) : Option SchemaItem :=
  if handle.clears = snapshot.clears then firstNamed (snapshot.schemas.getD []) handle.name
  else none

/-- The listing of schemas: the one fetched before, or else the one the server has now. -/
def Snapshot.schemaListing : List SchemaItem :=
  snapshot.schemas.getD ((attachment.schemaLoader.current snapshot.remote).map SchemaEntry.item)

/-- The listing of the tables of a schema, likewise. -/
def Snapshot.tableListing (item : SchemaItem) : List TableEntry :=
  (attachment.tableLoader item).view snapshot.remote (snapshot.tables (lower item.name))

/-- The snapshot after an access to the schemas. -/
def Snapshot.accessSchemas : Snapshot :=
  { snapshot with
    schemas := some (snapshot.schemaListing attachment)
    fetched :=
      if snapshot.schemas.isNone then snapshot.fetched ++ [.schemas] else snapshot.fetched }

/-- The snapshot after an access to the tables of a schema. -/
def Snapshot.accessTables (item : SchemaItem) : Snapshot :=
  { snapshot with
    tables := Function.update snapshot.tables (lower item.name)
      (some (snapshot.tableListing attachment item))
    fetched :=
      if (snapshot.tables (lower item.name)).isNone then snapshot.fetched ++ [.tables item.name]
      else snapshot.fetched }

/-- The snapshot after a clear: both levels are dropped. -/
def Snapshot.cleared : Snapshot :=
  { snapshot with
    schemas := none
    tables := fun _ => none
    clears := snapshot.clears + 1
    earlier := snapshot.earlier ++ snapshot.fetched.map attachment.request
    fetched := [] }

/-! ### Answers -/

def notImplemented (message : String) : Exception := ⟨.notImplementedException, message.toList⟩

/-- What is raised when a schema is not found. -/
def schemaNotFound (schemaName : Text) : Exception :=
  ⟨.binderException, "Schema with name \"".toList ++ schemaName ++ "\" not found".toList⟩

/-- What is raised for a view without a query. -/
def emptyView : Exception :=
  ⟨.binderException, "Cannot create view in UC that originated from an empty SQL statement".toList⟩

/-- What is raised instead of creating a view. -/
def viewNotCreated (hasTransaction : Bool) : Exception :=
  if hasTransaction then notImplemented "UCTableSet::CreateTable"
  else ⟨.internalException, "No transaction!?".toList⟩

/-- What is raised instead of dropping an entry. -/
def entryNotDropped : CatalogType → Exception
  | .tableEntry | .viewEntry => notImplemented "UCCatalogSet::DropEntry"
  | _ => ⟨.internalException, "Type not supported for GetCatalogSet".toList⟩

/-- The view is looked up before it would be created. -/
def CreateViewInfo.LooksUp (info : CreateViewInfo) : Prop :=
  info.sql ≠ [] ∧ (info.onConflict = .replaceOnConflict ∨ info.onConflict = .ignoreOnConflict)

instance (info : CreateViewInfo) : Decidable info.LooksUp :=
  inferInstanceAs (Decidable (_ ∧ _))

/-- What comes of a view that is to be created, by the table that was found under its name. -/
def CreateViewInfo.outcome (info : CreateViewInfo) (hasTransaction : Bool) :
    Option TableEntry → Outcome TableEntry
  | some table =>
    if info.onConflict = .ignoreOnConflict then .ok table
    else .error (.raised (notImplemented "REPLACE ON CONFLICT in CreateView"))
  | none => .error (.raised (viewNotCreated hasTransaction))

/-- An operation on the schema behind a pointer. -/
def Snapshot.onSchema (handle : SchemaHandle)
    (answer : SchemaItem → Outcome Result × Snapshot) : Outcome Result × Snapshot :=
  match snapshot.resolve handle with
  | none => (.error (.undefined .danglingEntry), snapshot)
  | some item => answer item

/-- The answer to an operation, and the snapshot after it. -/
def Snapshot.step : Op → Outcome Result × Snapshot
  | .getSchema schemaName ifNotFound =>
    (match firstNamed (snapshot.schemaListing attachment) schemaName with
      | some item => .ok (.schema (some (snapshot.info item)))
      | none =>
        if ifNotFound = .returnNull then .ok (.schema none)
        else .error (.raised (schemaNotFound schemaName)),
      snapshot.accessSchemas attachment)
  | .scanSchemas =>
    (.ok (.schemas ((firstOfEachName (snapshot.schemaListing attachment)).map snapshot.info)),
      snapshot.accessSchemas attachment)
  | .createSchema onConflict =>
    (.error (.raised (if onConflict = .replaceOnConflict then
        notImplemented "UCCatalogSet::DropEntry" else notImplemented "Schema creation")),
      snapshot)
  | .dropSchema => (.error (.raised (notImplemented "UCCatalogSet::DropEntry")), snapshot)
  | .clearCache => (.ok .done, snapshot.cleared attachment)
  | .getEntry handle _ name => snapshot.onSchema handle fun item =>
    (.ok (.table (firstNamed (snapshot.tableListing attachment item) name)),
      snapshot.accessTables attachment item)
  | .scan handle _ => snapshot.onSchema handle fun item =>
    (.ok (.tables (firstOfEachName (snapshot.tableListing attachment item))),
      snapshot.accessTables attachment item)
  | .createTable handle onConflict => snapshot.onSchema handle fun _ =>
    (.error (.raised (if onConflict = .replaceOnConflict then
        notImplemented "REPLACE ON CONFLICT in CreateTable"
      else notImplemented "UCTableSet::CreateTable")),
      snapshot)
  | .createView handle hasTransaction info => snapshot.onSchema handle fun item =>
    if info.LooksUp then
      ((info.outcome hasTransaction
        (firstNamed (snapshot.tableListing attachment item) info.viewName)).map fun table =>
          .table (some table),
        snapshot.accessTables attachment item)
    else (.error (.raised (if info.sql = [] then emptyView else viewNotCreated hasTransaction)),
      snapshot)
  | .createRejected handle kind => snapshot.onSchema handle fun _ =>
    (.error (.raised kind.exception), snapshot)
  | .alter handle isAlterTable => snapshot.onSchema handle fun _ =>
    (.error (.raised (if isAlterTable then notImplemented "UCTableSet::AlterTable"
      else ⟨.binderException, "Only altering tables is supported for now".toList⟩)),
      snapshot)
  | .dropEntry handle type => snapshot.onSchema handle fun _ =>
    (.error (.raised (entryNotDropped type)), snapshot)
  | .serverChange remote => (.ok .done, { snapshot with remote })

end Attachment

end UcCatalog
