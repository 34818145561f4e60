/-
This file is a DuckDB instance with several attached databases, some of them of
Unity Catalog. They share the server and the secrets. A `Command` is what a user
can have the extension do: make a secret, attach and detach, call a catalog, scan a
table, and clear the caches of all catalogs at once.

An attached database is known by a number that is given once, so that a pointer
from before a detach is never one into another database. The secrets are those of
DuckDB's one secret manager, which is a parameter: a scan creates a secret in it, and
`GetSecret` finds secrets in it by name and storage. `GetSecret` does not ask for a
type, so that it also finds a secret that a scan has installed or that another part of
DuckDB has registered (`otherSecret`). `SessionLibraries.Documented` is what is known
of the manager. The function that clears the caches is modelled although
`LoadInternal` does not register it.
-/

import UcCatalog.AttachedSecret
import UcCatalog.CacheHoldings
import UcCatalog.ScanFunction

namespace UcCatalog

open Stateful

/-! ### Attached databases -/

/-- An attached database, of this extension or of another kind. -/
inductive Database where
  | uc (catalog : Catalog) (clears : Nat)
  | other (catalogType : { catalogType : Text // catalogType ≠ "uc".toList })

/-- `Catalog::GetCatalogType`. -/
def Database.getCatalogType : Database → Text
  | .uc _ _ => "uc".toList
  | .other catalogType => catalogType

/-- One turn of the loop in `ClearUCCaches`. -/
def Database.clearUCCache (world : World) (database : Database) : Database :=
  if database.getCatalogType ≠ "uc".toList then database
  else
    match database with
    | .uc catalog clears =>
      let state := after (clearCache ⟨world, catalog, clears⟩)
      .uc state.catalog state.clears
    | .other catalogType => .other catalogType

structure Session (Secrets : Type) where
  world : World
  secrets : Secrets
  databases : FoldedMap (id : Nat → Nat) Database
  /-- The number of the next database. -/
  nextOid : Nat

/-- An instance with nothing attached. -/
def Session.start {Secrets : Type} (world : World) (secrets : Secrets) : Session Secrets where
  world := world
  secrets := secrets
  databases := .empty id Database
  nextOid := 0

/-! ### Secrets by name -/

/-- The functions of DuckDB that the commands of a session call. -/
structure SessionLibraries (Secrets BindData : Type) extends ScanLibraries Secrets BindData where
  rTrim : RTrim
  /-- `SecretManager::GetSecretByName`. -/
  getSecretByName : Secrets → GetSecretByName
  /-- `SecretManager::RegisterSecret`, for a storage. -/
  registerSecret : Secrets → OnCreateConflict → Text → KeyValueSecret → Except Exception Secrets
  /-- `SecretManager::DropSecretByName`, for a storage. -/
  dropSecretByName : Secrets → OnEntryNotFound → Text → Text → Except Exception Secrets

/-- A secret put into a storage, in place of the one of its name, or taken out. Names of secrets and
of storages are compared ignoring case. -/
def putSecret (secrets : GetSecretByName) (storage name : Text) (secret : Option KeyValueSecret) :
    GetSecretByName :=
  fun secretName secretStorage =>
    if lower secretName = lower name ∧ lower secretStorage = lower storage then secret
    else secrets secretName secretStorage

/-- The secret has the name and the scope of the description, and every option of it. -/
structure KeyValueSecret.MadeFrom (secret : KeyValueSecret) (info : Secret) : Prop where
  name : secret.name = info.name
  type : secret.type = info.type
  provider : secret.provider = info.provider
  prefixPaths : secret.prefixPaths = info.scope
  options : ∀ option ∈ info.options, secret.tryGetValue option.1 = .text option.2

section Documented

variable {Secrets BindData : Type} (duckdb : SessionLibraries Secrets BindData)

/-- The secret is registered, and not left out because its name is there. -/
def SessionLibraries.Stores (secrets : Secrets) (onConflict : OnCreateConflict) (storage : Text)
    (secret : KeyValueSecret) : Prop :=
  (∃ next, duckdb.registerSecret secrets onConflict storage secret = .ok next) ∧
    (onConflict = .ignoreOnConflict → duckdb.getSecretByName secrets secret.name storage = none)

/-- What is known of the secret manager: what is found by name after a scan has created a secret,
which goes to the memory, and after one was registered or dropped. -/
structure SessionLibraries.Documented : Prop where
  creates : ∀ secrets table given credentials next,
    duckdb.manager.createSecret secrets (tableSecret table given credentials) = .ok next →
      ∃ secret : KeyValueSecret, secret.MadeFrom (tableSecret table given credentials) ∧
        duckdb.getSecretByName next = putSecret (duckdb.getSecretByName secrets)
          "memory".toList (tableSecret table given credentials).name (some secret)
  registers : ∀ secrets onConflict storage secret next,
    duckdb.registerSecret secrets onConflict storage secret = .ok next →
      (duckdb.Stores secrets onConflict storage secret →
        duckdb.getSecretByName next =
          putSecret (duckdb.getSecretByName secrets) storage secret.name (some secret)) ∧
      (¬ duckdb.Stores secrets onConflict storage secret →
        duckdb.getSecretByName next = duckdb.getSecretByName secrets)
  drops : ∀ secrets ifNotFound storage name next,
    duckdb.dropSecretByName secrets ifNotFound storage name = .ok next →
      duckdb.getSecretByName next = putSecret (duckdb.getSecretByName secrets) storage name none

end Documented

/-! ### Commands -/

/-- The operations that are calls of one catalog. -/
def Op.IsCall : Op → Prop
  | .clearCache | .serverChange _ => False
  | _ => True

abbrev CatalogCall := { op : Op // op.IsCall }

inductive Command where
  | createSecret (onConflict : OnCreateConflict) (storage name : Text)
      (options : FoldedMap lower Value)
  | dropSecret (ifNotFound : OnEntryNotFound) (storage name : Text)
  /-- Another part of DuckDB registers a secret. -/
  | otherSecret (onConflict : OnCreateConflict) (storage : Text) (secret : KeyValueSecret)
  | attach (name : Text) (info : AttachInfo)
  | attachOther (catalogType : { catalogType : Text // catalogType ≠ "uc".toList })
  | detach (oid : Nat)
  | call (oid : Nat) (op : CatalogCall)
  | scanTable (oid : Nat) (schema : SchemaHandle) (table : Text)
  | clearCacheOnSetting
  /-- A call of `uc_clear_cache`, with the number of times DuckDB asks it for rows. -/
  | clearCacheFunction (pulls : Nat)
  | serverChange (remote : Request → CurlResult)

/-- What a command returns. Nothing is called where the extension has no such entry. -/
inductive Reply (BindData : Type) where
  | done
  | notCalled
  | attached (oid : Nat)
  | result (result : Result)
  | bound (bindData : BindData)

section Commands

variable {Secrets BindData : Type}

/-- Have the secret manager change its secrets, unless it raises. -/
def setSecrets (change : Secrets → Except Exception Secrets) :
    EStateM Fault (Session Secrets) PUnit := do
  let secrets ← lift (Outcome.ofExcept (change (← get).secrets))
  modify fun session => { session with secrets }

/-- Attach a database under the next number. -/
def Session.adding (session : Session Secrets) (database : Database) : Session Secrets :=
  { session with
    databases := session.databases.insert session.nextOid database
    nextOid := session.nextOid + 1 }

/-- The session as one attached catalog sees it. -/
def Session.part (session : Session Secrets) (catalog : Catalog) (clears : Nat) : CatalogState :=
  ⟨session.world, catalog, clears⟩

def Session.withPart (oid : Nat) (state : CatalogState) (session : Session Secrets) :
    Session Secrets :=
  { session with
    world := state.world
    databases := session.databases.update oid fun _ => .uc state.catalog state.clears }

/-- The session as a scan sees it. -/
def Session.scanPart (session : Session Secrets) : ScanState Secrets :=
  ⟨session.world, session.secrets⟩

def Session.withScanPart (state : ScanState Secrets) (session : Session Secrets) :
    Session Secrets :=
  { session with world := state.world, secrets := state.secrets }

/-- Run a member of an attached catalog. -/
def onCatalog (oid : Nat) (program : EStateM Fault CatalogState Result) :
    EStateM Fault (Session Secrets) (Reply BindData) := do
  match (← get).databases.find oid with
  | some (.uc catalog clears) =>
    let result ← zoom (fun session : Session Secrets => session.part catalog clears)
      (Session.withPart oid) program
    return .result result
  | _ => return .notCalled

/-- The entry of a table that is cached, with its catalog. -/
def Session.tableEntry (session : Session Secrets) (oid : Nat) (schema : SchemaHandle)
    (table : Text) : Option (Catalog × TableEntry) :=
  match session.databases.find oid with
  | some (.uc catalog clears) => do
    let schemaEntry ← (session.part catalog clears).resolve schema
    let entry ← schemaEntry.tables.entries.find table
    return (catalog, entry)
  | _ => none

/-- `ClearUCCaches`. -/
def clearUCCaches : EStateM Fault (Session Secrets) PUnit :=
  modify fun session =>
    { session with databases := session.databases.mapValues (Database.clearUCCache session.world) }

/-- `ClearCacheFunctionData`. -/
structure ClearCacheFunctionData where
  finished : Bool

/-- `ClearCacheFunction`. -/
def clearCacheFunction (data : ClearCacheFunctionData) :
    EStateM Fault (Session Secrets) ClearCacheFunctionData := do
  if data.finished then return data
  else
    clearUCCaches
    return { data with finished := true }

/-- `ClearCacheFunction` as often as it is asked for rows. -/
def pullClearCache : Nat → ClearCacheFunctionData → EStateM Fault (Session Secrets) PUnit
  | 0, _ => return ⟨⟩
  | pulls + 1, data => do
    let data ← clearCacheFunction data
    pullClearCache pulls data

variable (duckdb : SessionLibraries Secrets BindData)

def Command.run : Command → EStateM Fault (Session Secrets) (Reply BindData)
  | .createSecret onConflict storage name options => do
    let secret ← lift (createUCSecretFunction name options)
    setSecrets fun secrets => duckdb.registerSecret secrets onConflict storage secret
    return .done
  | .dropSecret ifNotFound storage name => do
    setSecrets fun secrets => duckdb.dropSecretByName secrets ifNotFound storage name
    return .done
  | .otherSecret onConflict storage secret => do
    setSecrets fun secrets => duckdb.registerSecret secrets onConflict storage secret
    return .done
  | .attach name info => do
    let session ← get
    let catalog ← lift
      (ucCatalogAttach duckdb.rTrim (duckdb.getSecretByName session.secrets) name info)
    modify fun session => session.adding (.uc catalog 0)
    return .attached session.nextOid
  | .attachOther catalogType => do
    let session ← get
    modify fun session => session.adding (.other catalogType)
    return .attached session.nextOid
  | .detach oid => do
    modify fun session => { session with databases := session.databases.erase oid }
    return .done
  | .call oid op => onCatalog oid (op.1.run duckdb.libraries)
  | .scanTable oid schema table => do
    match (← get).tableEntry oid schema table with
    | some (catalog, entry) =>
      let bindData ← zoom Session.scanPart Session.withScanPart
        (getScanFunction duckdb.toScanLibraries entry catalog.credentials)
      return .bound bindData
    | none => return .notCalled
  | .clearCacheOnSetting => do
    clearUCCaches
    return .done
  | .clearCacheFunction pulls => do
    pullClearCache pulls ⟨false⟩
    return .done
  | .serverChange remote => do
    modify fun session => { session with world := { session.world with remote } }
    return .done

/-- The session after a row of commands. -/
def Session.after (session : Session Secrets) (commands : List Command) : Session Secrets :=
  (trace (Command.run duckdb) session commands).2

end Commands

end UcCatalog
