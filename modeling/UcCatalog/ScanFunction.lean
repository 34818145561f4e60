/-
This file is `UCTableEntry::GetScanFunction`, which fetches credentials for a
table and installs them in DuckDB's secret manager under the storage location of
the table. The secret manager is DuckDB's: `SecretManager.Documented` is what is
known of it, that a secret replaces the one of its name and that the secret with
the longest scope in front of a path is selected.
-/

import UcCatalog.Catalog

namespace UcCatalog

open Stateful

/-! ### The secret manager -/

/-- A secret, as `CreateSecretInfo` describes it. -/
structure Secret where
  name : Text
  type : Text
  provider : Text
  options : List (Text × Text)
  scope : List Text
  deriving DecidableEq

/-- DuckDB's `SecretManager`. -/
structure SecretManager (Secrets : Type) where
  stored : Secrets → List Secret
  /-- `CreateSecret`, for a temporary secret with `REPLACE_ON_CONFLICT`. -/
  createSecret : Secrets → Secret → Except Exception Secrets
  /-- `LookupSecret`: the secret of a type that is used for a path. -/
  lookupSecret : Secrets → Text → Text → Option Secret

/-- A secret of the type with a scope in front of the path. -/
def Secret.Matches (secret : Secret) (path type scope : Text) : Prop :=
  secret.type = type ∧ scope ∈ secret.scope ∧ scope <+: path

structure SecretManager.Documented {Secrets : Type} (manager : SecretManager Secrets) : Prop where
  replaces : ∀ secrets secret, ∃ next, manager.createSecret secrets secret = .ok next ∧
    ∀ other, other ∈ manager.stored next ↔
      other = secret ∨ other ∈ manager.stored secrets ∧ lower other.name ≠ lower secret.name
  selects : ∀ secrets path type secret, manager.lookupSecret secrets path type = some secret →
    secret ∈ manager.stored secrets ∧ ∃ scope, secret.Matches path type scope ∧
      ∀ other ∈ manager.stored secrets, ∀ otherScope, other.Matches path type otherScope →
        otherScope.length ≤ scope.length
  finds : ∀ secrets path type, ∀ secret ∈ manager.stored secrets, ∀ scope,
    secret.Matches path type scope → manager.lookupSecret secrets path type ≠ none

/-! ### `GetScanFunction` -/

/-- What `GetScanFunction` reaches: the server and the secret manager. -/
structure ScanState (Secrets : Type) where
  world : World
  secrets : Secrets

/-- The functions of DuckDB and of the delta extension that `GetScanFunction` calls. -/
structure ScanLibraries (Secrets BindData : Type) where
  libraries : Libraries
  manager : SecretManager Secrets
  /-- The lookup of `delta_scan` and of its overload for a path. -/
  deltaScan : Except Exception PUnit
  /-- `delta_scan`'s `bind` on a path. -/
  bind : Secrets → Text → Except Exception BindData

/-- The secret `GetScanFunction` installs. -/
def tableSecret (table : APITable) (tableCredentials : APITableCredentials)
    (credentials : Credentials) : Secret where
  name := "__internal_uc_".toList ++ table.tableId
  type := "s3".toList
  provider := "config".toList
  options := [("key_id".toList, tableCredentials.keyId), ("secret".toList, tableCredentials.secret),
    ("session_token".toList, tableCredentials.sessionToken),
    ("region".toList, credentials.awsRegion)]
  scope := [table.storageLocation]

section Scan

variable {Secrets BindData : Type} (scanLibraries : ScanLibraries Secrets BindData)

/-- The branch for locations that are not local: fetch credentials and install them. -/
def injectSecret (table : APITable) (credentials : Credentials) :
    EStateM Fault (ScanState Secrets) PUnit := do
  let tableCredentials ← zoom ScanState.world (fun world state => { state with world })
    (getTableCredentials scanLibraries.libraries table.tableId credentials)
  let secrets ← lift (Outcome.ofExcept (scanLibraries.manager.createSecret (← get).secrets
    (tableSecret table tableCredentials credentials)))
  modify fun state => { state with secrets }

/-- `UCTableEntry::GetScanFunction`. -/
def getScanFunction (entry : TableEntry) (credentials : Credentials) :
    EStateM Fault (ScanState Secrets) BindData := do
  lift (Outcome.ofExcept scanLibraries.deltaScan)
  match entry.tableData with
  | none => throw (.undefined .nullTableData)
  | some tableData =>
    if tableData.dataSourceFormat ≠ "DELTA".toList then
      throw (.raised ⟨.notImplementedException, "Table '".toList ++ tableData.name ++
        "' is of unsupported format '".toList ++ tableData.dataSourceFormat ++ "', ".toList⟩)
    else
      if find "file://".toList tableData.storageLocation ≠ 0 then
        injectSecret scanLibraries tableData credentials
      lift (Outcome.ofExcept (scanLibraries.bind (← get).secrets tableData.storageLocation))

/-- The request for the credentials of a table. -/
def credentialsRequest (tableId : Text) (credentials : Credentials) : Request where
  url := cString (credentialsUrl credentials)
  token := cString credentials.token
  postFields := some (credentialsBody tableId)

/-- The server answers the request for the credentials of a table with these. -/
def Grants (world : World) (tableId : Text) (credentials : Credentials)
    (tableCredentials : APITableCredentials) : Prop :=
  ∃ body, world.remote (credentialsRequest tableId credentials) = .body body ∧
    decodeTableCredentials scanLibraries.libraries body = .ok tableCredentials

variable {scanLibraries}

/-- A request for credentials that is answered ends as the decoder does on the answer. -/
theorem getTableCredentials_of_body (libraries : Libraries) {world : World}
    {tableId body : Text} {credentials : Credentials}
    (replied : world.remote (credentialsRequest tableId credentials) = .body body) :
    getTableCredentials libraries tableId credentials world =
      finish (Outcome.ofExcept (decodeTableCredentials libraries body))
        (world.logged (credentialsRequest tableId credentials)) :=
  performRequest_bind_of_body _
    (fun body => Outcome.ofExcept (decodeTableCredentials libraries body)) replied

theorem getTableCredentials_of_grants {world : World} {tableId : Text} {credentials : Credentials}
    {tableCredentials : APITableCredentials}
    (grants : Grants scanLibraries world tableId credentials tableCredentials) :
    getTableCredentials scanLibraries.libraries tableId credentials world =
      .ok tableCredentials (world.logged (credentialsRequest tableId credentials)) := by
  obtain ⟨body, replied, decoded⟩ := grants
  rw [getTableCredentials_of_body _ replied, decoded]
  rfl

/-- A call on a remote delta table sets its secret before the bind. -/
theorem getScanFunction_of_distant {entry : TableEntry} {table : APITable}
    {credentials : Credentials} {state : ScanState Secrets}
    (delta : scanLibraries.deltaScan = .ok ⟨⟩) (present : entry.tableData = some table)
    (format : table.dataSourceFormat = "DELTA".toList)
    (distant : ¬ "file://".toList <+: table.storageLocation) :
    getScanFunction scanLibraries entry credentials state =
      (injectSecret scanLibraries table credentials >>= fun _ => do
        lift (Outcome.ofExcept
          (scanLibraries.bind (← get).secrets table.storageLocation))) state := by
  have away : find "file://".toList table.storageLocation ≠ 0 :=
    fun same => distant ((find_eq_zero _ _).mp same)
  unfold getScanFunction
  simp only [run_bind, run_lift, delta, Outcome.ofExcept, present, format, ne_eq,
    not_true_eq_false, if_false, away, not_false_eq_true, if_true]

/-- A call on a remote delta table that is granted credentials installs them, whatever the bind
makes of them. -/
theorem after_getScanFunction {entry : TableEntry} {table : APITable} {credentials : Credentials}
    {tableCredentials : APITableCredentials} {state : ScanState Secrets} {next : Secrets}
    (delta : scanLibraries.deltaScan = .ok ⟨⟩) (present : entry.tableData = some table)
    (format : table.dataSourceFormat = "DELTA".toList)
    (distant : ¬ "file://".toList <+: table.storageLocation)
    (grants : Grants scanLibraries state.world table.tableId credentials tableCredentials)
    (created : scanLibraries.manager.createSecret state.secrets
      (tableSecret table tableCredentials credentials) = .ok next) :
    (after (getScanFunction scanLibraries entry credentials state)).secrets = next := by
  have injected : injectSecret scanLibraries table credentials state =
      .ok ⟨⟩ { world := state.world.logged (credentialsRequest table.tableId credentials),
               secrets := next } := by
    have fetched := getTableCredentials_of_grants grants
    rw [injectSecret, bind_of_ok _ (zoom_of_ok fetched)]
    simp only [run_bind, run_get, run_lift, created, Outcome.ofExcept, run_modify]
  rw [getScanFunction_of_distant delta present format distant, bind_of_ok _ injected]
  simp only [run_bind, run_get, run_lift]
  cases scanLibraries.bind next table.storageLocation <;> rfl

/-- A call on a remote delta table that is refused credentials leaves the secrets alone. -/
theorem getScanFunction_of_refused {entry : TableEntry} {table : APITable}
    {credentials : Credentials} {state : ScanState Secrets} {fault : Fault} {world : World}
    (delta : scanLibraries.deltaScan = .ok ⟨⟩) (present : entry.tableData = some table)
    (format : table.dataSourceFormat = "DELTA".toList)
    (distant : ¬ "file://".toList <+: table.storageLocation)
    (refused : getTableCredentials scanLibraries.libraries table.tableId credentials state.world =
      .error fault world) :
    getScanFunction scanLibraries entry credentials state = .error fault { state with world } := by
  have stopped : injectSecret scanLibraries table credentials state =
      .error fault { state with world } :=
    bind_of_error _ (zoom_of_error refused)
  rw [getScanFunction_of_distant delta present format distant, bind_of_error _ stopped]

/-! ### How a scan fails -/

theorem CurlResult.isRaised {url : Text} {result : CurlResult} {fault : Fault}
    (failed : result.outcome url = .error fault) : fault.IsRaised := by
  cases result with
  | initFailed | failed error =>
    cases failed
    exact ⟨_, rfl⟩
  | body readBuffer => exact nomatch failed

theorem injectSecret_raises (table : APITable) (credentials : Credentials) :
    FailsBy Fault.IsRaised (injectSecret scanLibraries table credentials) := by
  have request (url : Text) (sent : Request) :
      FailsBy Fault.IsRaised (performRequest url sent) :=
    .bind .get fun _ => .bind (.modify _) fun _ => .lift fun _ => CurlResult.isRaised
  have fetch : FailsBy Fault.IsRaised
      (getTableCredentials scanLibraries.libraries table.tableId credentials) :=
    .bind (request _ _) fun _ => .lift fun _ => Outcome.ofExcept_eq_error
  exact .bind fetch.zoom fun _ => .bind .get fun _ =>
    .bind (.lift fun _ => Outcome.ofExcept_eq_error) fun _ => .modify _

/-- A scan of a table that has its data fails with an exception, if it fails. -/
theorem getScanFunction_raises {entry : TableEntry} (present : entry.tableData ≠ none)
    (credentials : Credentials) :
    FailsBy Fault.IsRaised (getScanFunction scanLibraries entry credentials) := by
  obtain ⟨table, same⟩ := Option.ne_none_iff_exists'.mp present
  have bindTable : FailsBy Fault.IsRaised
      ((get : EStateM Fault (ScanState Secrets) _) >>= fun state =>
        lift (Outcome.ofExcept (scanLibraries.bind state.secrets table.storageLocation))) :=
    .bind .get fun _ => .lift fun _ => Outcome.ofExcept_eq_error
  unfold getScanFunction
  refine .bind (.lift fun _ => Outcome.ofExcept_eq_error) fun _ => ?_
  rw [same]
  show FailsBy _ (if _ then _ else _)
  split
  · exact .throw ⟨_, rfl⟩
  · show FailsBy _ (if _ then _ else _)
    split
    · exact .bind (injectSecret_raises table credentials) fun _ => bindTable
    · exact bindTable

end Scan

end UcCatalog
