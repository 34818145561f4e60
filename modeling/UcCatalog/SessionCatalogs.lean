/-
This file proves that the catalogs of a session do not disturb each other. They
share the server and the log of requests, and no operation reads the log, so that
every catalog has at any time the caches it would have if the commands that are
not for it had not been given, and answers like that (`catalogs_isolated`).

The invariant is that each attached catalog has the caches of a snapshot of its
own. One step of the session is one step of that snapshot, or none.
-/

import UcCatalog.AttachOptions
import UcCatalog.MappedSecrets

namespace UcCatalog

open Stateful

/-- What a catalog was attached with. -/
def Catalog.attachment (libraries : Libraries) (catalog : Catalog) : Attachment where
  libraries := libraries
  name := catalog.name
  path := catalog.internalName
  credentials := catalog.credentials

/-- What a command has one catalog do. -/
def Command.ops (oid : Nat) : Command → List Op
  | .call other op => if other = oid then [op.1] else []
  | .clearCacheOnSetting => [.clearCache]
  | .clearCacheFunction pulls => if pulls = 0 then [] else [.clearCache]
  | .serverChange remote => [.serverChange remote]
  | _ => []

section Session

variable {Secrets BindData : Type} {duckdb : SessionLibraries Secrets BindData}
variable {session next : Session Secrets} {oid : Nat} {attachment : Attachment}
  {snapshot : Snapshot}

/-! ### The invariant -/

/-- The catalog under the number has the caches of the snapshot. -/
structure Session.Serves (libraries : Libraries) (session : Session Secrets) (oid : Nat)
    (attachment : Attachment) (snapshot : Snapshot) : Prop where
  libraries : attachment.libraries = libraries
  found : session.databases.find oid =
    some (.uc (snapshot.state attachment).catalog snapshot.clears)
  remote : snapshot.remote = session.world.remote
  coherent : snapshot.Coherent

/-- Every catalog has the caches of a snapshot, and the next number is not taken. -/
structure Session.Sound (libraries : Libraries) (session : Session Secrets) : Prop where
  fresh : ∀ oid, session.nextOid ≤ oid → session.databases.find oid = none
  served : ∀ oid catalog clears, session.databases.find oid = some (.uc catalog clears) →
    ∃ snapshot, session.Serves libraries oid (catalog.attachment libraries) snapshot

theorem Session.Serves.congr {libraries : Libraries}
    (serves : session.Serves libraries oid attachment snapshot)
    (databases : next.databases.find oid = session.databases.find oid)
    (remote : next.world.remote = session.world.remote) :
    next.Serves libraries oid attachment snapshot :=
  ⟨serves.libraries, databases.trans serves.found, serves.remote.trans remote.symm,
    serves.coherent⟩

/-- What a catalog of a session sees is the state of its holdings. -/
theorem Session.Serves.part {libraries : Libraries}
    (serves : session.Serves libraries oid attachment snapshot) :
    session.part (snapshot.state attachment).catalog snapshot.clears =
      (⟨snapshot, session.world.sent⟩ : Holdings).state attachment := by
  show CatalogState.mk _ _ _ = CatalogState.mk ⟨snapshot.remote, session.world.sent⟩ _ _
  rw [serves.remote]
  rfl

/-! ### Calls of a catalog -/

theorem onCatalog_of_finish {catalog : Catalog} {clears : Nat}
    {program : EStateM Fault CatalogState Result} {ending : Outcome Result} {final : CatalogState}
    (found : session.databases.find oid = some (.uc catalog clears))
    (run : program (session.part catalog clears) = finish ending final) :
    (onCatalog oid program session : EStateM.Result Fault _ (Reply BindData)) =
      finish (ending.map .result) (session.withPart oid final) := by
  rw [onCatalog, bind_of_ok _ (run_get session), found]
  exact bind_of_finish Reply.result (zoom_of_finish run)

/-- Where no catalog is attached, nothing is called. -/
theorem onCatalog_of_absent {program : EStateM Fault CatalogState Result}
    (absent : ∀ catalog clears, session.databases.find oid ≠ some (.uc catalog clears)) :
    (onCatalog oid program session : EStateM.Result Fault _ (Reply BindData)) =
      .ok .notCalled session := by
  rw [onCatalog, bind_of_ok _ (run_get session)]
  cases found : session.databases.find oid with
  | none => rfl
  | some database =>
    cases database with
    | uc catalog clears => exact absurd found (absent catalog clears)
    | other catalogType => rfl

theorem Holdings.step_remote (holdings : Holdings) {op : Op} (isCall : op.IsCall) :
    (holdings.step attachment op).2.snapshot.remote = holdings.snapshot.remote :=
  Holdings.step_holds (fun final => final.snapshot.remote = holdings.snapshot.remote) rfl rfl
    (fun _ _ _ => rfl) (fun clears => absurd isCall (by rw [clears]; exact id))
    fun remote changes => absurd isCall (by rw [changes]; exact id)

/-- A call of a catalog ends as the step of its holdings does. -/
theorem call_of_serves (serves : session.Serves duckdb.libraries oid attachment snapshot)
    (op : CatalogCall) : ∃ ending following requests,
      SendsOneOrNone attachment (fun sent => (⟨snapshot, sent⟩ : Holdings).step attachment op.1)
        ending following requests ∧
      (Command.call oid op).run duckdb session =
        finish (ending.map .result) (session.withPart oid
          ((⟨following, session.world.sent ++ requests⟩ : Holdings).state attachment)) := by
  obtain ⟨ending, following, requests, sends⟩ :=
    Holdings.exists_sendsOneOrNone attachment snapshot op.1
  refine ⟨ending, following, requests, sends, onCatalog_of_finish serves.found ?_⟩
  have ran := @run_holdings attachment ⟨snapshot, session.world.sent⟩ serves.coherent op.1
  rw [sends.steps session.world.sent] at ran
  rw [serves.part, ← serves.libraries]
  exact ran

/-- A call ends as it would with any other log. -/
theorem call_alone (serves : session.Serves duckdb.libraries oid attachment snapshot)
    (op : CatalogCall) (sent : List Request) :
    outcome ((Command.call oid op).run duckdb session) =
      (outcome (op.1.run duckdb.libraries
        ((⟨snapshot, sent⟩ : Holdings).state attachment))).map .result := by
  obtain ⟨ending, following, requests, sends, called⟩ := call_of_serves serves op
  have lone := @run_holdings attachment ⟨snapshot, sent⟩ serves.coherent op.1
  rw [sends.steps sent] at lone
  rw [called, outcome_finish, ← serves.libraries, lone, outcome_finish]

/-! ### Scans -/

/-- The entry is one of a delta table that is not local, and `delta_scan` is there. -/
structure RemoteDelta (scanLibraries : ScanLibraries Secrets BindData) (entry : TableEntry)
    (table : APITable) : Prop where
  delta : scanLibraries.deltaScan = .ok ⟨⟩
  present : entry.tableData = some table
  format : table.dataSourceFormat = "DELTA".toList
  distant : ¬ "file://".toList <+: table.storageLocation

/-- What a scan of a table that is not local leaves: the request for credentials has gone out, and
the secret is installed if they were granted. -/
structure ScanLeaves (scanLibraries : ScanLibraries Secrets BindData) (table : APITable)
    (credentials : Credentials) (state final : ScanState Secrets) : Prop where
  world : final.world = state.world.logged (credentialsRequest table.tableId credentials)
  secrets : final.secrets = state.secrets ∨
    ∃ given, Grants scanLibraries state.world table.tableId credentials given ∧
      scanLibraries.manager.createSecret state.secrets (tableSecret table given credentials) =
        .ok final.secrets

/-- Credentials that are returned were granted. -/
theorem grants_of_getTableCredentials {tableId : Text} {credentials : Credentials}
    {given : APITableCredentials} {world final : World}
    (returned : getTableCredentials scanLibraries.libraries tableId credentials world =
      .ok given final) : Grants scanLibraries world tableId credentials given := by
  cases replied : world.remote (credentialsRequest tableId credentials) with
  | initFailed | failed =>
    have broken : performRequest (credentialsUrl credentials)
        (credentialsRequest tableId credentials) world = _ :=
      performRequest_of_error (by rw [replied]; rfl)
    have failed : getTableCredentials scanLibraries.libraries tableId credentials world = _ :=
      bind_of_error _ broken
    exact nomatch failed.symm.trans returned
  | body body =>
    rw [getTableCredentials_of_body _ replied] at returned
    refine ⟨body, replied, ?_⟩
    cases decoded : decodeTableCredentials scanLibraries.libraries body with
    | error exception =>
      rw [decoded] at returned
      exact nomatch returned
    | ok tableCredentials =>
      rw [decoded] at returned
      cases returned
      rfl

theorem scanLeaves_injectSecret (table : APITable) (credentials : Credentials)
    (state : ScanState Secrets) :
    ScanLeaves scanLibraries table credentials state
      (after (injectSecret scanLibraries table credentials state)) := by
  have fetched : after (getTableCredentials scanLibraries.libraries table.tableId credentials
      state.world) = state.world.logged (credentialsRequest table.tableId credentials) :=
    after_performRequest_bind ..
  unfold injectSecret
  cases ran : getTableCredentials scanLibraries.libraries table.tableId credentials state.world with
  | error fault world =>
    rw [ran] at fetched
    rw [bind_of_error _ (zoom_of_error ran)]
    exact ⟨fetched, Or.inl rfl⟩
  | ok given world =>
    rw [ran] at fetched
    rw [bind_of_ok _ (zoom_of_ok ran)]
    cases created : scanLibraries.manager.createSecret state.secrets
        (tableSecret table given credentials) with
    | error exception =>
      simp only [run_bind, run_get, run_lift, created, Outcome.ofExcept]
      exact ⟨fetched, Or.inl rfl⟩
    | ok secrets =>
      simp only [run_bind, run_get, run_lift, created, Outcome.ofExcept, run_modify]
      exact ⟨fetched, Or.inr ⟨given, grants_of_getTableCredentials ran, created⟩⟩

/-- A scan leaves everything as it was, or it is one of a delta table that is not local. -/
theorem scanLeaves_getScanFunction (entry : TableEntry) (credentials : Credentials)
    (state : ScanState Secrets) :
    after (getScanFunction scanLibraries entry credentials state) = state ∨
      ∃ table, RemoteDelta scanLibraries entry table ∧
        ScanLeaves scanLibraries table credentials state
          (after (getScanFunction scanLibraries entry credentials state)) := by
  cases delta : scanLibraries.deltaScan with
  | error exception =>
    refine Or.inl ?_
    simp only [getScanFunction, run_bind, run_lift, delta, Outcome.ofExcept]
    rfl
  | ok found =>
    cases present : entry.tableData with
    | none =>
      refine Or.inl ?_
      simp only [getScanFunction, run_bind, run_lift, delta, Outcome.ofExcept, present]
      rfl
    | some table =>
      by_cases format : table.dataSourceFormat = "DELTA".toList
      · by_cases distant : "file://".toList <+: table.storageLocation
        · refine Or.inl ?_
          have isLocal : find "file://".toList table.storageLocation = 0 :=
            (find_eq_zero _ _).mpr distant
          simp only [getScanFunction, run_bind, run_lift, delta, Outcome.ofExcept, present, format,
            isLocal, ne_eq, not_true_eq_false, if_false, run_get]
          cases scanLibraries.bind state.secrets table.storageLocation <;> rfl
        · refine Or.inr ⟨table, ⟨delta, present, format, distant⟩, ?_⟩
          have leaves := @scanLeaves_injectSecret _ _ scanLibraries table credentials state
          rw [getScanFunction_of_distant delta present format distant]
          cases ran : injectSecret scanLibraries table credentials state with
          | error fault final =>
            rw [ran] at leaves
            rw [bind_of_error _ ran]
            exact leaves
          | ok installed final =>
            rw [ran] at leaves
            rw [bind_of_ok _ ran, bind_of_ok _ (run_get _), run_lift]
            exact after_finish _ _ ▸ leaves
      · refine Or.inl ?_
        simp only [getScanFunction, run_bind, run_lift, delta, Outcome.ofExcept, present]
        rw [if_pos format]
        rfl

/-- What a scan leaves, by the entry it finds. -/
theorem after_scanTable {schema : SchemaHandle} {table : Text} :
    after ((Command.scanTable oid schema table).run duckdb session) =
      match session.tableEntry oid schema table with
      | some (catalog, entry) => session.withScanPart
          (after
            (getScanFunction duckdb.toScanLibraries entry catalog.credentials session.scanPart))
      | none => session := by
  rw [Command.run, bind_of_ok _ (run_get session)]
  cases session.tableEntry oid schema table with
  | none => rfl
  | some found => exact after_zoom_bind ..

/-! ### One command -/

/-- What a change of the secrets leaves. -/
theorem after_setSecrets (change : Secrets → Except Exception Secrets) :
    after ((setSecrets change >>= fun _ => pure (.done : Reply BindData)) session) =
      match change session.secrets with
      | .ok secrets => { session with secrets }
      | .error _ => session := by
  simp only [setSecrets, run_bind, run_get, run_lift]
  cases change session.secrets <;> rfl

/-- The commands about secrets by name. -/
def Command.NamesSecret : Command → Prop
  | .createSecret _ _ _ _ | .dropSecret _ _ _ | .otherSecret _ _ _ => True
  | _ => False

/-- A command about secrets leaves everything else. -/
theorem after_namesSecret {command : Command} (names : command.NamesSecret) :
    ∃ secrets, after (command.run duckdb session) = { session with secrets } := by
  have set (change : Secrets → Except Exception Secrets) :
      ∃ secrets, after ((setSecrets change >>= fun _ => pure (.done : Reply BindData)) session) =
        { session with secrets } := by
    rw [after_setSecrets]
    cases change session.secrets with
    | ok secrets => exact ⟨secrets, rfl⟩
    | error exception => exact ⟨session.secrets, rfl⟩
  cases command with
  | createSecret onConflict storage name options =>
    rw [Command.run]
    cases createUCSecretFunction name options with
    | error fault =>
      rw [bind_of_error _ (run_lift _ _)]
      exact ⟨session.secrets, rfl⟩
    | ok secret =>
      rw [bind_of_ok _ (run_lift _ _)]
      exact set _
  | dropSecret ifNotFound storage name => exact set _
  | otherSecret onConflict storage secret => exact set _
  | _ => exact names.elim

theorem pullClearCache_finished (pulls : Nat) :
    pullClearCache pulls ⟨true⟩ session = .ok ⟨⟩ session := by
  induction pulls with
  | zero => rfl
  | succ pulls inductionHypothesis => exact inductionHypothesis

/-- However often it is asked for rows, the function clears the caches once. -/
theorem pullClearCache_succ (pulls : Nat) :
    pullClearCache (pulls + 1) ⟨false⟩ session = clearUCCaches session :=
  pullClearCache_finished pulls

/-- A call leaves the other databases and the server. -/
theorem serves_withPart {libraries : Libraries} {other : Nat} {otherAttachment : Attachment}
    {following : Snapshot} {sent : List Request}
    (serves : session.Serves libraries oid attachment snapshot) (differ : other ≠ oid)
    (remote : following.remote = session.world.remote) :
    (session.withPart other ((⟨following, sent⟩ : Holdings).state otherAttachment)).Serves
      libraries oid attachment snapshot := by
  refine serves.congr ?_ remote
  show (session.databases.update other _).find oid = _
  rw [FoldedMap.find_update]
  exact if_neg (Ne.symm differ)

theorem attached_or_absent (session : Session Secrets) (oid : Nat) :
    (∃ catalog clears, session.databases.find oid = some (.uc catalog clears)) ∨
      ∀ catalog clears, session.databases.find oid ≠ some (.uc catalog clears) := by
  by_cases attached : ∃ catalog clears, session.databases.find oid = some (.uc catalog clears)
  · exact Or.inl attached
  · exact Or.inr fun catalog clears found => attached ⟨catalog, clears, found⟩

/-- A call is one step of the snapshot of its catalog, and none of another's. -/
theorem serves_call (sound : session.Sound duckdb.libraries)
    (serves : session.Serves duckdb.libraries oid attachment snapshot) (other : Nat)
    (op : CatalogCall) (sent : List Request) :
    (after ((Command.call other op).run duckdb session)).Serves duckdb.libraries oid attachment
      (modelTrace (Holdings.step attachment) ⟨snapshot, sent⟩
        ((Command.call other op).ops oid)).2.snapshot := by
  by_cases same : other = oid
  · subst same
    obtain ⟨ending, following, requests, sends, ran⟩ := call_of_serves serves op
    rw [ran, after_finish, Command.ops, if_pos rfl, modelTrace, sends.steps sent]
    have remote : following.remote = snapshot.remote := by
      have kept := @Holdings.step_remote attachment ⟨snapshot, sent⟩ op.1 op.2
      rwa [sends.steps sent] at kept
    have coherent : following.Coherent := by
      have kept := @coherent_step attachment ⟨snapshot, sent⟩ serves.coherent op.1
      rwa [sends.steps sent] at kept
    refine ⟨serves.libraries, ?_, rfl, coherent⟩
    show (session.databases.update other _).find other = _
    rw [FoldedMap.find_update, if_pos rfl, serves.found]
    rfl
  · rw [Command.ops, if_neg same]
    rcases attached_or_absent session other with ⟨catalog, clears, found⟩ | absent
    · obtain ⟨otherSnapshot, otherServes⟩ := sound.served other catalog clears found
      obtain ⟨ending, following, requests, sends, ran⟩ := call_of_serves otherServes op
      rw [ran, after_finish]
      refine serves_withPart serves same ?_
      have kept := @Holdings.step_remote (catalog.attachment duckdb.libraries)
        ⟨otherSnapshot, sent⟩ op.1 op.2
      rw [sends.steps sent] at kept
      exact kept.trans otherServes.remote
    · rw [Command.run, onCatalog_of_absent absent]
      exact serves

/-- A scan leaves the server. -/
theorem remote_scanTable {schema : SchemaHandle} {table : Text} :
    (after ((Command.scanTable oid schema table).run duckdb session)).world.remote =
      session.world.remote := by
  rw [after_scanTable]
  cases session.tableEntry oid schema table with
  | none => rfl
  | some found =>
    obtain ⟨catalog, entry⟩ := found
    show (after
      (getScanFunction duckdb.toScanLibraries entry catalog.credentials _)).world.remote = _
    rcases @scanLeaves_getScanFunction _ _ duckdb.toScanLibraries entry catalog.credentials
      session.scanPart with untouched | ⟨_, _, leaves⟩
    · rw [untouched]
      rfl
    · rw [leaves.world, World.logged_remote]
      rfl

/-- One command is for a catalog one step of its snapshot, or none. -/
theorem serves_step (sound : session.Sound duckdb.libraries)
    (serves : session.Serves duckdb.libraries oid attachment snapshot) (command : Command)
    (stays : command ≠ .detach oid) (sent : List Request) :
    (after (command.run duckdb session)).Serves duckdb.libraries oid attachment
      (modelTrace (Holdings.step attachment) ⟨snapshot, sent⟩ (command.ops oid)).2.snapshot := by
  have adding (database : Database) : (session.adding database).Serves duckdb.libraries oid
      attachment snapshot := by
    refine serves.congr ?_ rfl
    show (session.databases.insert _ _).find oid = _
    rw [FoldedMap.find_insert, serves.found]
    rfl
  have cleared : (after (clearUCCaches session)).Serves duckdb.libraries oid attachment
      (snapshot.cleared attachment) := by
    refine ⟨serves.libraries, ?_, serves.remote,
      @coherent_step attachment ⟨snapshot, sent⟩ serves.coherent .clearCache⟩
    show (session.databases.mapValues _).find oid = _
    rw [FoldedMap.find_mapValues, serves.found]
    rfl
  have named (names : command.NamesSecret) :
      (after (command.run duckdb session)).Serves duckdb.libraries oid attachment snapshot := by
    obtain ⟨secrets, left⟩ := @after_namesSecret _ _ duckdb session command names
    rw [left]
    exact serves.congr rfl rfl
  cases command with
  | createSecret | dropSecret | otherSecret => exact named trivial
  | attach name info =>
    show (after ((Command.attach name info).run duckdb session)).Serves _ _ _ snapshot
    rw [Command.run, bind_of_ok _ (run_get session)]
    cases made :
        ucCatalogAttach duckdb.rTrim (duckdb.getSecretByName session.secrets) name info with
    | error fault =>
      rw [bind_of_error _ (run_lift _ _)]
      exact serves
    | ok catalog =>
      rw [bind_of_ok _ (run_lift _ _)]
      exact adding _
  | attachOther catalogType => exact adding _
  | detach other =>
    have differ : oid ≠ other := fun same => stays (congrArg _ same.symm)
    refine serves.congr ?_ rfl
    show (session.databases.erase other).find oid = _
    rw [FoldedMap.find_erase]
    exact if_neg differ
  | call other op => exact serves_call sound serves other op sent
  | scanTable other schema table =>
    refine serves.congr ?_ remote_scanTable
    rw [after_scanTable]
    cases session.tableEntry other schema table <;> rfl
  | clearCacheOnSetting => exact cleared
  | clearCacheFunction pulls =>
    cases pulls with
    | zero => exact serves
    | succ pulls =>
      rw [Command.run, bind_of_ok _ (pullClearCache_succ pulls)]
      exact cleared
  | serverChange remote =>
    exact ⟨serves.libraries, serves.found, rfl,
      @coherent_step attachment ⟨snapshot, sent⟩ serves.coherent (.serverChange remote)⟩

/-! ### The invariant is kept -/

/-- What a command leaves attached was attached before it, apart from one new database. -/
structure LeavesAttached (session next : Session Secrets) (command : Command) : Prop where
  number : next.nextOid = session.nextOid
  before : ∀ oid database, next.databases.find oid = some database → command ≠ .detach oid ∧
    ∃ old, session.databases.find oid = some old ∧ old.getCatalogType = database.getCatalogType

theorem LeavesAttached.same {command : Command} (keeps : ∀ oid, command ≠ .detach oid)
    (number : next.nextOid = session.nextOid) (databases : next.databases = session.databases) :
    LeavesAttached session next command :=
  ⟨number, fun oid database found => ⟨keeps oid, database, databases ▸ found, rfl⟩⟩

theorem leavesAttached_clear {command : Command} (keeps : ∀ oid, command ≠ .detach oid) :
    LeavesAttached session (after (clearUCCaches session)) command := by
  refine ⟨rfl, fun oid database found => ⟨keeps oid, ?_⟩⟩
  have mapped : (session.databases.find oid).map _ = some database :=
    (FoldedMap.find_mapValues ..).symm.trans found
  obtain ⟨old, here, rfl⟩ := Option.map_eq_some_iff.mp mapped
  refine ⟨old, here, ?_⟩
  cases old with
  | uc | other => unfold Database.clearUCCache; split <;> rfl

/-- A command attaches one database or leaves attached what was. -/
theorem databases_step (command : Command) :
    (∃ database, after (command.run duckdb session) = session.adding database ∧
      (∀ oid, command ≠ .detach oid) ∧
      ∀ catalog clears, database = .uc catalog clears → clears = 0 ∧
        ∃ name info, command = .attach name info ∧
          ucCatalogAttach duckdb.rTrim (duckdb.getSecretByName session.secrets) name info =
            .ok catalog) ∨
    LeavesAttached session (after (command.run duckdb session)) command := by
  have named (names : command.NamesSecret) (keeps : ∀ oid, command ≠ .detach oid) :
      LeavesAttached session (after (command.run duckdb session)) command := by
    obtain ⟨secrets, left⟩ := @after_namesSecret _ _ duckdb session command names
    rw [left]
    exact .same keeps rfl rfl
  cases command with
  | createSecret | dropSecret | otherSecret => exact Or.inr (named trivial (by simp))
  | attach name info =>
    rw [Command.run, bind_of_ok _ (run_get session)]
    cases made :
        ucCatalogAttach duckdb.rTrim (duckdb.getSecretByName session.secrets) name info with
    | error fault =>
      rw [bind_of_error _ (run_lift _ _)]
      exact Or.inr (.same (by simp) rfl rfl)
    | ok catalog =>
      rw [bind_of_ok _ (run_lift _ _)]
      refine Or.inl ⟨.uc catalog 0, rfl, by simp, fun other clears same => ?_⟩
      cases same
      exact ⟨rfl, name, info, rfl, made⟩
  | attachOther catalogType => exact Or.inl ⟨.other catalogType, rfl, by simp, by simp⟩
  | detach other =>
    refine Or.inr ⟨rfl, fun oid database found => ?_⟩
    have kept : (if oid = other then none else session.databases.find oid) = some database :=
      (FoldedMap.find_erase ..).symm.trans found
    split at kept
    · cases kept
    · exact ⟨fun same => ‹¬ oid = other› (Command.detach.inj same).symm, database, kept, rfl⟩
  | call other op =>
    refine Or.inr ?_
    rcases attached_or_absent session other with ⟨catalog, clears, found⟩ | absent
    · rw [Command.run, onCatalog, bind_of_ok _ (run_get session), found]
      simp only [after_zoom_bind]
      refine ⟨rfl, fun oid database here => ⟨by simp, ?_⟩⟩
      have updated : (if oid = other then (session.databases.find oid).map _
          else session.databases.find oid) = some database :=
        (FoldedMap.find_update ..).symm.trans here
      split at updated
      · obtain ⟨before, there, rfl⟩ := Option.map_eq_some_iff.mp updated
        subst ‹oid = other›
        cases there.symm.trans found
        exact ⟨_, found, rfl⟩
      · exact ⟨database, updated, rfl⟩
    · rw [Command.run, onCatalog_of_absent absent]
      exact .same (by simp) rfl rfl
  | scanTable other schema table =>
    rw [after_scanTable]
    cases session.tableEntry other schema table with
    | none | some => exact Or.inr (.same (by simp) rfl rfl)
  | clearCacheOnSetting => exact Or.inr (leavesAttached_clear (by simp))
  | clearCacheFunction pulls =>
    cases pulls with
    | zero => exact Or.inr (.same (by simp) rfl rfl)
    | succ pulls =>
      rw [Command.run, bind_of_ok _ (pullClearCache_succ pulls)]
      exact Or.inr (leavesAttached_clear (by simp))
  | serverChange remote => exact Or.inr (.same (by simp) rfl rfl)

theorem find_adding (session : Session Secrets) (database : Database) (oid : Nat) :
    (session.adding database).databases.find oid =
      (session.databases.find oid).or (if session.nextOid = oid then some database else none) :=
  FoldedMap.find_insert ..

/-- A catalog that is attached after a command was so before, or is the one it attaches. -/
theorem catalog_step {catalog : Catalog} {clears : Nat} (command : Command)
    (found : (after (command.run duckdb session)).databases.find oid =
      some (.uc catalog clears)) :
    (command ≠ .detach oid ∧ ∃ old clearsBefore,
      session.databases.find oid = some (.uc old clearsBefore)) ∨
    clears = 0 ∧ ∃ name info, command = .attach name info ∧
      ucCatalogAttach duckdb.rTrim (duckdb.getSecretByName session.secrets) name info =
        .ok catalog := by
  rcases @databases_step _ _ duckdb session command with
    ⟨database, added, keeps, ofAttach⟩ | leaves
  · rw [added, find_adding] at found
    cases before : session.databases.find oid with
    | none =>
      rw [before, Option.none_or] at found
      split at found
      · exact Or.inr (ofAttach _ _ (Option.some.inj found))
      · exact nomatch found
    | some old =>
      rw [before] at found
      cases found
      exact Or.inl ⟨keeps oid, _, _, rfl⟩
  · obtain ⟨stays, old, before, kind⟩ := leaves.before oid _ found
    cases old with
    | other catalogType => exact absurd kind catalogType.2
    | uc old clearsBefore => exact Or.inl ⟨stays, old, clearsBefore, before⟩

theorem serves_attached {libraries : Libraries} {name path : Text} {credentials : Credentials}
    (found : session.databases.find oid = some (.uc (attach name path credentials) 0)) :
    session.Serves libraries oid ⟨libraries, name, path, credentials⟩ (.new session.world) :=
  ⟨rfl, found, rfl, coherent_new session.world⟩

theorem sound_start (libraries : Libraries) (world : World) (secrets : Secrets) :
    (Session.start world secrets).Sound libraries :=
  ⟨fun _ _ => rfl, nofun⟩

/-- A catalog that stays attached goes on with its snapshot, and with what it was attached with. -/
theorem catalog_goes_on (sound : session.Sound duckdb.libraries) {command : Command}
    (stays : command ≠ .detach oid) {catalog later : Catalog} {clears clearsLater : Nat}
    (before : session.databases.find oid = some (.uc catalog clears))
    (found : (after (command.run duckdb session)).databases.find oid =
      some (.uc later clearsLater)) :
    later.attachment duckdb.libraries = catalog.attachment duckdb.libraries ∧
      ∃ snapshot, (after (command.run duckdb session)).Serves duckdb.libraries oid
        (later.attachment duckdb.libraries) snapshot := by
  obtain ⟨snapshot, serves⟩ := sound.served oid catalog clears before
  have following := serves_step sound serves command stays []
  cases found.symm.trans following.found
  exact ⟨rfl, _, following⟩

theorem sound_step (sound : session.Sound duckdb.libraries) (command : Command) :
    (after (command.run duckdb session)).Sound duckdb.libraries := by
  constructor
  · intro oid fresh
    rcases @databases_step _ _ duckdb session command with ⟨database, added, _⟩ | leaves
    · rw [added] at fresh ⊢
      have beyond : session.nextOid < oid := fresh
      rw [find_adding, sound.fresh oid (Nat.le_of_lt beyond), if_neg (Nat.ne_of_lt beyond)]
      rfl
    · rw [leaves.number] at fresh
      by_contra here
      obtain ⟨database, found⟩ := Option.ne_none_iff_exists'.mp here
      obtain ⟨_, old, before, _⟩ := leaves.before oid database found
      exact nomatch before.symm.trans (sound.fresh oid fresh)
  · intro oid later clearsLater found
    rcases catalog_step command found with ⟨stays, old, clears, before⟩ | ⟨rfl, name, info, _, made⟩
    · exact (catalog_goes_on sound stays before found).2
    · obtain ⟨credentials, rfl, _⟩ := ucCatalogAttach_eq_ok made
      exact ⟨_, serves_attached found⟩

theorem sound_after (sound : session.Sound duckdb.libraries) (commands : List Command) :
    (session.after duckdb commands).Sound duckdb.libraries := by
  induction commands generalizing session with
  | nil => exact sound
  | cons command commands inductionHypothesis =>
    exact inductionHypothesis (sound_step sound command)

/-! ### Isolation -/

/-- A row of commands is for a catalog the row of what they have it do. -/
theorem serves_after (sound : session.Sound duckdb.libraries)
    (serves : session.Serves duckdb.libraries oid attachment snapshot)
    (commands : List Command) (stays : ∀ command ∈ commands, command ≠ .detach oid)
    (sent : List Request) :
    (session.after duckdb commands).Serves duckdb.libraries oid attachment
      (modelTrace (Holdings.step attachment) ⟨snapshot, sent⟩
        (commands.flatMap (Command.ops oid))).2.snapshot := by
  induction commands generalizing session snapshot sent with
  | nil => exact serves
  | cons command commands inductionHypothesis =>
    have first := serves_step sound serves command (stays command List.mem_cons_self) sent
    rw [List.flatMap_cons, modelTrace_append]
    exact inductionHypothesis (sound_step sound command) first
      (fun other member => stays other (List.mem_cons_of_mem _ member)) _

/-- A catalog alone, after the rows of operations that commands have it do. -/
def Session.alone (duckdb : SessionLibraries Secrets BindData) (session : Session Secrets)
    (oid : Nat) (catalog : Catalog) (clears : Nat) (commands : List Command) : CatalogState :=
  (trace (Op.run duckdb.libraries) (session.part catalog clears)
    (commands.flatMap (Command.ops oid))).2

/-- While a catalog is attached, it holds what it would hold alone, and every call of it ends as it
would alone, whatever other catalogs do. -/
theorem catalogs_isolated (duckdb : SessionLibraries Secrets BindData) (world : World)
    (secrets : Secrets) (earlier later : List Command) (oid : Nat)
    (catalog : Catalog) (clears : Nat)
    (attached : ((Session.start world secrets).after duckdb
      earlier).databases.find oid = some (.uc catalog clears))
    (stays : ∀ command ∈ later, command ≠ .detach oid) :
    let before := (Session.start world secrets).after duckdb earlier
    let alone := before.alone duckdb oid catalog clears later
    (before.after duckdb later).databases.find oid = some (.uc alone.catalog alone.clears) ∧
      ∀ op : CatalogCall,
        outcome ((Command.call oid op).run duckdb (before.after duckdb later)) =
          (outcome (op.1.run duckdb.libraries alone)).map .result := by
  intro before alone
  have sound : before.Sound duckdb.libraries := sound_after (sound_start ..) earlier
  obtain ⟨snapshot, serves⟩ := sound.served oid catalog clears attached
  let holdings : Holdings := ⟨snapshot, before.world.sent⟩
  have coherent : holdings.snapshot.Coherent := serves.coherent
  have part : before.part catalog clears =
      holdings.state (catalog.attachment duckdb.libraries) := by
    obtain ⟨sameCatalog, sameClears⟩ :=
      Database.uc.inj (Option.some.inj (attached.symm.trans serves.found))
    rw [← serves.part]
    exact congrArg₂ before.part sameCatalog sameClears
  have ran := (simulates_holdings (catalog.attachment duckdb.libraries)).trace
    (later.flatMap (Command.ops oid)) coherent
  have alone_eq : alone = (modelTrace (Holdings.step (catalog.attachment duckdb.libraries))
      holdings (later.flatMap (Command.ops oid))).2.state
        (catalog.attachment duckdb.libraries) := by
    show (trace _ (before.part catalog clears) _).2 = _
    rw [part]
    exact congrArg Prod.snd ran.1
  have following := serves_after sound serves later stays before.world.sent
  refine ⟨?_, fun op => ?_⟩
  · rw [alone_eq]
    exact following.found
  · rw [alone_eq]
    exact call_alone following op _

end Session

/-- A session with two catalogs of the same server. -/
def twoCatalogs : Session MappedSecrets :=
  (Session.start ⟨fun _ => .body oneTableBody, []⟩ (.empty foldedName KeyValueSecret)).after
    (mappedLibraries oneTableLibraries)
    [.attach "a".toList ⟨"a".toList, []⟩, .attach "b".toList ⟨"b".toList, []⟩]

theorem catalogs_isolated_twoCatalogs :
    let commands : List Command := [.call 1 ⟨.scanSchemas, trivial⟩, .detach 1,
      .call 0 ⟨.scanSchemas, trivial⟩]
    let alone := twoCatalogs.alone (mappedLibraries oneTableLibraries) 0
      (attach "a".toList "a".toList ⟨[], [], []⟩) 0 commands
    (twoCatalogs.after (mappedLibraries oneTableLibraries) commands).databases.find 0 =
      some (.uc alone.catalog alone.clears) := by
  intro commands alone
  have stays : ∀ command ∈ commands, command ≠ .detach 0 := by
    intro command member
    simp only [commands, List.mem_cons, List.not_mem_nil, or_false] at member
    rcases member with rfl | rfl | rfl <;> simp
  exact (catalogs_isolated (mappedLibraries oneTableLibraries) ⟨fun _ => .body oneTableBody, []⟩
    (.empty foldedName KeyValueSecret)
    [.attach "a".toList ⟨"a".toList, []⟩, .attach "b".toList ⟨"b".toList, []⟩] commands 0 _ 0 rfl
    stays).1

end UcCatalog
