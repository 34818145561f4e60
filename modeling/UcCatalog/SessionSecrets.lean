/-
This file says which secrets a session has by name, from the commands given in it. A
command sets the secret of one name in one storage, or none. Besides `CREATE SECRET`
and what drops or registers a secret, a scan does so: it puts what the server has
granted for the table under a name of its own into the memory, where an `ATTACH` finds
it like any other secret.

So a secret that is found is the latest one of its name, in any case, and every one
that was not there at the start has been made by one of these commands. An `ATTACH`
that finds none where it has to leaves the session as it was.
-/

import UcCatalog.SessionCatalogs

namespace UcCatalog

open Stateful

variable {Secrets BindData : Type}

/-! ### What sets a secret -/

section Sets

variable (duckdb : SessionLibraries Secrets BindData) (session : Session Secrets)

/-- A scan of the table, which is one of the catalog, is granted credentials and installs them. -/
structure Session.Installs (oid : Nat) (schema : SchemaHandle) (table : Text) (catalog : Catalog)
    (data : APITable) (given : APITableCredentials) : Prop where
  scanned : ∃ entry, session.tableEntry oid schema table = some (catalog, entry) ∧
    RemoteDelta duckdb.toScanLibraries entry data
  grants : Grants duckdb.toScanLibraries session.world data.tableId catalog.credentials given
  created : ∃ next, duckdb.manager.createSecret session.secrets
    (tableSecret data given catalog.credentials) = .ok next

/-- A command in a session sets the secret of a name in a storage, to another one or to none. -/
inductive Session.Sets : Command → Text → Text → Option KeyValueSecret → Prop
  | createSecret (onConflict : OnCreateConflict) (storage name : Text)
      (options : FoldedMap lower Value) (secret : KeyValueSecret)
      (created : createUCSecretFunction name options = .ok secret)
      (stores : duckdb.Stores session.secrets onConflict storage secret) :
      Sets (.createSecret onConflict storage name options) storage name (some secret)
  | otherSecret (onConflict : OnCreateConflict) (storage : Text) (secret : KeyValueSecret)
      (stores : duckdb.Stores session.secrets onConflict storage secret) :
      Sets (.otherSecret onConflict storage secret) storage secret.name (some secret)
  | dropSecret (ifNotFound : OnEntryNotFound) (storage name : Text)
      (dropped : ∃ next, duckdb.dropSecretByName session.secrets ifNotFound storage name =
        .ok next) :
      Sets (.dropSecret ifNotFound storage name) storage name none
  | scanTable (oid : Nat) (schema : SchemaHandle) (table : Text) (catalog : Catalog)
      (data : APITable) (given : APITableCredentials) (secret : KeyValueSecret)
      (installs : session.Installs duckdb oid schema table catalog data given)
      (made : secret.MadeFrom (tableSecret data given catalog.credentials)) :
      Sets (.scanTable oid schema table) "memory".toList ("__internal_uc_".toList ++ data.tableId)
        (some secret)

/-- A command sets the secret that is found under a name in a storage. -/
def Session.SetsUnder (command : Command) (storage name : Text)
    (value : Option KeyValueSecret) : Prop :=
  ∃ setStorage setName, session.Sets duckdb command setStorage setName value ∧
    lower storage = lower setStorage ∧ lower name = lower setName

/-- What a command does to the secrets: it sets one, or leaves them and sets none. -/
inductive Session.SetsOneOrNone (command : Command) (next : Session Secrets) : Prop
  | one (storage name : Text) (value : Option KeyValueSecret)
      (sets : session.Sets duckdb command storage name value)
      (only : ∀ other otherName otherValue, session.Sets duckdb command other otherName otherValue →
        other = storage ∧ otherName = name)
      (found : duckdb.getSecretByName next.secrets =
        putSecret (duckdb.getSecretByName session.secrets) storage name value)
  | none (sets : ∀ storage name value, ¬ session.Sets duckdb command storage name value)
      (found : duckdb.getSecretByName next.secrets = duckdb.getSecretByName session.secrets)

end Sets

section Session

variable {duckdb : SessionLibraries Secrets BindData} {session : Session Secrets}

/-! ### One command -/

theorem createUCSecretFunction_name {name : Text} {options : FoldedMap lower Value}
    {secret : KeyValueSecret} (created : createUCSecretFunction name options = .ok secret) :
    secret.name = name := by
  obtain ⟨secretMap, _, made⟩ := (Outcome.bind_eq_ok _ _ _).mp created
  cases made
  rfl

/-- What is found by name after a secret is registered, or refused. -/
theorem getSecretByName_register (documented : duckdb.Documented) (onConflict : OnCreateConflict)
    (storage : Text) (secret : KeyValueSecret) :
    let after := after ((setSecrets (fun secrets =>
      duckdb.registerSecret secrets onConflict storage secret) >>= fun _ =>
        pure (.done : Reply BindData)) session)
    (duckdb.Stores session.secrets onConflict storage secret →
      duckdb.getSecretByName after.secrets =
        putSecret (duckdb.getSecretByName session.secrets) storage secret.name (some secret)) ∧
    (¬ duckdb.Stores session.secrets onConflict storage secret →
      duckdb.getSecretByName after.secrets = duckdb.getSecretByName session.secrets) := by
  intro after
  have left : after = _ := after_setSecrets _
  rw [left]
  cases registered : duckdb.registerSecret session.secrets onConflict storage secret with
  | ok next => exact documented.registers _ _ _ _ _ registered
  | error exception =>
    refine ⟨fun stores => ?_, fun _ => rfl⟩
    obtain ⟨next, stored⟩ := stores.1
    exact nomatch registered.symm.trans stored

theorem setsOneOrNone_createSecret (documented : duckdb.Documented) (onConflict : OnCreateConflict)
    (storage name : Text) (options : FoldedMap lower Value) :
    session.SetsOneOrNone duckdb (.createSecret onConflict storage name options)
      (after ((Command.createSecret onConflict storage name options).run duckdb session)) := by
  rw [Command.run]
  cases created : createUCSecretFunction name options with
  | error fault =>
    rw [bind_of_error _ (run_lift _ _)]
    refine .none (fun _ _ _ sets => ?_) rfl
    cases sets with
    | createSecret _ _ _ _ secret made => cases created.symm.trans made
  | ok secret =>
    rw [bind_of_ok _ (run_lift _ _)]
    have registered := @getSecretByName_register _ _ duckdb session documented onConflict storage
      secret
    by_cases stores : duckdb.Stores session.secrets onConflict storage secret
    · refine .one storage name (some secret) (.createSecret _ _ _ _ _ created stores) ?_ ?_
      · rintro _ _ _ ⟨⟩
        exact ⟨rfl, rfl⟩
      · rw [← createUCSecretFunction_name created]
        exact registered.1 stores
    · refine .none (fun _ _ _ sets => ?_) (registered.2 stores)
      cases sets with
      | createSecret _ _ _ _ other made storesOther =>
        cases created.symm.trans made
        exact stores storesOther

theorem setsOneOrNone_otherSecret (documented : duckdb.Documented) (onConflict : OnCreateConflict)
    (storage : Text) (secret : KeyValueSecret) :
    session.SetsOneOrNone duckdb (.otherSecret onConflict storage secret)
      (after ((Command.otherSecret onConflict storage secret).run duckdb session)) := by
  have registered := @getSecretByName_register _ _ duckdb session documented onConflict storage
    secret
  by_cases stores : duckdb.Stores session.secrets onConflict storage secret
  · refine .one storage secret.name (some secret) (.otherSecret _ _ _ stores) ?_
      (registered.1 stores)
    rintro _ _ _ ⟨⟩
    exact ⟨rfl, rfl⟩
  · refine .none (fun _ _ _ sets => ?_) (registered.2 stores)
    cases sets with
    | otherSecret _ _ _ storesOther => exact stores storesOther

theorem setsOneOrNone_dropSecret (documented : duckdb.Documented) (ifNotFound : OnEntryNotFound)
    (storage name : Text) :
    session.SetsOneOrNone duckdb (.dropSecret ifNotFound storage name)
      (after ((Command.dropSecret ifNotFound storage name).run duckdb session)) := by
  have left : after ((Command.dropSecret ifNotFound storage name).run duckdb session) = _ :=
    after_setSecrets _
  rw [left]
  cases dropped : duckdb.dropSecretByName session.secrets ifNotFound storage name with
  | ok next =>
    refine .one storage name none (.dropSecret _ _ _ ⟨next, dropped⟩) ?_
      (documented.drops _ _ _ _ _ dropped)
    rintro _ _ _ ⟨⟩
    exact ⟨rfl, rfl⟩
  | error exception =>
    refine .none (fun _ _ _ sets => ?_) rfl
    cases sets with
    | dropSecret _ _ _ returned =>
      obtain ⟨next, returned⟩ := returned
      exact nomatch dropped.symm.trans returned

/-- A scan that installs leaves the secrets as they are with its secret created. -/
theorem secrets_of_installs {oid : Nat} {schema : SchemaHandle} {table : Text} {catalog : Catalog}
    {data : APITable} {given : APITableCredentials}
    (installs : session.Installs duckdb oid schema table catalog data given) :
    duckdb.manager.createSecret session.secrets (tableSecret data given catalog.credentials) =
      .ok (after ((Command.scanTable oid schema table).run duckdb session)).secrets := by
  obtain ⟨entry, cached, remote⟩ := installs.scanned
  obtain ⟨next, created⟩ := installs.created
  have createdIn : duckdb.manager.createSecret session.scanPart.secrets
      (tableSecret data given catalog.credentials) = .ok next := created
  rw [after_scanTable, cached, created]
  exact congrArg Except.ok (after_getScanFunction remote.delta remote.present remote.format
    remote.distant installs.grants createdIn).symm

/-- What one scan installs is of one table and one grant. -/
theorem installs_unique {oid : Nat} {schema : SchemaHandle} {table : Text}
    {catalog otherCatalog : Catalog} {data otherData : APITable}
    {given otherGiven : APITableCredentials}
    (installs : session.Installs duckdb oid schema table catalog data given)
    (other : session.Installs duckdb oid schema table otherCatalog otherData otherGiven) :
    otherData = data := by
  obtain ⟨entry, cached, remote⟩ := installs.scanned
  obtain ⟨otherEntry, otherCached, otherRemote⟩ := other.scanned
  cases otherCached.symm.trans cached
  exact Option.some.inj (otherRemote.present.symm.trans remote.present)

theorem setsOneOrNone_scanTable (documented : duckdb.Documented) (oid : Nat)
    (schema : SchemaHandle) (table : Text) :
    session.SetsOneOrNone duckdb (.scanTable oid schema table)
      (after ((Command.scanTable oid schema table).run duckdb session)) := by
  by_cases installs : ∃ catalog data given,
      session.Installs duckdb oid schema table catalog data given
  · obtain ⟨catalog, data, given, installs⟩ := installs
    obtain ⟨secret, made, found⟩ := documented.creates _ _ _ _ _ (secrets_of_installs installs)
    refine .one _ _ _ (.scanTable _ _ _ _ _ _ _ installs made) ?_ found
    intro _ _ _ sets
    cases sets with
    | scanTable _ _ _ _ _ _ _ other => exact ⟨rfl, by rw [installs_unique installs other]⟩
  · refine .none (fun _ _ _ sets => ?_) (congrArg duckdb.getSecretByName ?_)
    · cases sets with
      | scanTable _ _ _ catalog data given _ other => exact installs ⟨catalog, data, given, other⟩
    · rw [after_scanTable]
      cases cached : session.tableEntry oid schema table with
      | none => rfl
      | some found =>
        obtain ⟨catalog, entry⟩ := found
        show (after (getScanFunction duckdb.toScanLibraries entry catalog.credentials
          session.scanPart)).secrets = session.secrets
        rcases @scanLeaves_getScanFunction _ _ duckdb.toScanLibraries entry catalog.credentials
          session.scanPart with untouched | ⟨data, remote, leaves⟩
        · rw [untouched]
          rfl
        · rcases leaves.secrets with same | ⟨given, grants, created⟩
          · exact same
          · exact absurd ⟨catalog, data, given, ⟨entry, cached, remote⟩, grants, _, created⟩
              installs

/-- The commands that can set a secret, of whichever type. -/
def Command.SetsSecrets : Command → Prop
  | .createSecret _ _ _ _ | .dropSecret _ _ _ | .otherSecret _ _ _ | .scanTable _ _ _ => True
  | _ => False

/-- Every other command leaves the secrets. -/
theorem frame_step {command : Command} (others : ¬ command.SetsSecrets) :
    (after (command.run duckdb session)).secrets = session.secrets := by
  cases command with
  | createSecret | dropSecret | otherSecret | scanTable => exact absurd trivial others
  | attach name info =>
    rw [Command.run, bind_of_ok _ (run_get session)]
    cases ucCatalogAttach duckdb.rTrim (duckdb.getSecretByName session.secrets) name info <;> rfl
  | call oid op =>
    rw [Command.run, onCatalog, bind_of_ok _ (run_get session)]
    cases session.databases.find oid with
    | none => rfl
    | some database =>
      cases database with
      | other catalogType => rfl
      | uc catalog clears =>
        simp only [after_zoom_bind]
        rfl
  | clearCacheFunction pulls =>
    cases pulls with
    | zero => rfl
    | succ pulls =>
      rw [Command.run, bind_of_ok _ (pullClearCache_succ pulls)]
      rfl
  | attachOther | detach | clearCacheOnSetting | serverChange => rfl

theorem setsOneOrNone_step (documented : duckdb.Documented) (command : Command) :
    session.SetsOneOrNone duckdb command (after (command.run duckdb session)) := by
  by_cases sets : command.SetsSecrets
  · cases command with
    | createSecret onConflict storage name options =>
      exact setsOneOrNone_createSecret documented onConflict storage name options
    | dropSecret ifNotFound storage name =>
      exact setsOneOrNone_dropSecret documented ifNotFound storage name
    | otherSecret onConflict storage secret =>
      exact setsOneOrNone_otherSecret documented onConflict storage secret
    | scanTable oid schema table => exact setsOneOrNone_scanTable documented oid schema table
    | _ => exact absurd sets id
  · refine .none (fun _ _ _ set => ?_) (congrArg duckdb.getSecretByName (frame_step sets))
    cases set <;> exact sets trivial

/-- Under a name a command sets a secret, which is found then, or leaves the one that was found. -/
theorem found_step (documented : duckdb.Documented) (command : Command) (storage name : Text) :
    session.SetsUnder duckdb command storage name
        (duckdb.getSecretByName (after (command.run duckdb session)).secrets name storage) ∨
      (∀ value, ¬ session.SetsUnder duckdb command storage name value) ∧
        duckdb.getSecretByName (after (command.run duckdb session)).secrets name storage =
          duckdb.getSecretByName session.secrets name storage := by
  have step : session.SetsOneOrNone duckdb command (after (command.run duckdb session)) :=
    setsOneOrNone_step documented command
  cases step with
  | one setStorage setName value sets only found =>
    rw [found]
    unfold putSecret
    split_ifs with here
    · exact Or.inl ⟨setStorage, setName, sets, here.2, here.1⟩
    · refine Or.inr ⟨?_, rfl⟩
      rintro otherValue ⟨other, otherName, set, sameStorage, sameName⟩
      obtain ⟨rfl, rfl⟩ := only _ _ _ set
      exact here ⟨sameName, sameStorage⟩
  | none sets found =>
    rw [found]
    exact Or.inr ⟨fun value ⟨other, otherName, set, _⟩ => sets _ _ _ set, rfl⟩

/-! ### Runs -/

theorem Session.after_append (duckdb : SessionLibraries Secrets BindData)
    (session : Session Secrets) (earlier later : List Command) :
    session.after duckdb (earlier ++ later) =
      (session.after duckdb earlier).after duckdb later := by
  induction earlier generalizing session with
  | nil => rfl
  | cons command earlier inductionHypothesis => exact inductionHypothesis _

/-- The latest secret of a name in a storage: the one the last command about it has set, or the
one that was there at the start. -/
inductive Latest (duckdb : SessionLibraries Secrets BindData) (start : Session Secrets)
    (storage name : Text) : List Command → Option KeyValueSecret → Prop
  | start : Latest duckdb start storage name [] (duckdb.getSecretByName start.secrets name storage)
  | set (earlier : List Command) (command : Command) (value : Option KeyValueSecret)
      (sets : (start.after duckdb earlier).SetsUnder duckdb command storage name value) :
      Latest duckdb start storage name (earlier ++ [command]) value
  | kept (earlier : List Command) (command : Command) (value : Option KeyValueSecret)
      (latest : Latest duckdb start storage name earlier value)
      (keeps : ∀ other,
        ¬ (start.after duckdb earlier).SetsUnder duckdb command storage name other) :
      Latest duckdb start storage name (earlier ++ [command]) value

/-- What is found by name in a session is the latest secret of the name. -/
theorem latest_found (documented : duckdb.Documented) (start : Session Secrets)
    (commands : List Command) (storage name : Text) :
    Latest duckdb start storage name commands
      (duckdb.getSecretByName (start.after duckdb commands).secrets name storage) := by
  induction commands using List.reverseRecOn with
  | nil => exact .start
  | append_singleton commands command inductionHypothesis =>
    rw [Session.after_append]
    rcases @found_step _ _ duckdb (start.after duckdb commands) documented command storage name with
      sets | ⟨keeps, same⟩
    · exact .set commands command _ sets
    · refine .kept commands command _ ?_ keeps
      exact same.symm ▸ inductionHypothesis

/-- An `ATTACH` reads the latest secret of its name, and attaches a new catalog with it or fails and
changes nothing. -/
theorem attach_reads_latest (documented : duckdb.Documented) (world : World) (secrets : Secrets)
    (commands : List Command) (name : Text) (info : AttachInfo) :
    let start := Session.start world secrets
    let session := start.after duckdb commands
    let read := duckdb.getSecretByName session.secrets
    let run := (Command.attach name info).run duckdb session
    (∀ secretName storage,
      Latest duckdb start storage secretName commands (read secretName storage)) ∧
    match info.credentials duckdb.rTrim read with
    | .ok credentials => run = .ok (.attached session.nextOid)
        (session.adding (.uc (attach name info.path credentials) 0)) ∧
      session.databases.find session.nextOid = none
    | .error fault => run = .error fault session := by
  intro start session read run
  have sound : session.Sound duckdb.libraries := sound_after (sound_start ..) commands
  refine ⟨fun secretName storage => latest_found documented start commands storage secretName, ?_⟩
  have made := ucCatalogAttach_eq duckdb.rTrim read name info
  cases ends : info.credentials duckdb.rTrim read with
  | ok credentials =>
    rw [ends] at made
    refine ⟨?_, sound.fresh _ (Nat.le_refl _)⟩
    show (Command.attach name info).run duckdb session = _
    rw [Command.run, bind_of_ok _ (run_get session), made]
    rfl
  | error fault =>
    rw [ends] at made
    show (Command.attach name info).run duckdb session = _
    rw [Command.run, bind_of_ok _ (run_get session), made]
    rfl

/-! ### Where secrets come from -/

/-- The secret of a table holds what was granted for it, for reads under its location. -/
structure KeyValueSecret.HoldsGrant (held : KeyValueSecret) (data : APITable)
    (given : APITableCredentials) (region : Text) : Prop where
  name : held.name = "__internal_uc_".toList ++ data.tableId
  type : held.type = "s3".toList
  scope : held.prefixPaths = [data.storageLocation]
  keyId : held.tryGetValue "key_id".toList = .text given.keyId
  secret : held.tryGetValue "secret".toList = .text given.secret
  sessionToken : held.tryGetValue "session_token".toList = .text given.sessionToken
  region : held.tryGetValue "region".toList = .text region

theorem KeyValueSecret.MadeFrom.holdsGrant {secret : KeyValueSecret} {data : APITable}
    {given : APITableCredentials} {credentials : Credentials}
    (made : secret.MadeFrom (tableSecret data given credentials)) :
    secret.HoldsGrant data given credentials.awsRegion where
  name := made.name
  type := made.type
  scope := made.prefixPaths
  keyId := made.options ("key_id".toList, given.keyId) (.head _)
  secret := made.options ("secret".toList, given.secret) (.tail _ (.head _))
  sessionToken := made.options ("session_token".toList, given.sessionToken)
    (.tail _ (.tail _ (.head _)))
  region := made.options ("region".toList, credentials.awsRegion)
    (.tail _ (.tail _ (.tail _ (.head _))))

/-- Where a secret of a session is from. -/
inductive SecretOrigin (duckdb : SessionLibraries Secrets BindData) (start : Session Secrets)
    (commands : List Command) (secret : KeyValueSecret) : Prop
  | start (storage name : Text)
      (found : duckdb.getSecretByName start.secrets name storage = some secret)
  | created (onConflict : OnCreateConflict) (storage name : Text)
      (options : FoldedMap lower Value)
      (member : .createSecret onConflict storage name options ∈ commands)
      (made : createUCSecretFunction name options = .ok secret)
  | registered (onConflict : OnCreateConflict) (storage : Text)
      (member : .otherSecret onConflict storage secret ∈ commands)
  | installed (earlier : List Command) (oid : Nat) (schema : SchemaHandle) (table : Text)
      (catalog : Catalog) (data : APITable) (given : APITableCredentials)
      (within : earlier ++ [.scanTable oid schema table] <+: commands)
      (installs : (start.after duckdb earlier).Installs duckdb oid schema table catalog data given)
      (holds : secret.HoldsGrant data given catalog.credentials.awsRegion)

theorem SecretOrigin.append {start : Session Secrets} {commands : List Command}
    {secret : KeyValueSecret} (origin : SecretOrigin duckdb start commands secret)
    (further : List Command) : SecretOrigin duckdb start (commands ++ further) secret := by
  cases origin with
  | start storage name found => exact .start storage name found
  | created onConflict storage name options member made =>
    exact .created onConflict storage name options (List.mem_append_left _ member) made
  | registered onConflict storage member =>
    exact .registered onConflict storage (List.mem_append_left _ member)
  | installed earlier oid schema table catalog data given within installs holds =>
    exact .installed earlier oid schema table catalog data given
      (within.trans (List.prefix_append _ _)) installs holds

/-- A secret that a command sets has its origin there. -/
theorem origin_of_sets {start : Session Secrets} {commands : List Command} {command : Command}
    {storage name : Text} {secret : KeyValueSecret}
    (sets : (start.after duckdb commands).Sets duckdb command storage name (some secret)) :
    SecretOrigin duckdb start (commands ++ [command]) secret := by
  cases sets with
  | createSecret onConflict _ _ options _ created =>
    exact .created onConflict storage name options (by simp) created
  | otherSecret onConflict _ _ _ => exact .registered onConflict storage (by simp)
  | scanTable oid schema table catalog data given _ installs made =>
    exact .installed commands oid schema table catalog data given List.prefix_rfl installs
      made.holdsGrant

/-- Every secret that is found by name was there at the start, was created or registered by a
command, or is one that a scan has installed and that holds what the server granted then. -/
theorem secrets_haveOrigin (documented : duckdb.Documented) (start : Session Secrets)
    (commands : List Command) (storage name : Text) (secret : KeyValueSecret)
    (found : duckdb.getSecretByName (start.after duckdb commands).secrets name storage =
      some secret) :
    SecretOrigin duckdb start commands secret := by
  have latest := latest_found documented start commands storage name
  rw [found] at latest
  clear found
  generalize same : some secret = value at latest
  induction latest with
  | start => exact .start storage name same.symm
  | set earlier command value sets =>
    subst same
    obtain ⟨_, _, sets, _⟩ := sets
    exact origin_of_sets sets
  | kept earlier command value latest keeps inductionHypothesis =>
    exact (inductionHypothesis same).append [command]

end Session

/-- A server whose every reply lists a delta table and grants credentials. -/
def deltaTableLibraries : Libraries where
  castUInt8 := castPlainNumeral
  addColumn columns column := .ok (columns ++ [column])
  yyjsonRead _ := some (.obj [
    ("schemas".toList, .arr [.obj [("name".toList, .str "s".toList)]]),
    ("tables".toList, .arr [.obj [("name".toList, .str "t".toList),
      ("table_type".toList, .str "EXTERNAL".toList), ("table_id".toList, .str "1".toList),
      ("data_source_format".toList, .str "DELTA".toList),
      ("storage_location".toList, .str "s3://b/t".toList), ("columns".toList, .arr [])]]),
    ("aws_temp_credentials".toList, .obj [("access_key_id".toList, .str "k".toList),
      ("secret_access_key".toList, .str "k".toList), ("session_token".toList, .str "k".toList)])])

def deltaTableStart : Session MappedSecrets :=
  .start ⟨fun _ => .body [], []⟩ (.empty foldedName KeyValueSecret)

def tokenOption : FoldedMap lower Value := ⟨[("TOKEN".toList, .text ['t'])], by decide⟩

/-- A secret is created, a catalog is attached with it, and its table is scanned. -/
def deltaTableCommands : List Command :=
  [.createSecret .errorOnConflict "memory".toList "mine".toList tokenOption,
    .attach "uc".toList ⟨"uc".toList, [("secret".toList, .text "MINE".toList)]⟩,
    .call 0 ⟨.scanSchemas, trivial⟩, .call 0 ⟨.scan ⟨0, "s".toList⟩ .tableEntry, trivial⟩,
    .scanTable 0 ⟨0, "s".toList⟩ "t".toList]

def deltaTableSession : Session MappedSecrets :=
  deltaTableStart.after (mappedLibraries deltaTableLibraries) deltaTableCommands

/-- The secret the scan has installed is found by name. -/
theorem exists_scannedSecret : ∃ secret,
    (mappedLibraries deltaTableLibraries).getSecretByName deltaTableSession.secrets
      "__INTERNAL_uc_1".toList "memory".toList = some secret := by
  refine Option.isSome_iff_exists.mp ?_
  decide +kernel

theorem secrets_haveOrigin_scanned : ∃ secret,
    (mappedLibraries deltaTableLibraries).getSecretByName deltaTableSession.secrets
      "__INTERNAL_uc_1".toList "memory".toList = some secret ∧
    SecretOrigin (mappedLibraries deltaTableLibraries) deltaTableStart deltaTableCommands
      secret := by
  obtain ⟨secret, found⟩ := exists_scannedSecret
  exact ⟨secret, found, secrets_haveOrigin (mappedLibraries_documented deltaTableLibraries)
    deltaTableStart deltaTableCommands _ _ secret found⟩

/-- An `ATTACH` with the secret of the scan. -/
def scannedSecretInfo : AttachInfo :=
  ⟨"uc".toList, [("secret".toList, .text "__INTERNAL_uc_1".toList)]⟩

theorem attach_reads_latest_scanned :
    (∃ secret, Latest (mappedLibraries deltaTableLibraries) deltaTableStart "memory".toList
      "__INTERNAL_uc_1".toList deltaTableCommands (some secret)) ∧
    ∃ credentials, (Command.attach "again".toList scannedSecretInfo).run
        (mappedLibraries deltaTableLibraries) deltaTableSession =
      .ok (.attached 1)
        (deltaTableSession.adding (.uc (attach "again".toList "uc".toList credentials) 0)) := by
  obtain ⟨latest, attached⟩ := attach_reads_latest (mappedLibraries_documented deltaTableLibraries)
    ⟨fun _ => .body [], []⟩ (.empty foldedName KeyValueSecret) deltaTableCommands "again".toList
    scannedSecretInfo
  constructor
  · obtain ⟨secret, found⟩ := exists_scannedSecret
    exact ⟨secret, found ▸ latest "__INTERNAL_uc_1".toList "memory".toList⟩
  · have returned : (scannedSecretInfo.credentials (mappedLibraries deltaTableLibraries).rTrim
        ((mappedLibraries deltaTableLibraries).getSecretByName
          deltaTableSession.secrets)).toOption.isSome = true := by decide +kernel
    have next : deltaTableSession.nextOid = 1 := by decide +kernel
    cases ends : scannedSecretInfo.credentials (mappedLibraries deltaTableLibraries).rTrim
        ((mappedLibraries deltaTableLibraries).getSecretByName deltaTableSession.secrets) with
    | error fault =>
      rw [ends] at returned
      exact absurd returned Bool.false_ne_true
    | ok credentials =>
      refine ⟨credentials, ?_⟩
      unfold deltaTableSession deltaTableStart at ends next ⊢
      rw [ends, next] at attached
      exact attached.1

end UcCatalog
