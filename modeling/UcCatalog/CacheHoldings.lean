/-
This file says what the two nested caches hold and answer when nothing is assumed
of the server or of the calls. `Holdings` is a snapshot whose listings may be cut
short: a listing is the entries its one attempt has created, and an attempt that
met a fault is not made again until the next clear. Beside it stands the log of
requests, which lacks those that curl had no handle for.

The caches are a function of the holdings, and every operation ends as the step of
the holdings does (`simulates_holdings`): with the default schema, the types a
schema has no set for, dangling pointers and failing replies among its cases.
-/

import UcCatalog.CacheRefinement
import UcCatalog.LoadAttempts

namespace UcCatalog

open Stateful

/-- A snapshot whose listings may be cut short, and the requests that were sent. -/
structure Holdings where
  snapshot : Snapshot
  sent : List Request

/-- The holdings of a catalog that has just been attached. -/
def Holdings.new (world : World) : Holdings := ⟨.new world, world.sent⟩

def Holdings.world (holdings : Holdings) : World := ⟨holdings.snapshot.remote, holdings.sent⟩

section Attachment

variable (attachment : Attachment) (holdings : Holdings)

/-! ### Accesses -/

/-- The entries the schemas are answered from. -/
def Holdings.schemaListing : List SchemaItem :=
  holdings.snapshot.schemas.getD
    ((attachment.schemaLoader.attempt holdings.snapshot.remote).created.map SchemaEntry.item)

/-- How an access to the schemas ends. -/
def Holdings.schemasEnding : Outcome PUnit :=
  if holdings.snapshot.schemas.isNone then
    (attachment.schemaLoader.attempt holdings.snapshot.remote).ending
  else .ok ⟨⟩

/-- The entries the tables of a schema are answered from. -/
def Holdings.tableListing (item : SchemaItem) : List TableEntry :=
  (attachment.tableLoader item).held holdings.snapshot.remote
    (holdings.snapshot.tables (lower item.name))

/-- How an access to the tables of a schema ends. -/
def Holdings.tablesEnding (item : SchemaItem) : Outcome PUnit :=
  (attachment.tableLoader item).accessEnding holdings.snapshot.remote
    (holdings.snapshot.tables (lower item.name))

/-- The holdings after an access to the schemas. -/
def Holdings.accessSchemas : Holdings where
  snapshot :=
    { holdings.snapshot.accessSchemas attachment with
      schemas := some (holdings.schemaListing attachment) }
  sent :=
    (holdings.world.tried (attachment.request .schemas) holdings.snapshot.schemas.isNone).sent

/-- The holdings after an access to the tables of a schema. -/
def Holdings.accessTables (item : SchemaItem) : Holdings where
  snapshot :=
    { holdings.snapshot.accessTables attachment item with
      tables := Function.update holdings.snapshot.tables (lower item.name)
        (some (holdings.tableListing attachment item)) }
  sent :=
    (holdings.world.tried (attachment.request (.tables item.name))
      (holdings.snapshot.tables (lower item.name)).isNone).sent

/-! ### Answers -/

/-- What is raised for the default schema. -/
def noDefaultSchema : Exception :=
  ⟨.invalidInputException, ("Attempting to fetch the default schema - but no " ++
    "database was provided in the connection string").toList⟩

/-- What is raised for a type that counts as supported and has no set. -/
def typeWithoutSet : Exception :=
  ⟨.internalException, "Type not supported for GetCatalogSet".toList⟩

/-- An operation on the schema behind a pointer. -/
def Holdings.onSchema (handle : SchemaHandle)
    (answer : SchemaItem → Outcome Result × Holdings) : Outcome Result × Holdings :=
  match holdings.snapshot.resolve handle with
  | none => (.error (.undefined .danglingEntry), holdings)
  | some item => answer item

/-- A read of the entries of a type: of the tables, of nothing, or of a set that is not there. -/
def Holdings.onType (type : CatalogType) (item : SchemaItem) (nothing : Result)
    (answer : List TableEntry → Result) : Outcome Result × Holdings :=
  match type with
  | .tableEntry | .viewEntry =>
    ((holdings.tablesEnding attachment item).map fun _ =>
        answer (holdings.tableListing attachment item),
      holdings.accessTables attachment item)
  | .indexEntry => (.error (.raised typeWithoutSet), holdings)
  | .schemaEntry | .other _ => (.ok nothing, holdings)

/-- The answer to an operation, and the holdings after it. What is rejected without a look at the
entries is rejected as a snapshot rejects it. -/
def Holdings.step : Op → Outcome Result × Holdings
  | .getSchema schemaName ifNotFound =>
    if schemaName = defaultSchemaName then (.error (.raised noDefaultSchema), holdings)
    else
      (holdings.schemasEnding attachment >>= fun _ =>
        match firstNamed (holdings.schemaListing attachment) schemaName with
        | some item => .ok (.schema (some (holdings.snapshot.info item)))
        | none =>
          if ifNotFound = .returnNull then .ok (.schema none)
          else .error (.raised (schemaNotFound schemaName)),
        holdings.accessSchemas attachment)
  | .scanSchemas =>
    ((holdings.schemasEnding attachment).map fun _ =>
        .schemas ((firstOfEachName (holdings.schemaListing attachment)).map holdings.snapshot.info),
      holdings.accessSchemas attachment)
  | .getEntry handle type name => holdings.onSchema handle fun item =>
    holdings.onType attachment type item (.table none) fun listing =>
      .table (firstNamed listing name)
  | .scan handle type => holdings.onSchema handle fun item =>
    holdings.onType attachment type item (.tables ([] : List TableEntry)) fun listing =>
      .tables (firstOfEachName listing)
  | .createView handle hasTransaction info => holdings.onSchema handle fun item =>
    if info.LooksUp then
      (holdings.tablesEnding attachment item >>= fun _ =>
          (info.outcome hasTransaction
            (firstNamed (holdings.tableListing attachment item) info.viewName)).map fun table =>
              .table (some table),
        holdings.accessTables attachment item)
    else (.error (.raised (if info.sql = [] then emptyView else viewNotCreated hasTransaction)),
      holdings)
  | .clearCache => (.ok .done, { holdings with snapshot := holdings.snapshot.cleared attachment })
  | .serverChange remote =>
    (.ok .done, { holdings with snapshot := { holdings.snapshot with remote } })
  | op@(.createSchema _) | op@.dropSchema | op@(.createTable _ _) | op@(.createRejected _ _)
  | op@(.alter _ _) | op@(.dropEntry _ _) => ((holdings.snapshot.step attachment op).1, holdings)

/-! ### The caches of the holdings -/

/-- The attached catalog with the caches of the holdings. -/
def Holdings.state : CatalogState :=
  { holdings.snapshot.state attachment with world := holdings.world }

end Attachment

section Simulation

variable {attachment : Attachment} {holdings : Holdings} {handle : SchemaHandle}
  {item : SchemaItem}

theorem resolve_holdings (attachment : Attachment) (holdings : Holdings) (handle : SchemaHandle) :
    (holdings.state attachment).resolve handle =
      (holdings.snapshot.resolve handle).map holdings.snapshot.entry :=
  @resolve_state attachment holdings.snapshot handle

theorem resolve_holdings_of_leads (attachment : Attachment)
    (leads : holdings.snapshot.resolve handle = some item) :
    (holdings.state attachment).resolve handle = some (holdings.snapshot.entry item) := by
  rw [resolve_holdings, leads]
  rfl

/-! ### Accesses to the schemas -/

/-- The entries the set of schemas holds are those of the listing. -/
theorem held_schemas (coherent : holdings.snapshot.Coherent) :
    attachment.schemaLoader.held holdings.snapshot.remote holdings.snapshot.cachedSchemas =
      (holdings.schemaListing attachment).map holdings.snapshot.entry := by
  unfold Loader.held Holdings.schemaListing Snapshot.cachedSchemas
  cases fetched : holdings.snapshot.schemas with
  | some listing => rfl
  | none =>
    rw [Option.map_none, Option.getD_none, Option.getD_none, List.map_map]
    conv_lhs => rw [← List.map_id (attachment.schemaLoader.attempt _).created]
    refine List.map_congr_left fun schema member => ?_
    exact (entry_of_built coherent fetched (Loader.offers_of_attempt member)).symm

theorem schemasEnding_eq :
    attachment.schemaLoader.accessEnding holdings.snapshot.remote
        holdings.snapshot.cachedSchemas = holdings.schemasEnding attachment := by
  unfold Loader.accessEnding Holdings.schemasEnding Snapshot.cachedSchemas
  rw [Option.isNone_map]

/-- The caches after an access to the schemas. -/
theorem withSchemaPart_accessed (coherent : holdings.snapshot.Coherent) :
    (holdings.state attachment).withSchemaPart
        (attachment.schemaLoader.accessed holdings.world holdings.snapshot.cachedSchemas) =
      (holdings.accessSchemas attachment).state attachment := by
  have held : attachment.schemaLoader.held holdings.world.remote holdings.snapshot.cachedSchemas =
      _ := held_schemas coherent
  unfold Loader.accessed
  rw [held, World.tried_eq, Snapshot.cachedSchemas, Option.isNone_map]
  rfl

/-- A member of the set of schemas that accesses the entries. -/
theorem onSchemas_accessed {Value : Type} (coherent : holdings.snapshot.Coherent)
    {program : EStateM Fault (SetState SchemaEntry) Value} {ending : Outcome Value}
    (run : program ⟨holdings.world, .ofListing holdings.snapshot.cachedSchemas⟩ =
      finish ending
        (attachment.schemaLoader.accessed holdings.world holdings.snapshot.cachedSchemas)) :
    onSchemas program (holdings.state attachment) =
      finish ending ((holdings.accessSchemas attachment).state attachment) := by
  have ran : onSchemas program (holdings.state attachment) = _ := zoom_of_finish run
  rwa [withSchemaPart_accessed coherent] at ran

/-! ### Accesses to the tables of a schema -/

/-- The tables of one schema go into its entry, and into no other. -/
theorem entry_accessedTables (item other : SchemaItem) :
    (holdings.accessTables attachment item).snapshot.entry other =
      if lower other.name = lower item.name then
        (holdings.snapshot.entry other).withTables
          (.ofListing (some (holdings.tableListing attachment item)))
      else holdings.snapshot.entry other := by
  have listings : (holdings.accessTables attachment item).snapshot.tables (lower other.name) =
      if lower other.name = lower item.name then some (holdings.tableListing attachment item)
      else holdings.snapshot.tables (lower other.name) := Function.update_apply ..
  unfold Snapshot.entry
  rw [listings]
  split
  · rfl
  · rfl

/-- The tables that are cached for a schema, and the server. -/
def Holdings.tablePart (holdings : Holdings) (item : SchemaItem) : SetState TableEntry :=
  ⟨holdings.world, .ofListing (holdings.snapshot.tables (lower item.name))⟩

/-- The same after an access. -/
def Holdings.accessedTablePart (attachment : Attachment) (holdings : Holdings)
    (item : SchemaItem) : SetState TableEntry :=
  (attachment.tableLoader item).accessed holdings.world
    (holdings.snapshot.tables (lower item.name))

/-- The caches after an access to the tables of a schema. -/
theorem withTablePart_accessed (leads : holdings.snapshot.resolve handle = some item) :
    (holdings.state attachment).withTablePart handle.name
        (holdings.accessedTablePart attachment item) =
      (holdings.accessTables attachment item).state attachment := by
  obtain ⟨same, present⟩ := lower_of_resolve leads
  obtain ⟨listing, fetched⟩ := Option.ne_none_iff_exists'.mp present
  have schemas : ({ CatalogSet.ofListing holdings.snapshot.cachedSchemas with
      entries := (CatalogSet.ofListing holdings.snapshot.cachedSchemas).entries.update handle.name
        (SchemaEntry.withTables (.ofListing (some (holdings.tableListing attachment item)))) }) =
      CatalogSet.ofListing (holdings.accessTables attachment item).snapshot.cachedSchemas := by
    unfold Snapshot.cachedSchemas
    rw [show (holdings.accessTables attachment item).snapshot.schemas = some listing from fetched,
      fetched]
    show (⟨(insertEntries _ (listing.map holdings.snapshot.entry)).update handle.name _, true⟩ :
      CatalogSet SchemaEntry) = ⟨insertEntries _ _, true⟩
    rw [insertEntries, FoldedMap.update_insertAll _ _ _ _ (SchemaEntry.withTables _) fun _ => rfl,
      FoldedMap.update_empty, List.map_map]
    congr 2
    refine List.map_congr_left fun other _ => ?_
    rw [entry_accessedTables, same]
    rfl
  unfold Holdings.state Snapshot.state
  rw [← schemas]
  unfold Holdings.accessedTablePart Loader.accessed
  rw [World.tried_eq]
  rfl

/-- A member of a schema that accesses its tables. -/
theorem onSchema_accessed {Value : Type}
    {program : SchemaEntry → EStateM Fault (SetState TableEntry) Value} {ending : Outcome Value}
    (leads : holdings.snapshot.resolve handle = some item)
    (run : program (holdings.snapshot.entry item) (holdings.tablePart item) =
      finish ending (holdings.accessedTablePart attachment item)) :
    onSchema handle program (holdings.state attachment) =
      finish ending ((holdings.accessTables attachment item).state attachment) := by
  have resolved := resolve_holdings_of_leads attachment leads
  rw [← withTablePart_accessed leads]
  cases ending with
  | ok value => exact onSchema_of_ok resolved run
  | error fault => exact onSchema_of_error resolved run

/-- A member of a schema that leaves the tables alone. -/
theorem onSchema_untouched {Value : Type}
    {program : SchemaEntry → EStateM Fault (SetState TableEntry) Value} (ending : Outcome Value)
    (leads : holdings.snapshot.resolve handle = some item)
    (run : program (holdings.snapshot.entry item) (holdings.tablePart item) =
      finish ending (holdings.tablePart item)) :
    onSchema handle program (holdings.state attachment) =
      finish ending (holdings.state attachment) := by
  have resolved := resolve_holdings_of_leads attachment leads
  have unchanged : (holdings.state attachment).withTablePart handle.name
      (holdings.tablePart item) = holdings.state attachment := withTablePart_self resolved
  conv_rhs => rw [← unchanged]
  cases ending with
  | ok value => exact onSchema_of_ok resolved run
  | error fault => exact onSchema_of_error resolved run

/-! ### One operation -/

theorem loadSchemas_holdings :
    (holdings.state attachment).catalog.loadSchemas attachment.libraries =
      attachment.schemaLoader.loadEntries := rfl

section Schemas

variable (coherent : holdings.snapshot.Coherent)

include coherent

/-- A lookup in the set of schemas. -/
theorem onSchemas_getEntry (schemaName : Text) :
    onSchemas (CatalogSet.getEntry attachment.schemaLoader.loadEntries schemaName)
        (holdings.state attachment) =
      finish
        ((holdings.schemasEnding attachment).map fun _ =>
          (firstNamed (holdings.schemaListing attachment) schemaName).map holdings.snapshot.entry)
        ((holdings.accessSchemas attachment).state attachment) := by
  rw [← firstNamed_entry, ← held_schemas coherent, ← schemasEnding_eq]
  exact onSchemas_accessed coherent (getEntry_accessed _ _ _ schemaName)

/-- An iteration over the set of schemas. -/
theorem onSchemas_scan :
    onSchemas (CatalogSet.scan attachment.schemaLoader.loadEntries) (holdings.state attachment) =
      finish
        ((holdings.schemasEnding attachment).map fun _ =>
          (firstOfEachName (holdings.schemaListing attachment)).map holdings.snapshot.entry)
        ((holdings.accessSchemas attachment).state attachment) := by
  rw [← firstOfEachName_entry, ← held_schemas coherent, ← schemasEnding_eq]
  exact onSchemas_accessed coherent (scan_accessed _ _ _)

theorem getSchemaNamed_holdings (schemaName : Text) (ifNotFound : OnEntryNotFound) :
    getSchemaNamed attachment.libraries schemaName ifNotFound (holdings.state attachment) =
      finish
        (holdings.schemasEnding attachment >>= fun _ =>
          match firstNamed (holdings.schemaListing attachment) schemaName with
          | some item => .ok (some (holdings.snapshot.info item))
          | none =>
            if ifNotFound = .returnNull then .ok none
            else .error (.raised (schemaNotFound schemaName)))
        ((holdings.accessSchemas attachment).state attachment) := by
  have looked := @onSchemas_getEntry attachment holdings coherent schemaName
  rw [getSchemaNamed, bind_of_ok _ (run_get _), loadSchemas_holdings]
  cases ends : holdings.schemasEnding attachment with
  | error fault =>
    rw [ends] at looked
    exact bind_of_error _ looked
  | ok value =>
    rw [ends] at looked
    rw [bind_of_ok _ looked]
    show _ = finish (match firstNamed (holdings.schemaListing attachment) schemaName with
      | some item => _
      | none => _) _
    cases firstNamed (holdings.schemaListing attachment) schemaName with
    | some item => rfl
    | none => by_cases absent : ifNotFound = .returnNull <;> simp only [absent] <;> rfl

theorem scanSchemas_holdings :
    scanSchemas attachment.libraries (holdings.state attachment) =
      finish
        ((holdings.schemasEnding attachment).map fun _ =>
          (firstOfEachName (holdings.schemaListing attachment)).map holdings.snapshot.info)
        ((holdings.accessSchemas attachment).state attachment) := by
  have visited := @onSchemas_scan attachment holdings coherent
  rw [scanSchemas, bind_of_ok _ (run_get _), loadSchemas_holdings]
  cases ends : holdings.schemasEnding attachment with
  | error fault =>
    rw [ends] at visited
    exact bind_of_error _ visited
  | ok value =>
    rw [ends] at visited
    rw [bind_of_ok _ visited, bind_of_ok _ (run_get _), List.map_map]
    rfl

end Schemas

/-- A read of the entries of a type goes to the tables or does not touch them. -/
theorem onSchema_onType {Value : Type} (leads : holdings.snapshot.resolve handle = some item)
    (program : CatalogType → SchemaEntry → EStateM Fault (SetState TableEntry) Value)
    (wrap : Value → Result) {nothing : Value} (answer : List TableEntry → Value)
    (tables : ∀ type, type = .tableEntry ∨ type = .viewEntry →
      program type (holdings.snapshot.entry item) (holdings.tablePart item) =
        finish ((holdings.tablesEnding attachment item).map fun _ =>
          answer (holdings.tableListing attachment item))
          (holdings.accessedTablePart attachment item))
    (index : ∀ entry state, program .indexEntry entry state = .error (.raised typeWithoutSet) state)
    (others : ∀ type entry state, catalogTypeIsSupported type = false →
      program type entry state = .ok nothing state) (type : CatalogType) :
    (onSchema handle (program type) >>= fun value => pure (wrap value))
        (holdings.state attachment) =
      finish (holdings.onType attachment type item (wrap nothing) (wrap ∘ answer)).1
        ((holdings.onType attachment type item (wrap nothing) (wrap ∘ answer)).2.state
          attachment) := by
  have mapped : ((holdings.tablesEnding attachment item).map fun _ =>
      answer (holdings.tableListing attachment item)).map wrap =
      (holdings.tablesEnding attachment item).map fun _ =>
        (wrap ∘ answer) (holdings.tableListing attachment item) := by
    cases holdings.tablesEnding attachment item <;> rfl
  cases type with
  | tableEntry =>
    rw [bind_of_finish wrap (onSchema_accessed leads (tables .tableEntry (Or.inl rfl))), mapped]
    rfl
  | viewEntry =>
    rw [bind_of_finish wrap (onSchema_accessed leads (tables .viewEntry (Or.inr rfl))), mapped]
    rfl
  | indexEntry =>
    have raised : onSchema handle (program .indexEntry) (holdings.state attachment) =
        .error (.raised typeWithoutSet) (holdings.state attachment) :=
      onSchema_untouched (.error _) leads (index _ _)
    exact bind_of_error _ raised
  | schemaEntry =>
    have returned : onSchema handle (program .schemaEntry) (holdings.state attachment) =
        .ok nothing (holdings.state attachment) :=
      onSchema_untouched (.ok _) leads (others _ _ _ rfl)
    exact bind_of_ok _ returned
  | other code =>
    have returned : onSchema handle (program (.other code)) (holdings.state attachment) =
        .ok nothing (holdings.state attachment) :=
      onSchema_untouched (.ok _) leads (others _ _ _ rfl)
    exact bind_of_ok _ returned

/-- An operation on a schema, by where the pointer leads. -/
theorem onSchema_cases {run : EStateM.Result Fault CatalogState Result}
    {answer : SchemaItem → Outcome Result × Holdings}
    (dangling : holdings.snapshot.resolve handle = none →
      run = .error (.undefined .danglingEntry) (holdings.state attachment))
    (led : ∀ item, holdings.snapshot.resolve handle = some item →
      run = finish (answer item).1 ((answer item).2.state attachment)) :
    run = finish (holdings.onSchema handle answer).1
      ((holdings.onSchema handle answer).2.state attachment) := by
  unfold Holdings.onSchema
  cases leads : holdings.snapshot.resolve handle with
  | none => exact dangling leads
  | some item => exact led item leads

theorem onSchema_lost {Value : Type}
    {program : SchemaEntry → EStateM Fault (SetState TableEntry) Value}
    (lost : holdings.snapshot.resolve handle = none) :
    onSchema handle program (holdings.state attachment) =
      .error (.undefined .danglingEntry) (holdings.state attachment) := by
  apply onSchema_of_dangling
  rw [resolve_holdings, lost]
  rfl

/-- An operation that a schema rejects fails as it does for a snapshot. -/
theorem onSchema_rejects {Value : Type}
    {program : SchemaEntry → EStateM Fault (SetState TableEntry) Value} {exception : Exception}
    (raises : ∀ entry state, program entry state = .error (.raised exception) state) :
    ∃ fault, onSchema handle program (holdings.state attachment) =
        .error fault (holdings.state attachment) ∧
      (holdings.snapshot.onSchema handle fun _ =>
        (.error (.raised exception), holdings.snapshot)).1 = .error fault := by
  unfold Snapshot.onSchema
  cases leads : holdings.snapshot.resolve handle with
  | none => exact ⟨_, onSchema_lost leads, rfl⟩
  | some item => exact ⟨_, onSchema_untouched (.error _) leads (raises _ _), rfl⟩

/-- The same for an operation that would return something. -/
theorem onSchema_rejects_bind {Value : Type}
    {program : SchemaEntry → EStateM Fault (SetState TableEntry) Value}
    {next : Value → EStateM Fault CatalogState Result} {exception : Exception}
    (raises : ∀ entry state, program entry state = .error (.raised exception) state) :
    (onSchema handle program >>= next) (holdings.state attachment) =
      finish (holdings.snapshot.onSchema handle fun _ =>
          (.error (.raised exception), holdings.snapshot)).1 (holdings.state attachment) := by
  obtain ⟨fault, failed, same⟩ := @onSchema_rejects attachment holdings handle _ _ _ raises
  rw [bind_of_error _ failed, same]
  rfl

theorem schemaCreateView_looksUp {info : CreateViewInfo} (looksUp : info.LooksUp)
    (hasTransaction : Bool) :
    schemaCreateView (attachment.tableLoader item).loadEntries item.internal hasTransaction info
        (holdings.tablePart item) =
      finish
        (holdings.tablesEnding attachment item >>= fun _ =>
          info.outcome hasTransaction
            (firstNamed (holdings.tableListing attachment item) info.viewName))
        (holdings.accessedTablePart attachment item) := by
  have looked : schemaGetEntry (attachment.tableLoader item).loadEntries .viewEntry info.viewName
      (holdings.tablePart item) = _ :=
    getEntry_accessed (attachment.tableLoader item) holdings.world _ info.viewName
  have ending : (attachment.tableLoader item).accessEnding holdings.world.remote
    (holdings.snapshot.tables (lower item.name)) = holdings.tablesEnding attachment item := rfl
  have held : (attachment.tableLoader item).held holdings.world.remote
    (holdings.snapshot.tables (lower item.name)) = holdings.tableListing attachment item := rfl
  rw [ending, held] at looked
  unfold schemaCreateView
  rw [if_neg looksUp.1, if_pos looksUp.2]
  cases ends : holdings.tablesEnding attachment item with
  | error fault =>
    rw [ends] at looked
    exact bind_of_error _ looked
  | ok value =>
    rw [ends] at looked
    rw [bind_of_ok _ looked]
    show _ = finish (info.outcome hasTransaction
      (firstNamed (holdings.tableListing attachment item) info.viewName)) _
    cases firstNamed (holdings.tableListing attachment item) info.viewName with
    | some table =>
      by_cases ignores : info.onConflict = .ignoreOnConflict
      · simp only [CreateViewInfo.outcome, if_pos ignores]
        rfl
      · simp only [CreateViewInfo.outcome, if_neg ignores]
        rfl
    | none =>
      cases hasTransaction with
      | true => rfl
      | false => rfl

/-- Every operation on the caches of the holdings ends as the step of the holdings does. -/
theorem run_holdings (coherent : holdings.snapshot.Coherent) (op : Op) :
    op.run attachment.libraries (holdings.state attachment) =
      finish (holdings.step attachment op).1
        ((holdings.step attachment op).2.state attachment) := by
  cases op with
  | getSchema schemaName ifNotFound =>
    by_cases default : schemaName = defaultSchemaName
    · rw [Op.run, Holdings.step, if_pos default, getSchema, if_pos default]
      rfl
    · have named := @getSchemaNamed_holdings attachment holdings coherent schemaName ifNotFound
      rw [Op.run, Holdings.step, if_neg default, getSchema, if_neg default,
        bind_of_finish Result.schema named]
      cases holdings.schemasEnding attachment with
      | error fault => rfl
      | ok value =>
        show finish (Except.map _ (match firstNamed (holdings.schemaListing attachment) schemaName
          with
          | some item => _
          | none => _)) _ = finish (match firstNamed (holdings.schemaListing attachment) schemaName
          with
          | some item => _
          | none => _) _
        cases firstNamed (holdings.schemaListing attachment) schemaName with
        | some item => rfl
        | none => by_cases absent : ifNotFound = .returnNull <;> simp only [absent] <;> rfl
  | scanSchemas =>
    have visited := @scanSchemas_holdings attachment holdings coherent
    rw [Op.run, bind_of_finish (fun schemas : List SchemaInfo => Result.schemas schemas) visited,
      Holdings.step]
    cases holdings.schemasEnding attachment with
    | error fault => rfl
    | ok value => rfl
  | createSchema onConflict =>
    by_cases replaces : onConflict = .replaceOnConflict
    · subst replaces
      rfl
    · rw [Op.run, createSchema, if_neg replaces, Holdings.step, Snapshot.step, if_neg replaces]
      rfl
  | dropSchema => rfl
  | clearCache => rfl
  | getEntry handle type name =>
    rw [Op.run, bind_of_ok _ (run_get _)]
    refine onSchema_cases (fun lost => bind_of_error _ (onSchema_lost lost)) fun item leads => ?_
    exact onSchema_onType leads
      (fun type entry => schemaGetEntry
        ((holdings.state attachment).catalog.loadTables attachment.libraries entry) type name)
      Result.table (fun listing => firstNamed listing name)
      (by rintro _ (rfl | rfl) <;> exact getEntry_accessed (attachment.tableLoader item) _ _ name)
      (fun _ _ => rfl)
      (fun type entry state unsupported => by
        rw [schemaGetEntry, if_pos unsupported]
        rfl) type
  | scan handle type =>
    rw [Op.run, bind_of_ok _ (run_get _)]
    refine onSchema_cases (fun lost => bind_of_error _ (onSchema_lost lost)) fun item leads => ?_
    exact onSchema_onType leads
      (fun type entry => schemaScan
        ((holdings.state attachment).catalog.loadTables attachment.libraries entry) type)
      (fun tables => Result.tables tables) firstOfEachName
      (by rintro _ (rfl | rfl) <;> exact scan_accessed (attachment.tableLoader item) _ _)
      (fun _ _ => rfl)
      (fun type entry state unsupported => by
        rw [schemaScan, if_pos unsupported]
        rfl) type
  | createTable handle onConflict =>
    refine onSchema_rejects_bind fun entry state => ?_
    by_cases replaces : onConflict = .replaceOnConflict
    · rw [schemaCreateTable, if_pos replaces, if_pos replaces]
      rfl
    · rw [schemaCreateTable, if_neg replaces, if_neg replaces]
      rfl
  | createView handle hasTransaction info =>
    rw [Op.run, bind_of_ok _ (run_get _)]
    refine onSchema_cases (fun lost => bind_of_error _ (onSchema_lost lost)) fun item leads => ?_
    by_cases looksUp : info.LooksUp
    · rw [if_pos looksUp]
      rw [bind_of_finish (fun table => Result.table (some table))
        (onSchema_accessed leads (schemaCreateView_looksUp looksUp hasTransaction))]
      cases holdings.tablesEnding attachment item with
      | error fault => rfl
      | ok value => rfl
    · rw [if_neg looksUp]
      have raised := schemaCreateView_rejected looksUp hasTransaction
        (attachment.tableLoader item).loadEntries item.internal (holdings.tablePart item)
      exact bind_of_error _ (onSchema_untouched (.error _) leads raised)
  | createRejected handle kind =>
    have raises : ∀ (_ : SchemaEntry) (state : SetState TableEntry),
        (throw (.raised kind.exception) : EStateM Fault (SetState TableEntry) Result) state =
          .error (.raised kind.exception) state := fun _ _ => rfl
    obtain ⟨fault, failed, same⟩ := @onSchema_rejects attachment holdings handle _ _ _ raises
    rw [Op.run, failed, Holdings.step, Snapshot.step, same]
    rfl
  | alter handle isAlterTable =>
    refine onSchema_rejects_bind fun entry state => ?_
    cases isAlterTable with
    | true | false => rfl
  | dropEntry handle type =>
    refine onSchema_rejects_bind fun entry state => ?_
    cases type with
    | tableEntry | viewEntry | indexEntry | schemaEntry | other => rfl
  | serverChange remote => rfl

/-! ### Coherence -/

/-- Coherence is about which listings there are, and not about what is in them. -/
theorem Snapshot.Coherent.congr {snapshot other : Snapshot} (coherent : snapshot.Coherent)
    (schemas : other.schemas = none ↔ snapshot.schemas = none)
    (tables : ∀ name, other.tables name = none ↔ snapshot.tables name = none)
    (fetched : other.fetched = snapshot.fetched) : other.Coherent where
  nested unfetched name := (tables name).mpr (coherent.nested (schemas.mp unfetched) name)
  schemasOnce unfetched := fetched ▸ coherent.schemasOnce (schemas.mp unfetched)
  tablesOnce name unfetched :=
    fetched ▸ coherent.tablesOnce name ((tables (lower name)).mp unfetched)
  distinct := fetched ▸ coherent.distinct

theorem coherent_accessedSchemas (coherent : holdings.snapshot.Coherent) :
    (holdings.accessSchemas attachment).snapshot.Coherent :=
  (@Snapshot.Coherent.accessSchemas attachment _ coherent).congr
    ⟨nofun, nofun⟩
    (fun _ => Iff.rfl) rfl

theorem coherent_accessedTables (coherent : holdings.snapshot.Coherent) (item : SchemaItem)
    (listed : holdings.snapshot.schemas ≠ none) :
    (holdings.accessTables attachment item).snapshot.Coherent := by
  refine (@Snapshot.Coherent.accessTables attachment _ coherent item listed).congr Iff.rfl
    (fun name => ?_) rfl
  simp only [Holdings.accessTables, Snapshot.accessTables, Function.update_apply]
  split
  · simp
  · exact Iff.rfl

/-- What holds of the holdings before an operation on a schema and after it. -/
theorem Holdings.onSchema_holds (holds : Holdings → Prop)
    {answer : SchemaItem → Outcome Result × Holdings} (before : holds holdings)
    (each : ∀ item, holdings.snapshot.resolve handle = some item → holds (answer item).2) :
    holds (holdings.onSchema handle answer).2 := by
  unfold Holdings.onSchema
  cases leads : holdings.snapshot.resolve handle with
  | none => exact before
  | some item => exact each item leads

/-- The same for a read of the entries of a type. -/
theorem Holdings.onType_holds (holds : Holdings → Prop) (before : holds holdings)
    (accessed : holds (holdings.accessTables attachment item)) (type : CatalogType)
    (nothing : Result) (answer : List TableEntry → Result) :
    holds (holdings.onType attachment type item nothing answer).2 := by
  cases type with
  | tableEntry | viewEntry => exact accessed
  | indexEntry | schemaEntry | other => exact before

/-- What an access and a clear keep, and a change of the server, a step keeps. -/
theorem Holdings.step_holds (holds : Holdings → Prop) (before : holds holdings)
    (schemas : holds (holdings.accessSchemas attachment))
    (tables : ∀ handle item, holdings.snapshot.resolve handle = some item →
      holds (holdings.accessTables attachment item))
    {op : Op}
    (cleared : op = .clearCache →
      holds { holdings with snapshot := holdings.snapshot.cleared attachment })
    (changed : ∀ remote, op = .serverChange remote →
      holds { holdings with snapshot := { holdings.snapshot with remote } }) :
    holds (holdings.step attachment op).2 := by
  cases op with
  | getSchema schemaName ifNotFound =>
    rw [Holdings.step]
    split
    · exact before
    · exact schemas
  | scanSchemas => exact schemas
  | clearCache => exact cleared rfl
  | getEntry handle type name =>
    exact onSchema_holds holds before fun item leads =>
      onType_holds holds before (tables handle item leads) type _ _
  | scan handle type =>
    exact onSchema_holds holds before fun item leads =>
      onType_holds holds before (tables handle item leads) type _ _
  | createView handle hasTransaction info =>
    refine onSchema_holds holds before fun item leads => ?_
    split
    · exact tables handle item leads
    · exact before
  | createSchema | dropSchema | createTable | createRejected | alter | dropEntry => exact before
  | serverChange remote => exact changed remote rfl

theorem coherent_step (coherent : holdings.snapshot.Coherent) (op : Op) :
    (holdings.step attachment op).2.snapshot.Coherent :=
  Holdings.step_holds (fun held => held.snapshot.Coherent) coherent
    (coherent_accessedSchemas coherent)
    (fun _ item leads => coherent_accessedTables coherent item (lower_of_resolve leads).2)
    (fun _ => ⟨fun _ _ => rfl, fun _ => List.not_mem_nil, fun _ _ => List.not_mem_nil,
      List.nodup_nil⟩)
    fun _ _ => ⟨coherent.nested, coherent.schemasOnce, coherent.tablesOnce, coherent.distinct⟩

/-! ### What a step sends -/

/-- However long the log, the step ends the same, and sends one request for a listing or none. -/
structure SendsOneOrNone (attachment : Attachment)
    (step : List Request → Outcome Result × Holdings) (ending : Outcome Result) (next : Snapshot)
    (requests : List Request) : Prop where
  steps : ∀ sent, step sent = (ending, ⟨next, sent ++ requests⟩)
  atMostOne : requests.length ≤ 1
  listings : ∀ request ∈ requests, ∃ source, request = attachment.request source

/-- A step that does not read the log and sends nothing. -/
theorem exists_sendsOneOrNone_of_silent {step : List Request → Outcome Result × Holdings}
    (silent : ∀ sent, step sent = ((step []).1, ⟨(step []).2.snapshot, sent⟩)) :
    ∃ ending next requests, SendsOneOrNone attachment step ending next requests :=
  ⟨_, _, [], fun sent => by rw [List.append_nil]; exact silent sent, Nat.zero_le 1,
    fun _ member => absurd member List.not_mem_nil⟩

/-- A step that does not read the log and attempts one listing. -/
theorem exists_sendsOneOrNone_of_tried {step : List Request → Outcome Result × Holdings}
    (remote : Request → CurlResult) (source : Source) (untried : Bool)
    (unread : ∀ sent, (step sent).1 = (step []).1 ∧ (step sent).2.snapshot = (step []).2.snapshot)
    (tried : ∀ sent, (step sent).2.sent =
      ((⟨remote, sent⟩ : World).tried (attachment.request source) untried).sent) :
    ∃ ending next requests, SendsOneOrNone attachment step ending next requests := by
  obtain ⟨requests, within, same⟩ :=
    World.exists_tried remote (attachment.request source) untried
  refine ⟨(step []).1, (step []).2.snapshot, requests, fun sent => ?_, ?_, fun request member => ?_⟩
  · rw [← (unread sent).1, ← (unread sent).2, ← same, ← tried]
  · have length := within.length_le
    split at length
    · exact length
    · exact Nat.le_trans length (Nat.zero_le 1)
  · have inAsked := within.subset member
    split at inAsked
    · exact ⟨source, List.mem_singleton.mp inAsked⟩
    · exact absurd inAsked List.not_mem_nil

/-- An operation on a schema, by where the pointer leads. -/
theorem exists_sendsOneOrNone_onSchema (snapshot : Snapshot) (handle : SchemaHandle)
    {answer : List Request → SchemaItem → Outcome Result × Holdings}
    (each : ∀ item, ∃ ending next requests,
      SendsOneOrNone attachment (fun sent => answer sent item) ending next requests) :
    ∃ ending next requests, SendsOneOrNone attachment
      (fun sent => (⟨snapshot, sent⟩ : Holdings).onSchema handle (answer sent)) ending next
        requests := by
  cases leads : snapshot.resolve handle with
  | none =>
    refine exists_sendsOneOrNone_of_silent fun sent => ?_
    simp only [Holdings.onSchema, leads]
  | some item =>
    obtain ⟨ending, next, requests, sends⟩ := each item
    refine ⟨ending, next, requests, fun sent => ?_, sends.atMostOne, sends.listings⟩
    rw [Holdings.onSchema, leads]
    exact sends.steps sent

theorem exists_sendsOneOrNone_onType (snapshot : Snapshot) (type : CatalogType) (item : SchemaItem)
    (nothing : Result) (answer : List TableEntry → Result) :
    ∃ ending next requests, SendsOneOrNone attachment
      (fun sent => (⟨snapshot, sent⟩ : Holdings).onType attachment type item nothing answer)
        ending next requests := by
  cases type with
  | tableEntry | viewEntry =>
    exact exists_sendsOneOrNone_of_tried snapshot.remote (.tables item.name)
      (snapshot.tables (lower item.name)).isNone (fun _ => ⟨rfl, rfl⟩) fun _ => rfl
  | indexEntry | schemaEntry | other => exact exists_sendsOneOrNone_of_silent fun _ => rfl

/-- A step does not read the log, and sends one request for a listing or none. -/
theorem Holdings.exists_sendsOneOrNone (attachment : Attachment) (snapshot : Snapshot) (op : Op) :
    ∃ ending next requests, SendsOneOrNone attachment
      (fun sent => (⟨snapshot, sent⟩ : Holdings).step attachment op) ending next requests := by
  cases op with
  | getSchema schemaName ifNotFound =>
    by_cases default : schemaName = defaultSchemaName
    · simp only [Holdings.step, if_pos default]
      exact exists_sendsOneOrNone_of_silent fun _ => rfl
    · simp only [Holdings.step, if_neg default]
      exact exists_sendsOneOrNone_of_tried snapshot.remote .schemas snapshot.schemas.isNone
        (fun _ => ⟨rfl, rfl⟩) fun _ => rfl
  | scanSchemas =>
    exact exists_sendsOneOrNone_of_tried snapshot.remote .schemas snapshot.schemas.isNone
      (fun _ => ⟨rfl, rfl⟩) fun _ => rfl
  | getEntry handle type name =>
    exact exists_sendsOneOrNone_onSchema snapshot handle fun item =>
      exists_sendsOneOrNone_onType snapshot type item _ _
  | scan handle type =>
    exact exists_sendsOneOrNone_onSchema snapshot handle fun item =>
      exists_sendsOneOrNone_onType snapshot type item _ _
  | createView handle hasTransaction info =>
    refine exists_sendsOneOrNone_onSchema snapshot handle fun item => ?_
    by_cases looksUp : info.LooksUp
    · simp only [if_pos looksUp]
      exact exists_sendsOneOrNone_of_tried snapshot.remote (.tables item.name)
        (snapshot.tables (lower item.name)).isNone (fun _ => ⟨rfl, rfl⟩) fun _ => rfl
    · simp only [if_neg looksUp]
      exact exists_sendsOneOrNone_of_silent fun _ => rfl
  | createSchema | dropSchema | clearCache | createTable | createRejected | alter | dropEntry
  | serverChange => exact exists_sendsOneOrNone_of_silent fun _ => rfl

/-! ### Runs -/

theorem simulates_holdings (attachment : Attachment) :
    Simulates (Op.run attachment.libraries) (Holdings.step attachment) (Holdings.state attachment)
      fun holdings => holdings.snapshot.Coherent where
  ends _ op coherent := run_holdings coherent op
  keeps _ op coherent := coherent_step coherent op

/-- A catalog that has just been attached. -/
def Attachment.attached (attachment : Attachment) (world : World) : CatalogState :=
  ⟨world, attach attachment.name attachment.path attachment.credentials, 0⟩

/-- Any row of operations on an attached catalog has the outcomes of the holdings and leaves
their caches, whatever the server replies. -/
theorem attached_trace_eq (attachment : Attachment) (world : World) (ops : List Op) :
    trace (Op.run attachment.libraries) (attachment.attached world) ops =
      ((modelTrace (Holdings.step attachment) (.new world) ops).1,
        (modelTrace (Holdings.step attachment) (.new world) ops).2.state attachment) := by
  have starts : attachment.attached world = (Holdings.new world).state attachment := rfl
  rw [starts]
  exact ((simulates_holdings attachment).trace ops (coherent_new world)).1

end Simulation

end UcCatalog
