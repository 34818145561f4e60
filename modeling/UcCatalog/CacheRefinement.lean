/-
This file proves that the two nested caches do what a `Snapshot` does. The cache
is a function of the snapshot (`Snapshot.state`): the set of schemas is filled
from the listing of schemas, and the set in each schema from the listing of its
tables, or is as constructed while there is no listing. An operation on the cache
of a snapshot ends in the cache of the next snapshot, with the same answer, as
long as the requests it sends succeed (`run_state`).

That is an equation between states, so nothing needs to be kept along a run but
the coherence of the snapshot itself: without a listing of schemas there is none
of tables, and no listing is fetched twice.
-/

import UcCatalog.CachedTables
import UcCatalog.Snapshot

namespace UcCatalog

open Stateful Transition

section Refinement

variable {attachment : Attachment} {snapshot : Snapshot}

/-! ### The cache of a snapshot -/

/-- The schema that is cached for an item, with what is cached of its tables. -/
def Snapshot.entry (snapshot : Snapshot) (item : SchemaItem) : SchemaEntry where
  name := item.name
  internal := item.internal
  schemaData := item.schemaData
  tables := .ofListing (snapshot.tables (lower item.name))

def Snapshot.world (attachment : Attachment) (snapshot : Snapshot) : World where
  remote := snapshot.remote
  sent := snapshot.earlier ++ snapshot.fetched.map attachment.request

@[simp] theorem Snapshot.world_remote : (snapshot.world attachment).remote = snapshot.remote := rfl

def Snapshot.cachedSchemas (snapshot : Snapshot) : Option (List SchemaEntry) :=
  snapshot.schemas.map (List.map snapshot.entry)

/-- The attached catalog with the cache of a snapshot. -/
def Snapshot.state (attachment : Attachment) (snapshot : Snapshot) : CatalogState where
  world := snapshot.world attachment
  catalog :=
    { attach attachment.name attachment.path attachment.credentials with
      schemas := .ofListing snapshot.cachedSchemas }
  clears := snapshot.clears

/-- Without a listing of schemas there is none of tables, and no listing is fetched twice. -/
structure Snapshot.Coherent (snapshot : Snapshot) : Prop where
  nested : snapshot.schemas = none → ∀ name, snapshot.tables name = none
  schemasOnce : snapshot.schemas = none → .schemas ∉ snapshot.fetched
  tablesOnce : ∀ name, snapshot.tables (lower name) = none → .tables name ∉ snapshot.fetched
  distinct : snapshot.fetched.Nodup

theorem firstNamed_entry (listing : List SchemaItem) (name : Text) :
    firstNamed (listing.map snapshot.entry) name =
      (firstNamed listing name).map snapshot.entry :=
  List.find?_map ..

theorem firstOfEachName_entry (listing : List SchemaItem) :
    firstOfEachName (listing.map snapshot.entry) =
      (firstOfEachName listing).map snapshot.entry :=
  FoldedMap.firstOccurrences_map _ snapshot.entry (fun _ => rfl) listing

/-- A pointer leads to what is cached for the item it leads to. -/
theorem resolve_state (handle : SchemaHandle) :
    (snapshot.state attachment).resolve handle =
      (snapshot.resolve handle).map snapshot.entry := by
  unfold CatalogState.resolve Snapshot.resolve
  show (if handle.clears = snapshot.clears then _ else _) = _
  split
  · show (CatalogSet.ofListing snapshot.cachedSchemas).entries.find handle.name = _
    unfold Snapshot.cachedSchemas
    cases snapshot.schemas with
    | none => rfl
    | some listing =>
      show (insertEntries _ (listing.map snapshot.entry)).find handle.name = _
      rw [find_insertEntries, firstNamed_entry]
      rfl
  · rfl

/-- A pointer to a listed schema leads to it. -/
theorem resolve_of_listed {listing : List SchemaItem} {item : SchemaItem}
    (fetched : snapshot.schemas = some listing) (member : item ∈ firstOfEachName listing) :
    snapshot.resolve ⟨snapshot.clears, item.name⟩ = some item := by
  rw [Snapshot.resolve, if_pos rfl, fetched]
  exact firstNamed_of_mem member

/-! ### Accesses to the schemas -/

/-- A schema is built without tables. -/
theorem entry_of_built (coherent : snapshot.Coherent) (unfetched : snapshot.schemas = none)
    {remote : Request → CurlResult} {schema : SchemaEntry}
    (offers : attachment.schemaLoader.Offers remote schema) :
    snapshot.entry schema.item = schema := by
  obtain ⟨_, _, _, _, built⟩ := offers
  obtain ⟨fresh, made, rfl, _⟩ := Loader.entryOf_eq_ok built
  cases made
  unfold Snapshot.entry
  rw [coherent.nested unfetched]
  rfl

theorem view_schemas (coherent : snapshot.Coherent) :
    attachment.schemaLoader.view snapshot.remote snapshot.cachedSchemas =
      (snapshot.schemaListing attachment).map snapshot.entry := by
  unfold Loader.view Snapshot.schemaListing Snapshot.cachedSchemas
  cases fetched : snapshot.schemas with
  | some listing => rfl
  | none =>
    rw [Option.map_none, Option.getD_none, Option.getD_none, List.map_map, Loader.current]
    cases listed : attachment.schemaLoader.listed snapshot.remote with
    | error fault => rfl
    | ok created =>
      conv_lhs => rw [← List.map_id created]
      refine List.map_congr_left fun schema member => ?_
      exact (entry_of_built coherent fetched (Loader.offers_of_listed listed schema member)).symm

theorem asked_schemas :
    (snapshot.world attachment).asked attachment.schemaLoader snapshot.cachedSchemas =
      (snapshot.accessSchemas attachment).world attachment := by
  unfold World.asked Snapshot.cachedSchemas Snapshot.world Snapshot.accessSchemas
  rw [Option.isNone_map]
  split
  · rw [List.map_append, ← List.append_assoc]
    rfl
  · rfl

/-- A member of the set of schemas that fetches the listing, if there is none. -/
theorem onSchemas_access {Value : Type} (coherent : snapshot.Coherent)
    {program : EStateM Fault (SetState SchemaEntry) Value} {value : Value}
    (run : program ⟨snapshot.world attachment, .ofListing snapshot.cachedSchemas⟩ =
      .ok value ⟨(snapshot.world attachment).asked attachment.schemaLoader snapshot.cachedSchemas,
        .ofListing (some (attachment.schemaLoader.view snapshot.remote snapshot.cachedSchemas))⟩) :
    onSchemas program (snapshot.state attachment) =
      .ok value ((snapshot.accessSchemas attachment).state attachment) := by
  rw [asked_schemas, view_schemas coherent] at run
  exact onSchemas_of_ok program (snapshot.state attachment) run

/-! ### Accesses to the tables of a schema -/

variable {handle : SchemaHandle} {item : SchemaItem}

/-- The tables that are cached for a schema, and the server. -/
def Snapshot.tablePart (attachment : Attachment) (snapshot : Snapshot) (item : SchemaItem) :
    SetState TableEntry where
  world := snapshot.world attachment
  set := .ofListing (snapshot.tables (lower item.name))

/-- The same after a call that fetches the listing, if there is none. -/
def Snapshot.askedTablePart (attachment : Attachment) (snapshot : Snapshot) (item : SchemaItem) :
    SetState TableEntry where
  world := (snapshot.world attachment).asked (attachment.tableLoader item)
    (snapshot.tables (lower item.name))
  set := .ofListing (some (snapshot.tableListing attachment item))

theorem lower_of_resolve {handle : SchemaHandle} {item : SchemaItem}
    (leads : snapshot.resolve handle = some item) :
    lower item.name = lower handle.name ∧ snapshot.schemas ≠ none := by
  unfold Snapshot.resolve at leads
  split_ifs at leads
  obtain ⟨member, same⟩ := firstNamed_eq_some leads
  refine ⟨same, fun unfetched => ?_⟩
  rw [unfetched] at member
  exact absurd member List.not_mem_nil

theorem asked_tables (item : SchemaItem) :
    (snapshot.world attachment).asked (attachment.tableLoader item)
        (snapshot.tables (lower item.name)) =
      (snapshot.accessTables attachment item).world attachment := by
  unfold World.asked Snapshot.world Snapshot.accessTables
  split
  · rw [List.map_append, ← List.append_assoc]
    rfl
  · rfl

/-- The listing of one schema goes into its entry, and into no other. -/
theorem entry_accessTables (item other : SchemaItem) :
    (snapshot.accessTables attachment item).entry other =
      if lower other.name = lower item.name then
        (snapshot.entry other).withTables
          (.ofListing (some (snapshot.tableListing attachment item)))
      else snapshot.entry other := by
  have listings : (snapshot.accessTables attachment item).tables (lower other.name) =
      if lower other.name = lower item.name then some (snapshot.tableListing attachment item)
      else snapshot.tables (lower other.name) := Function.update_apply ..
  unfold Snapshot.entry
  rw [listings]
  split
  · rfl
  · rfl

theorem withTablePart_access (leads : snapshot.resolve handle = some item) :
    (snapshot.state attachment).withTablePart handle.name
        (snapshot.askedTablePart attachment item) =
      (snapshot.accessTables attachment item).state attachment := by
  obtain ⟨same, present⟩ := lower_of_resolve leads
  obtain ⟨listing, fetched⟩ := Option.ne_none_iff_exists'.mp present
  have schemas : ({ CatalogSet.ofListing snapshot.cachedSchemas with
      entries := (CatalogSet.ofListing snapshot.cachedSchemas).entries.update handle.name
        (SchemaEntry.withTables (.ofListing (some (snapshot.tableListing attachment item)))) }) =
      CatalogSet.ofListing (snapshot.accessTables attachment item).cachedSchemas := by
    unfold Snapshot.cachedSchemas
    rw [show (snapshot.accessTables attachment item).schemas = some listing from fetched, fetched]
    show (⟨(insertEntries _ (listing.map snapshot.entry)).update handle.name _, true⟩ :
      CatalogSet SchemaEntry) = ⟨insertEntries _ _, true⟩
    rw [insertEntries, FoldedMap.update_insertAll _ _ _ _ (SchemaEntry.withTables _) fun _ => rfl,
      FoldedMap.update_empty, List.map_map]
    congr 2
    refine List.map_congr_left fun other _ => ?_
    rw [entry_accessTables, same]
    rfl
  unfold Snapshot.state
  rw [← asked_tables, ← schemas]
  rfl

theorem resolve_of_leads (attachment : Attachment) (leads : snapshot.resolve handle = some item) :
    (snapshot.state attachment).resolve handle = some (snapshot.entry item) := by
  rw [resolve_state, leads]
  rfl

section OnSchema

variable {Value : Type} {program : SchemaEntry → EStateM Fault (SetState TableEntry) Value}

theorem onSchema_dangling (lost : snapshot.resolve handle = none) :
    onSchema handle program (snapshot.state attachment) =
      .error (.undefined .danglingEntry) (snapshot.state attachment) := by
  apply onSchema_of_dangling
  rw [resolve_state, lost]
  rfl

/-- A member of a schema that fetches the listing of its tables, if there is none. -/
theorem onSchema_access (ending : Outcome Value) (leads : snapshot.resolve handle = some item)
    (run : program (snapshot.entry item) (snapshot.tablePart attachment item) =
      finish ending (snapshot.askedTablePart attachment item)) :
    onSchema handle program (snapshot.state attachment) =
      finish ending ((snapshot.accessTables attachment item).state attachment) := by
  have resolved := resolve_of_leads attachment leads
  cases ending with
  | ok value =>
    rw [onSchema_of_ok resolved run, withTablePart_access leads]
    rfl
  | error fault =>
    rw [onSchema_of_error resolved run, withTablePart_access leads]
    rfl

/-- A member of a schema that fails and leaves the tables alone. -/
theorem onSchema_rejected (leads : snapshot.resolve handle = some item) {fault : Fault}
    (run : program (snapshot.entry item) (snapshot.tablePart attachment item) =
      .error fault (snapshot.tablePart attachment item)) :
    onSchema handle program (snapshot.state attachment) =
      .error fault (snapshot.state attachment) := by
  have resolved := resolve_of_leads attachment leads
  rw [onSchema_of_error resolved run]
  exact congrArg _ (withTablePart_self resolved)

end OnSchema

/-! ### One operation -/

/-- The operations the cache serves: the default schema is a case of its own, and a schema has
tables and views only. -/
def Op.Served : Op → Prop
  | .getSchema schemaName _ => schemaName ≠ defaultSchemaName
  | .getEntry _ type _ | .scan _ type => type = .tableEntry ∨ type = .viewEntry
  | _ => True

/-- The tables of the schema behind a pointer load, unless they are loaded. -/
def CatalogState.TablesLoad (libraries : Libraries) (state : CatalogState)
    (handle : SchemaHandle) : Prop :=
  ∀ schema, state.resolve handle = some schema → schema.tables.isLoaded = false →
    ∃ listing, (tableLoader libraries state.catalog.internalName state.catalog.credentials
      schema.name schema.internal).listed state.world.remote = .ok listing

/-- The requests an operation sends are answered by listings that load. -/
def CatalogState.RequestsSucceed (libraries : Libraries) (state : CatalogState) : Op → Prop
  | .getSchema _ _ | .scanSchemas => state.catalog.schemas.isLoaded = false →
    ∃ listing, (schemaLoader libraries state.catalog.name state.catalog.credentials).listed
      state.world.remote = .ok listing
  | .getEntry handle _ _ | .scan handle _ => state.TablesLoad libraries handle
  | .createView handle _ info => info.LooksUp → state.TablesLoad libraries handle
  | _ => True

section Decidable

variable (libraries : Libraries) (state : CatalogState)

theorem exists_ok_iff {Value : Type} (outcome : Outcome Value) :
    outcome.toBool = true ↔ ∃ value, outcome = .ok value := by
  cases outcome with
  | ok value => exact ⟨fun _ => ⟨value, rfl⟩, fun _ => rfl⟩
  | error fault => exact ⟨nofun, fun ⟨_, same⟩ => nomatch same⟩

instance {Value : Type} (outcome : Outcome Value) : Decidable (∃ value, outcome = .ok value) :=
  decidable_of_iff _ (exists_ok_iff outcome)

instance (handle : SchemaHandle) : Decidable (state.TablesLoad libraries handle) :=
  match leads : state.resolve handle with
  | none => isTrue fun _ found => nomatch leads.symm.trans found
  | some schema =>
    decidable_of_iff (schema.tables.isLoaded = false → ∃ listing, (tableLoader libraries
        state.catalog.internalName state.catalog.credentials schema.name schema.internal).listed
          state.world.remote = .ok listing)
      ⟨fun load _ found => Option.some.inj (leads.symm.trans found) ▸ load,
        fun load => load schema leads⟩

instance (op : Op) : Decidable (state.RequestsSucceed libraries op) := by
  cases op <;> unfold CatalogState.RequestsSucceed <;> infer_instance

end Decidable

theorem schemas_succeed
    (succeeds : (snapshot.state attachment).RequestsSucceed attachment.libraries .scanSchemas)
    (unfetched : snapshot.cachedSchemas = none) :
    ∃ listing, attachment.schemaLoader.listed snapshot.remote = .ok listing := by
  refine succeeds ?_
  show (CatalogSet.ofListing snapshot.cachedSchemas).isLoaded = false
  rw [unfetched]
  rfl

theorem tables_succeed (leads : snapshot.resolve handle = some item)
    (succeeds : (snapshot.state attachment).TablesLoad attachment.libraries handle)
    (unfetched : snapshot.tables (lower item.name) = none) :
    ∃ listing, (attachment.tableLoader item).listed snapshot.remote = .ok listing := by
  refine succeeds _ (resolve_of_leads attachment leads) ?_
  show (CatalogSet.ofListing (snapshot.tables (lower item.name))).isLoaded = false
  rw [unfetched]
  rfl

theorem loadSchemas_state :
    (snapshot.state attachment).catalog.loadSchemas attachment.libraries =
      attachment.schemaLoader.loadEntries := rfl

theorem getSchemaNamed_state (coherent : snapshot.Coherent)
    (succeeds : (snapshot.state attachment).RequestsSucceed attachment.libraries .scanSchemas)
    (schemaName : Text) (ifNotFound : OnEntryNotFound) :
    getSchemaNamed attachment.libraries schemaName ifNotFound (snapshot.state attachment) =
      finish
        (match firstNamed (snapshot.schemaListing attachment) schemaName with
          | some item => .ok (some (snapshot.info item))
          | none =>
            if ifNotFound = .returnNull then .ok none
            else .error (.raised (schemaNotFound schemaName)))
        ((snapshot.accessSchemas attachment).state attachment) := by
  have looked := onSchemas_access coherent
    (getEntry_ofListing (schemas_succeed succeeds) schemaName)
  rw [Snapshot.world_remote, view_schemas coherent, firstNamed_entry] at looked
  rw [getSchemaNamed, bind_of_ok _ (run_get _), loadSchemas_state, bind_of_ok _ looked]
  cases firstNamed (snapshot.schemaListing attachment) schemaName with
  | some item => rfl
  | none =>
    show (if _ then _ else _ : EStateM Fault CatalogState (Option SchemaInfo)) _ =
      finish (if _ then _ else _) _
    split
    · rfl
    · rfl

theorem scanSchemas_state (coherent : snapshot.Coherent)
    (succeeds : (snapshot.state attachment).RequestsSucceed attachment.libraries .scanSchemas) :
    scanSchemas attachment.libraries (snapshot.state attachment) =
      .ok ((firstOfEachName (snapshot.schemaListing attachment)).map snapshot.info)
        ((snapshot.accessSchemas attachment).state attachment) := by
  have visited := onSchemas_access coherent (scan_ofListing (schemas_succeed succeeds))
  rw [Snapshot.world_remote, view_schemas coherent, firstOfEachName_entry] at visited
  rw [scanSchemas, bind_of_ok _ (run_get _), loadSchemas_state, bind_of_ok _ visited,
    bind_of_ok _ (run_get _), List.map_map]
  rfl

/-- A lookup among the tables of a schema. -/
theorem schemaGetEntry_state (leads : snapshot.resolve handle = some item)
    (succeeds : (snapshot.state attachment).TablesLoad attachment.libraries handle)
    {type : CatalogType} (served : type = .tableEntry ∨ type = .viewEntry) (name : Text) :
    schemaGetEntry (attachment.tableLoader item).loadEntries type name
        (snapshot.tablePart attachment item) =
      .ok (firstNamed (snapshot.tableListing attachment item) name)
        (snapshot.askedTablePart attachment item) := by
  rcases served with rfl | rfl
  · exact getEntry_ofListing (tables_succeed leads succeeds) name
  · exact getEntry_ofListing (tables_succeed leads succeeds) name

/-- A scan of the tables of a schema. -/
theorem schemaScan_state (leads : snapshot.resolve handle = some item)
    (succeeds : (snapshot.state attachment).TablesLoad attachment.libraries handle)
    {type : CatalogType} (served : type = .tableEntry ∨ type = .viewEntry) :
    schemaScan (attachment.tableLoader item).loadEntries type
        (snapshot.tablePart attachment item) =
      .ok (firstOfEachName (snapshot.tableListing attachment item))
        (snapshot.askedTablePart attachment item) := by
  rcases served with rfl | rfl
  · exact scan_ofListing (tables_succeed leads succeeds)
  · exact scan_ofListing (tables_succeed leads succeeds)

/-- The run ends as the snapshot does. -/
def Refines (attachment : Attachment) (run : EStateM.Result Fault CatalogState Result)
    (next : Outcome Result × Snapshot) : Prop :=
  run = finish next.1 (next.2.state attachment)

/-- An operation on a schema, by where the pointer leads. -/
theorem refines_onSchema {run : EStateM.Result Fault CatalogState Result}
    {answer : SchemaItem → Outcome Result × Snapshot}
    (dangling : snapshot.resolve handle = none →
      run = .error (.undefined .danglingEntry) (snapshot.state attachment))
    (led : ∀ item, snapshot.resolve handle = some item → Refines attachment run (answer item)) :
    Refines attachment run (snapshot.onSchema handle answer) := by
  unfold Snapshot.onSchema
  cases leads : snapshot.resolve handle with
  | none => exact dangling leads
  | some item => exact led item leads

/-- An operation that a schema rejects. -/
theorem refines_rejected {Value : Type}
    {program : SchemaEntry → EStateM Fault (SetState TableEntry) Value}
    {next : Value → EStateM Fault CatalogState Result} {exception : Exception}
    (raises : ∀ entry state, program entry state = .error (.raised exception) state) :
    Refines attachment ((onSchema handle program >>= next) (snapshot.state attachment))
      (snapshot.onSchema handle fun _ => (.error (.raised exception), snapshot)) :=
  refines_onSchema (fun lost => bind_of_error _ (onSchema_dangling lost)) fun _ leads =>
    bind_of_error _ (onSchema_rejected leads (raises _ _))

theorem schemaCreateView_rejected {info : CreateViewInfo} (direct : ¬ info.LooksUp)
    (hasTransaction : Bool) (loadEntries : EStateM Fault (SetState TableEntry) Unit)
    (schemaInternal : Bool) (state : SetState TableEntry) :
    schemaCreateView loadEntries schemaInternal hasTransaction info state =
      .error (.raised (if info.sql = [] then emptyView else viewNotCreated hasTransaction))
        state := by
  unfold schemaCreateView
  by_cases empty : info.sql = []
  · rw [if_pos empty, if_pos empty]
    rfl
  · have unconditional : ¬ (info.onConflict = .replaceOnConflict ∨
        info.onConflict = .ignoreOnConflict) := fun conflict => direct ⟨empty, conflict⟩
    rw [if_neg empty, if_neg empty, if_neg unconditional]
    cases hasTransaction with
    | true => rfl
    | false => rfl

theorem schemaCreateView_state (leads : snapshot.resolve handle = some item)
    (succeeds : (snapshot.state attachment).TablesLoad attachment.libraries handle)
    {info : CreateViewInfo} (looksUp : info.LooksUp) (hasTransaction : Bool) :
    schemaCreateView (attachment.tableLoader item).loadEntries item.internal hasTransaction info
        (snapshot.tablePart attachment item) =
      finish (info.outcome hasTransaction
          (firstNamed (snapshot.tableListing attachment item) info.viewName))
        (snapshot.askedTablePart attachment item) := by
  have looked := schemaGetEntry_state leads succeeds (Or.inr rfl) info.viewName
  unfold schemaCreateView
  rw [if_neg looksUp.1, if_pos looksUp.2, bind_of_ok _ looked]
  cases firstNamed (snapshot.tableListing attachment item) info.viewName with
  | some table =>
    by_cases ignores : info.onConflict = .ignoreOnConflict
    · simp only [CreateViewInfo.outcome, if_pos ignores]
      rfl
    · simp only [CreateViewInfo.outcome, if_neg ignores]
      rfl
  | none =>
    cases hasTransaction with
    | true => rfl
    | false => rfl

theorem cleared_state :
    (snapshot.cleared attachment).state attachment =
      { snapshot.state attachment with
        catalog := { (snapshot.state attachment).catalog with schemas := .new SchemaEntry }
        clears := snapshot.clears + 1 } := by
  have sent : (snapshot.cleared attachment).world attachment = snapshot.world attachment := by
    unfold Snapshot.world Snapshot.cleared
    rw [List.map_nil, List.append_nil]
  rw [Snapshot.state, sent]
  rfl

/-- An operation on the cache of a snapshot ends as the snapshot does. -/
theorem run_state (coherent : snapshot.Coherent) {op : Op} (served : op.Served)
    (succeeds : (snapshot.state attachment).RequestsSucceed attachment.libraries op) :
    Refines attachment (op.run attachment.libraries (snapshot.state attachment))
      (snapshot.step attachment op) := by
  cases op with
  | getSchema schemaName ifNotFound =>
    have named := getSchemaNamed_state coherent succeeds schemaName ifNotFound
    unfold Refines
    rw [Op.run, getSchema, if_neg served, run_bind, named, Snapshot.step]
    cases firstNamed (snapshot.schemaListing attachment) schemaName with
    | some item => rfl
    | none => by_cases absent : ifNotFound = .returnNull <;> simp only [absent] <;> rfl
  | scanSchemas => exact bind_of_ok _ (scanSchemas_state coherent succeeds)
  | createSchema onConflict =>
    by_cases replaces : onConflict = .replaceOnConflict
    · subst replaces
      rfl
    · unfold Refines
      rw [Op.run, createSchema, if_neg replaces, Snapshot.step, if_neg replaces]
      rfl
  | dropSchema => rfl
  | clearCache => exact congrArg (EStateM.Result.ok Result.done) cleared_state.symm
  | getEntry handle type name =>
    rw [Op.run, bind_of_ok _ (run_get _)]
    refine refines_onSchema (fun lost => bind_of_error _ (onSchema_dangling lost)) fun item leads =>
      bind_of_ok _ (onSchema_access (.ok _) leads ?_)
    exact schemaGetEntry_state leads succeeds served name
  | scan handle type =>
    rw [Op.run, bind_of_ok _ (run_get _)]
    refine refines_onSchema (fun lost => bind_of_error _ (onSchema_dangling lost)) fun item leads =>
      bind_of_ok _ (onSchema_access (.ok _) leads ?_)
    exact schemaScan_state leads succeeds served
  | createTable handle onConflict =>
    refine refines_rejected fun entry state => ?_
    by_cases replaces : onConflict = .replaceOnConflict
    · rw [schemaCreateTable, if_pos replaces, if_pos replaces]
      rfl
    · rw [schemaCreateTable, if_neg replaces, if_neg replaces]
      rfl
  | createView handle hasTransaction info =>
    rw [Op.run, bind_of_ok _ (run_get _)]
    by_cases looksUp : info.LooksUp
    · rw [Snapshot.step]
      simp only [if_pos looksUp]
      refine refines_onSchema (fun lost => bind_of_error _ (onSchema_dangling lost))
        fun item leads =>
        bind_of_finish _ (onSchema_access _ leads ?_)
      exact schemaCreateView_state leads (succeeds looksUp) looksUp hasTransaction
    · rw [Snapshot.step]
      simp only [if_neg looksUp]
      exact refines_rejected fun entry state =>
        schemaCreateView_rejected looksUp hasTransaction _ _ state
  | createRejected handle kind =>
    exact refines_onSchema (fun lost => onSchema_dangling lost) fun item leads =>
      onSchema_rejected leads rfl
  | alter handle isAlterTable =>
    refine refines_rejected fun entry state => ?_
    cases isAlterTable with
    | true | false => rfl
  | dropEntry handle type =>
    refine refines_rejected fun entry state => ?_
    cases type with
    | tableEntry | viewEntry | indexEntry | schemaEntry | other => rfl
  | serverChange remote => rfl

/-- A catalog that has just been attached has the cache of the new snapshot. -/
theorem attach_state (attachment : Attachment) (world : World) :
    (⟨world, attach attachment.name attachment.path attachment.credentials, 0⟩ : CatalogState) =
      (Snapshot.new world).state attachment := by
  show _ = (⟨⟨world.remote, world.sent ++ []⟩, _, _⟩ : CatalogState)
  rw [List.append_nil]
  rfl

/-! ### Coherence -/

theorem coherent_new (world : World) : (Snapshot.new world).Coherent where
  nested _ _ := rfl
  schemasOnce _ := List.not_mem_nil
  tablesOnce _ _ := List.not_mem_nil
  distinct := List.nodup_nil

/-- A listing that is fetched only if it was not fetched before is not fetched twice. -/
theorem nodup_fetched {fetched : List Source} {source : Source} {unfetched : Bool}
    (distinct : fetched.Nodup) (once : unfetched = true → source ∉ fetched) :
    (if unfetched then fetched ++ [source] else fetched).Nodup := by
  split
  · rename_i absent
    rw [← List.concat_eq_append]
    exact distinct.concat (once absent)
  · exact distinct

namespace Snapshot.Coherent

variable (coherent : snapshot.Coherent)

include coherent

theorem accessSchemas : (snapshot.accessSchemas attachment).Coherent where
  nested unfetched := nomatch unfetched
  schemasOnce unfetched := nomatch unfetched
  tablesOnce name unfetched := by
    show Source.tables name ∉ if _ then _ else _
    split
    · simpa using coherent.tablesOnce name unfetched
    · exact coherent.tablesOnce name unfetched
  distinct := nodup_fetched coherent.distinct fun unfetched =>
    coherent.schemasOnce (Option.isNone_iff_eq_none.mp unfetched)

theorem accessTables (item : SchemaItem) (listed : snapshot.schemas ≠ none) :
    (snapshot.accessTables attachment item).Coherent where
  nested unfetched := absurd unfetched listed
  schemasOnce unfetched := absurd unfetched listed
  tablesOnce name unfetched := by
    have listings : (if lower name = lower item.name then
        some (snapshot.tableListing attachment item) else snapshot.tables (lower name)) = none :=
      (Function.update_apply ..).symm.trans unfetched
    split_ifs at listings with same
    have differ : name ≠ item.name := fun equal => same (congrArg lower equal)
    show Source.tables name ∉ if _ then _ else _
    split
    · simpa [differ] using coherent.tablesOnce name listings
    · exact coherent.tablesOnce name listings
  distinct := nodup_fetched coherent.distinct fun unfetched =>
    coherent.tablesOnce item.name (Option.isNone_iff_eq_none.mp unfetched)

theorem onSchema {answer : SchemaItem → Outcome Result × Snapshot}
    (each : ∀ item, snapshot.schemas ≠ none → (answer item).2.Coherent) :
    (snapshot.onSchema handle answer).2.Coherent := by
  unfold Snapshot.onSchema
  cases leads : snapshot.resolve handle with
  | none => exact coherent
  | some item => exact each item (lower_of_resolve leads).2

/-- A step keeps a snapshot coherent. -/
theorem step (op : Op) : (snapshot.step attachment op).2.Coherent := by
  cases op with
  | getSchema | scanSchemas => exact coherent.accessSchemas
  | clearCache =>
    exact ⟨fun _ _ => rfl, fun _ => List.not_mem_nil, fun _ _ => List.not_mem_nil, List.nodup_nil⟩
  | getEntry | scan => exact coherent.onSchema fun item listed => coherent.accessTables item listed
  | createView =>
    refine coherent.onSchema fun item listed => ?_
    split
    · exact coherent.accessTables item listed
    · exact coherent
  | createTable | createRejected | alter | dropEntry =>
    exact coherent.onSchema fun _ _ => coherent
  | createSchema | dropSchema => exact coherent
  | serverChange =>
    exact ⟨coherent.nested, coherent.schemasOnce, coherent.tablesOnce, coherent.distinct⟩

end Snapshot.Coherent

/-! ### Runs -/

/-- The operations that would write. -/
def Op.Writes : Op → Prop
  | .createSchema _ | .dropSchema | .createTable _ _ | .createView _ _ _ | .createRejected _ _
  | .alter _ _ | .dropEntry _ _ => True
  | _ => False

/-- An operation that would write leaves the snapshot alone, but for the lookup of a view. -/
theorem step_of_writes (attachment : Attachment) (snapshot : Snapshot) {op : Op}
    (writes : op.Writes) :
    (snapshot.step attachment op).2 = snapshot ∨
      ∃ handle hasTransaction info, op = .createView handle hasTransaction info ∧ info.LooksUp ∧
        (snapshot.step attachment op).2 =
          (snapshot.step attachment (.getEntry handle .viewEntry info.viewName)).2 := by
  have unmoved (handle : SchemaHandle) (answer : Outcome Result) :
      (snapshot.onSchema handle fun _ => (answer, snapshot)).2 = snapshot := by
    unfold Snapshot.onSchema
    cases snapshot.resolve handle with
    | none => rfl
    | some item => rfl
  cases op with
  | createSchema | dropSchema => exact Or.inl rfl
  | createTable | createRejected | alter | dropEntry => exact Or.inl (unmoved _ _)
  | createView handle hasTransaction info =>
    by_cases looksUp : info.LooksUp
    · refine Or.inr ⟨handle, hasTransaction, info, rfl, looksUp, ?_⟩
      simp only [Snapshot.step, if_pos looksUp, Snapshot.onSchema]
      cases snapshot.resolve handle with
      | none => rfl
      | some item => rfl
    · refine Or.inl ?_
      simp only [Snapshot.step, if_neg looksUp]
      exact unmoved handle _
  | getSchema | scanSchemas | clearCache | getEntry | scan | serverChange => exact writes.elim

/-- The runs of a catalog that has just been attached, and of the snapshot beside it. -/
def Attachment.runs (attachment : Attachment) : System (CatalogState × Snapshot) Op where
  start pair := ∃ world,
    pair = (⟨world, attach attachment.name attachment.path attachment.credentials, 0⟩, .new world)
  step pair op next :=
    next = (after (op.run attachment.libraries pair.1), (pair.2.step attachment op).2)

/-- The operation is one the cache serves, and its requests succeed. -/
def Attachment.Permits (attachment : Attachment) (pair : CatalogState × Snapshot) (op : Op) :
    Prop :=
  op.Served ∧ pair.1.RequestsSucceed attachment.libraries op

/-- The cache of a snapshot. -/
structure Represents (attachment : Attachment) (pair : CatalogState × Snapshot) : Prop where
  state : pair.1 = pair.2.state attachment
  coherent : pair.2.Coherent

theorem represents_of_reaches {pair : CatalogState × Snapshot}
    (reached : Reaches attachment.runs attachment.Permits pair) : Represents attachment pair := by
  refine reached.invariant ?_ ?_
  · rintro _ ⟨world, rfl⟩
    exact ⟨attach_state attachment world, coherent_new world⟩
  · rintro ⟨code, model⟩ op _ ⟨represented, coherent⟩ ⟨served, succeeds⟩ rfl
    obtain rfl : code = model.state attachment := represented
    refine ⟨?_, coherent.step op⟩
    have same := run_state coherent served succeeds
    show after (op.run _ (model.state attachment)) = _
    rw [same, after_finish]

/-- In every run from an attachment the cache answers as a snapshot does and sends each request
of the snapshot once; a clear drops everything, and what would write changes nothing but what a
lookup of the view changes. -/
theorem cache_simulates_snapshot (attachment : Attachment) {code : CatalogState}
    {model : Snapshot} (reached : Reaches attachment.runs attachment.Permits (code, model)) :
    (∀ op, attachment.Permits (code, model) op →
      outcome (op.run attachment.libraries code) = (model.step attachment op).1) ∧
    (code.world.sent = model.earlier ++ model.fetched.map attachment.request ∧
      model.fetched.Nodup) ∧
    (after (Op.clearCache.run attachment.libraries code)).catalog.schemas = .new SchemaEntry ∧
    ∀ op, op.Writes → attachment.Permits (code, model) op →
      after (op.run attachment.libraries code) = code ∨
      ∃ handle hasTransaction info, op = .createView handle hasTransaction info ∧ info.LooksUp ∧
        after (op.run attachment.libraries code) =
          after ((Op.getEntry handle .viewEntry info.viewName).run attachment.libraries code) := by
  obtain ⟨rfl, coherent⟩ : code = model.state attachment ∧ model.Coherent :=
    ⟨(represents_of_reaches reached).state, (represents_of_reaches reached).coherent⟩
  have ends (op : Op) (permitted : attachment.Permits (model.state attachment, model) op) :
      op.run attachment.libraries (model.state attachment) =
        finish (model.step attachment op).1 ((model.step attachment op).2.state attachment) :=
    run_state coherent permitted.1 permitted.2
  refine ⟨fun op permitted => ?_, ⟨rfl, coherent.distinct⟩, rfl, fun op writes permitted => ?_⟩
  · rw [ends op permitted, outcome_finish]
  · rw [ends op permitted, after_finish]
    rcases step_of_writes attachment model writes with
      same | ⟨handle, hasTransaction, info, rfl, looksUp, same⟩
    · exact Or.inl (congrArg _ same)
    · refine Or.inr ⟨handle, hasTransaction, info, rfl, looksUp, ?_⟩
      rw [same, ends (.getEntry handle .viewEntry info.viewName)
        ⟨Or.inr rfl, permitted.2 looksUp⟩, after_finish]

/-- The catalog of a server with one table, attached under its own name. -/
def oneTableAttachment : Attachment :=
  ⟨oneTableLibraries, "uc".toList, "uc".toList, ⟨[], [], []⟩⟩

/-- A lookup by another spelling, after scans of the schemas and of the tables. -/
theorem cache_simulates_snapshot_oneTable : ∃ (code : CatalogState) (model : Snapshot),
    model.fetched = [.schemas, .tables "s".toList] ∧
      outcome ((Op.getEntry ⟨0, "S".toList⟩ .tableEntry "T".toList).run oneTableLibraries code) =
        (model.step oneTableAttachment (.getEntry ⟨0, "S".toList⟩ .tableEntry "T".toList)).1 := by
  have attached : Reaches oneTableAttachment.runs oneTableAttachment.Permits _ :=
    .start ⟨⟨fun _ => .body oneTableBody, []⟩, rfl⟩
  have scanned := Reaches.step attached .scanSchemas ⟨trivial, by decide +kernel⟩ rfl
  have loaded := Reaches.step scanned (.scan ⟨0, "s".toList⟩ .tableEntry)
    ⟨Or.inl rfl, by decide +kernel⟩ rfl
  exact ⟨_, _, by decide +kernel, (cache_simulates_snapshot oneTableAttachment loaded).1 _
    ⟨Or.inl rfl, by decide +kernel⟩⟩

end Refinement

end UcCatalog
