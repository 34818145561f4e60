/-
This file is the representation invariant of the cached tables: every table of
every schema stands under its own name, carries the data it was built from and
has the columns that data describes. Loads are the only way a table gets into a
set, since `RefreshTable`, which would create one without data, always raises;
and a load that stops midway has created good tables only.

The invariant is one about every table of a set (`Stored`). It survives each
program on a set by the rules of `Keeps`, and a program on one schema of the
catalog because it leaves the name and the flag of the schema alone.
-/

import UcCatalog.Operations
import UcCatalog.ScanFunction
import UcCatalog.Transition

namespace UcCatalog

open Stateful Transition

/-! ### Sets of good entries -/

section Set

variable {Entry Item : Type} [CatalogEntry Entry]

/-- Every entry is good and stands under its name. -/
def Stored (good : Entry → Prop) (entries : FoldedMap lower Entry) : Prop :=
  ∀ binding ∈ entries.bindings, binding.1 = CatalogEntry.name binding.2 ∧ good binding.2

variable {good : Entry → Prop}

theorem stored_empty : Stored good (.empty lower Entry) :=
  fun _ member => absurd member List.not_mem_nil

theorem Stored.insertEntries {entries : FoldedMap lower Entry} (stored : Stored good entries)
    {created : List Entry} (all : ∀ entry ∈ created, good entry) :
    Stored good (insertEntries entries created) := by
  rintro ⟨bound, entry⟩ member
  rcases FoldedMap.mem_insertAll _ member with inMap | ⟨inCreated, named⟩
  · exact stored _ inMap
  · exact ⟨named, all entry inCreated⟩

/-- Loads of a loader that offers good entries only keep a set good, wherever they stop. -/
theorem keeps_loadEntries {loader : Loader Item Entry}
    (offered : ∀ remote entry, loader.Offers remote entry → good entry) :
    Keeps (fun state => Stored good state.set.entries) (fun _ => True) loader.loadEntries where
  returned _ _ _ _ _ := trivial
  invariant state stored := by
    cases listed : loader.listed state.world.remote with
    | ok created =>
      rw [Loader.loadEntries_of_ok state listed]
      exact stored.insertEntries fun entry member =>
        offered _ _ (Loader.offers_of_listed listed entry member)
    | error fault =>
      obtain ⟨created, offers, stopped⟩ := Loader.loadEntries_of_error state listed
      rw [stopped]
      exact stored.insertEntries fun entry member => offered _ _ (offers entry member)

variable {loadEntries : EStateM Fault (SetState Entry) Unit}

theorem keeps_ensureLoaded
    (keeps : Keeps (fun state => Stored good state.set.entries) (fun _ => True) loadEntries) :
    Keeps (fun state => Stored good state.set.entries) (fun _ => True)
      (ensureLoaded loadEntries) := by
  refine .bind .get fun state _ => ?_
  split
  · exact .bind (.modify fun _ stored => stored) fun _ _ => keeps
  · exact .pure trivial

theorem keeps_getEntry (name : Text)
    (keeps : Keeps (fun state => Stored good state.set.entries) (fun _ => True) loadEntries) :
    Keeps (fun state => Stored good state.set.entries) (fun found => ∀ entry ∈ found, good entry)
      (CatalogSet.getEntry loadEntries name) := by
  refine .bind (keeps_ensureLoaded keeps) fun _ _ => .bind .get fun state stored => .pure ?_
  intro entry found
  obtain ⟨bound, member, _⟩ := FoldedMap.exists_of_find found
  exact (stored _ member).2

theorem keeps_scan
    (keeps : Keeps (fun state => Stored good state.set.entries) (fun _ => True) loadEntries) :
    Keeps (fun state => Stored good state.set.entries)
      (fun visited => ∀ entry ∈ visited, good entry)
      (CatalogSet.scan loadEntries) := by
  refine .bind (keeps_ensureLoaded keeps) fun _ _ => .bind .get fun state stored => .pure ?_
  intro entry member
  obtain ⟨binding, inMap, rfl⟩ := List.mem_map.mp member
  exact (stored _ inMap).2

end Set

/-! ### Tables that are built from a reply -/

/-- `AddColumn` appends the column or raises. -/
def Libraries.Appends (libraries : Libraries) : Prop :=
  ∀ columns column added, libraries.addColumn columns column = .ok added →
    added = columns ++ [column]

/-- The column is the one the definition describes. -/
def Describes (libraries : Libraries) (column : ColumnDefinition)
    (coldef : APIColumnDefinition) : Prop :=
  column.name = coldef.name ∧
    typeToLogicalType libraries.castUInt8 coldef.typeText = .ok column.type

/-- What is kept about a table of a schema. -/
structure TableKept (libraries : Libraries) (schemaName : Text) (schemaInternal : Bool)
    (table : TableEntry) : Prop where
  named : table.name ≠ []
  data : ∃ data, table.tableData = some data ∧ data.name = table.name ∧
    data.schemaName = schemaName ∧
      List.Forall₂ (Describes libraries) table.columns data.columns
  internal : table.internal = schemaInternal

section Tables

variable {libraries : Libraries}

theorem addColumns_describes (appends : libraries.Appends) {coldefs : List APIColumnDefinition}
    {columns done : List ColumnDefinition} {before : List APIColumnDefinition}
    (added : addColumns libraries done coldefs = .ok columns)
    (described : List.Forall₂ (Describes libraries) done before) :
    List.Forall₂ (Describes libraries) columns (before ++ coldefs) := by
  induction coldefs generalizing done before with
  | nil =>
    cases added
    rwa [List.append_nil]
  | cons coldef coldefs inductionHypothesis =>
    obtain ⟨column, created, rest⟩ := (Outcome.bind_eq_ok _ _ _).mp added
    obtain ⟨type, parsed, same⟩ := (Outcome.bind_eq_ok _ _ _).mp created
    cases same
    obtain ⟨extended, appended, others⟩ := (Outcome.bind_eq_ok _ _ _).mp rest
    obtain rfl := appends _ _ _ ((Outcome.ofExcept_eq_ok _ _).mp appended)
    have next := inductionHypothesis others
      (List.rel_append described
        (.cons (show Describes libraries _ coldef from ⟨rfl, parsed⟩) .nil))
    rwa [List.append_assoc, List.singleton_append] at next

/-- The tables a reply offers to a schema are good tables of it. -/
theorem tableKept_of_offers (appends : libraries.Appends) {dbPath schemaName : Text}
    {credentials : Credentials} {schemaInternal : Bool} {remote : Request → CurlResult}
    {table : TableEntry} (offers : (tableLoader libraries dbPath credentials schemaName
      schemaInternal).Offers remote table) :
    TableKept libraries schemaName schemaInternal table := by
  have named := offers.named
  obtain ⟨items, data, replied, member, built⟩ := offers
  obtain ⟨apiResult, _, decoded⟩ := (Outcome.bind_eq_ok _ _ _).mp replied
  obtain ⟨json, _, parsed⟩ := exists_of_returned ((Outcome.ofExcept_eq_ok _ _).mp decoded) member
  obtain ⟨fresh, made, rfl, _⟩ := Loader.entryOf_eq_ok built
  obtain ⟨columns, added, same⟩ := (Outcome.bind_eq_ok _ _ _).mp made
  cases same
  exact ⟨named, ⟨data, rfl, rfl, (parsedAs_of_parseTable parsed).schemaName,
    addColumns_describes appends added .nil⟩, rfl⟩

/-- What is kept about a schema: its tables are good tables of it. -/
def SchemaKept (libraries : Libraries) (schema : SchemaEntry) : Prop :=
  Stored (TableKept libraries schema.name schema.internal) schema.tables.entries

theorem schemaKept_of_offers {catalogName : Text} {credentials : Credentials}
    {remote : Request → CurlResult} {schema : SchemaEntry}
    (offers : (schemaLoader libraries catalogName credentials).Offers remote schema) :
    SchemaKept libraries schema := by
  obtain ⟨_, _, _, _, built⟩ := offers
  obtain ⟨fresh, made, rfl, _⟩ := Loader.entryOf_eq_ok built
  cases made
  exact stored_empty

/-! ### Members of a schema -/

section Schema

variable {good : TableEntry → Prop} {loadEntries : EStateM Fault (SetState TableEntry) Unit}

theorem keeps_getCatalogSet (type : CatalogType) :
    Keeps (fun state : SetState TableEntry => Stored good state.set.entries) (fun _ => True)
      (getCatalogSet type) := by
  cases type with
  | tableEntry | viewEntry => exact .pure trivial
  | indexEntry | schemaEntry | other => exact .throw _

theorem keeps_schemaGetEntry (type : CatalogType) (name : Text)
    (keeps : Keeps (fun state => Stored good state.set.entries) (fun _ => True) loadEntries) :
    Keeps (fun state => Stored good state.set.entries) (fun found => ∀ entry ∈ found, good entry)
      (schemaGetEntry loadEntries type name) := by
  unfold schemaGetEntry
  split
  · exact .pure fun entry found => nomatch found
  · exact .bind (keeps_getCatalogSet type) fun _ _ => keeps_getEntry name keeps

theorem keeps_schemaScan (type : CatalogType)
    (keeps : Keeps (fun state => Stored good state.set.entries) (fun _ => True) loadEntries) :
    Keeps (fun state => Stored good state.set.entries)
      (fun visited => ∀ entry ∈ visited, good entry)
      (schemaScan loadEntries type) := by
  unfold schemaScan
  split
  · exact .pure fun entry member => absurd member List.not_mem_nil
  · exact .bind (keeps_getCatalogSet type) fun _ _ => keeps_scan keeps

/-- `RefreshTable` never creates its entry. -/
theorem keeps_refreshTable (schemaInternal : Bool) (tableName : Text) :
    Keeps (fun state => Stored good state.set.entries) good
      (refreshTable schemaInternal tableName) := by
  have raises : Keeps (fun state : SetState TableEntry => Stored good state.set.entries)
      (fun _ => False) (Stateful.lift (getTableInfo tableName)) :=
    .lift fun _ returned => nomatch returned
  exact .bind raises fun _ never => never.elim

theorem keeps_schemaCreateView (schemaInternal hasTransaction : Bool) (info : CreateViewInfo)
    (keeps : Keeps (fun state => Stored good state.set.entries) (fun _ => True) loadEntries) :
    Keeps (fun state => Stored good state.set.entries) good
      (schemaCreateView loadEntries schemaInternal hasTransaction info) := by
  have transaction : Keeps (fun state : SetState TableEntry => Stored good state.set.entries)
      (fun _ => True) (getUCTransaction hasTransaction) := by
    unfold getUCTransaction
    split
    · exact .pure trivial
    · exact .throw _
  have create : Keeps (fun state => Stored good state.set.entries) good
      (getUCTransaction hasTransaction >>= fun _ => refreshTable schemaInternal info.viewName) :=
    .bind transaction fun _ _ => keeps_refreshTable _ _
  unfold schemaCreateView
  split
  · exact .throw _
  · show Keeps _ _ (if _ then _ else _)
    split
    · refine .bind (keeps_schemaGetEntry _ _ keeps) fun found goodFound => ?_
      cases found with
      | none => exact create
      | some entry =>
        show Keeps _ _ (if _ then _ else _)
        split
        · exact .pure (goodFound entry rfl)
        · exact .throw _
    · exact create

/-! The members below raise, whatever they are called with. -/

theorem keeps_schemaCreateTable (onConflict : OnCreateConflict) :
    Keeps (fun state => Stored good state.set.entries) (fun _ => False)
      (schemaCreateTable onConflict) := by
  unfold schemaCreateTable
  split
  · exact .throw _
  · exact .throw _

theorem keeps_schemaAlter (isAlterTable : Bool) :
    Keeps (fun state => Stored good state.set.entries) (fun _ => False)
      (schemaAlter isAlterTable) := by
  unfold schemaAlter
  split
  · exact .throw _
  · exact .throw _

theorem keeps_schemaDropEntry (type : CatalogType) :
    Keeps (fun state => Stored good state.set.entries) (fun _ => False) (schemaDropEntry type) :=
  .bind (keeps_getCatalogSet type) fun _ _ => .throw _

end Schema

/-! ### Operations on the catalog -/

/-- The schemas of the catalog are good. -/
def StateKept (libraries : Libraries) (state : CatalogState) : Prop :=
  Stored (SchemaKept libraries) state.catalog.schemas.entries

theorem StateKept.withTablePart {state : CatalogState} (kept : StateKept libraries state)
    {name : Text} {schema : SchemaEntry}
    (found : state.catalog.schemas.entries.find name = some schema) {part : SetState TableEntry}
    (good : Stored (TableKept libraries schema.name schema.internal) part.set.entries) :
    StateKept libraries (state.withTablePart name part) := by
  rintro ⟨bound, entry⟩ member
  rcases FoldedMap.mem_update.mp member with ⟨_, inMap⟩ | ⟨here, old, inMap, rfl⟩
  · exact kept _ inMap
  · -- the entry that is changed is the one that was found under the same key
    obtain rfl : old = schema :=
      Option.some.inj ((FoldedMap.find_of_mem inMap here).symm.trans found)
    exact ⟨(kept _ inMap).1, good⟩

theorem keeps_onSchemas {Value : Type} {good : Value → Prop}
    {program : EStateM Fault (SetState SchemaEntry) Value}
    (keeps : Keeps (fun state => Stored (SchemaKept libraries) state.set.entries) good program) :
    Keeps (StateKept libraries) good (onSchemas program) :=
  keeps.zoom (fun _ kept => kept) fun _ _ _ kept => kept

/-- A member of a schema that keeps its tables good keeps the catalog good. -/
theorem keeps_onSchema {Value : Type} {good : Value → Prop} (handle : SchemaHandle)
    {program : SchemaEntry → EStateM Fault (SetState TableEntry) Value}
    (keeps : ∀ schema, Keeps
      (fun state => Stored (TableKept libraries schema.name schema.internal) state.set.entries)
      good (program schema)) :
    Keeps (StateKept libraries) good (onSchema handle program) := by
  have resolved {state : CatalogState} {schema : SchemaEntry}
      (leads : state.resolve handle = some schema) (kept : StateKept libraries state) :
      Stored (TableKept libraries schema.name schema.internal) schema.tables.entries ∧
        state.catalog.schemas.entries.find handle.name = some schema := by
    unfold CatalogState.resolve at leads
    split_ifs at leads
    obtain ⟨bound, member, _⟩ := FoldedMap.exists_of_find leads
    exact ⟨(kept _ member).2, leads⟩
  constructor
  · intro state kept
    cases leads : state.resolve handle with
    | none =>
      rw [onSchema_of_dangling leads]
      exact kept
    | some schema =>
      obtain ⟨tables, found⟩ := resolved leads kept
      have reached := (keeps schema).invariant ⟨state.world, schema.tables⟩ tables
      cases run : program schema ⟨state.world, schema.tables⟩ with
      | ok value part =>
        rw [run] at reached
        rw [onSchema_of_ok leads run]
        exact kept.withTablePart found reached
      | error fault part =>
        rw [run] at reached
        rw [onSchema_of_error leads run]
        exact kept.withTablePart found reached
  · intro state value final kept same
    cases leads : state.resolve handle with
    | none =>
      rw [onSchema_of_dangling leads] at same
      cases same
    | some schema =>
      obtain ⟨tables, _⟩ := resolved leads kept
      cases run : program schema ⟨state.world, schema.tables⟩ with
      | ok other part =>
        rw [onSchema_of_ok leads run] at same
        cases same
        exact (keeps schema).returned _ _ _ tables run
      | error fault part =>
        rw [onSchema_of_error leads run] at same
        cases same

section Members

/-! The members of the catalog keep what a program on its set of schemas keeps, when that has to do
with the schemas a load offers. -/

variable {good : SchemaEntry → Prop} {holds : CatalogState → Prop}
  (onSet : ∀ {Value : Type} {isGood : Value → Prop}
    {program : EStateM Fault (SetState SchemaEntry) Value},
    Keeps (fun state => Stored good state.set.entries) isGood program →
      Keeps holds isGood (onSchemas program))
  (offered : ∀ catalogName credentials remote schema,
    (schemaLoader libraries catalogName credentials).Offers remote schema → good schema)

include offered in
theorem keeps_loadSchemas (catalog : Catalog) :
    Keeps (fun state => Stored good state.set.entries) (fun _ => True)
      (catalog.loadSchemas libraries) :=
  keeps_loadEntries fun remote schema => offered catalog.name catalog.credentials remote schema

include onSet

theorem keeps_dropSchema : Keeps holds (fun _ => False) dropSchema := onSet (.throw _)

theorem keeps_createSchema (onConflict : OnCreateConflict) :
    Keeps holds (fun _ => True) (createSchema onConflict) := by
  unfold createSchema
  split
  · exact .bind (keeps_dropSchema onSet) fun _ never => never.elim
  · exact onSet (.throw _)

include offered

theorem keeps_getSchemaNamed (schemaName : Text) (ifNotFound : OnEntryNotFound) :
    Keeps holds (fun _ => True) (getSchemaNamed libraries schemaName ifNotFound) := by
  refine .bind .get fun state _ =>
    .bind (onSet (keeps_getEntry schemaName (keeps_loadSchemas offered state.catalog)))
      fun found _ => ?_
  cases found with
  | some schema => exact .bind .get fun _ _ => .pure trivial
  | none =>
    show Keeps _ _ (if _ then _ else _)
    split
    · exact .pure trivial
    · exact .throw _

theorem keeps_getSchema (schemaName : Text) (ifNotFound : OnEntryNotFound) :
    Keeps holds (fun _ => True) (getSchema libraries schemaName ifNotFound) := by
  unfold getSchema
  split
  · refine .bind .get fun state _ => ?_
    show Keeps _ _ (if _ then _ else _)
    split
    · exact .throw _
    · split
      · exact .throw _
      · exact keeps_getSchemaNamed onSet offered _ _
  · exact keeps_getSchemaNamed onSet offered _ _

theorem keeps_scanSchemas : Keeps holds (fun _ => True) (scanSchemas libraries) :=
  .bind .get fun state _ =>
    .bind (onSet (keeps_scan (keeps_loadSchemas offered state.catalog))) fun _ _ =>
      .bind .get fun _ _ => .pure trivial

end Members

theorem keeps_loadTables (appends : libraries.Appends) (catalog : Catalog) (schema : SchemaEntry) :
    Keeps (fun state => Stored (TableKept libraries schema.name schema.internal) state.set.entries)
      (fun _ => True) (catalog.loadTables libraries schema) :=
  keeps_loadEntries fun _ _ offers => tableKept_of_offers appends offers

/-- The table is one the operation answers with. -/
def Result.Holds (table : TableEntry) : Result → Prop
  | .table found => table ∈ found
  | .tables visited => table ∈ visited
  | _ => False

/-- Every table of an answer has its data. -/
def Result.Present (result : Result) : Prop :=
  ∀ table, result.Holds table → table.tableData ≠ none

theorem TableKept.present {schemaName : Text} {schemaInternal : Bool} {table : TableEntry}
    (kept : TableKept libraries schemaName schemaInternal table) : table.tableData ≠ none := by
  obtain ⟨data, present, _⟩ := kept.data
  rw [present]
  exact Option.some_ne_none data

/-- Every operation keeps the catalog good, and tables it answers with have their data. -/
theorem keeps_run (appends : libraries.Appends) (op : Op) :
    Keeps (StateKept libraries) Result.Present (op.run libraries) := by
  have offered (catalogName : Text) (credentials : Credentials) (remote : Request → CurlResult)
      (schema : SchemaEntry) :
      (schemaLoader libraries catalogName credentials).Offers remote schema →
        SchemaKept libraries schema := schemaKept_of_offers
  cases op with
  | getSchema schemaName ifNotFound =>
    exact .bind (keeps_getSchema keeps_onSchemas offered schemaName ifNotFound) fun _ _ =>
      .pure fun _ => False.elim
  | scanSchemas =>
    exact .bind (keeps_scanSchemas keeps_onSchemas offered) fun _ _ => .pure fun _ => False.elim
  | createSchema onConflict =>
    exact .bind (keeps_createSchema keeps_onSchemas onConflict) fun _ _ => .pure fun _ => False.elim
  | dropSchema => exact .bind (keeps_dropSchema keeps_onSchemas) fun _ never => never.elim
  | clearCache => exact .bind (.modify fun _ _ => stored_empty) fun _ _ => .pure fun _ => False.elim
  | getEntry handle type name =>
    refine .bind .get fun state _ => .bind (keeps_onSchema handle fun schema =>
      (keeps_schemaGetEntry type name (keeps_loadTables appends state.catalog schema)).weaken
        fun found good entry inFound => (good entry inFound).present)
        fun found present => .pure present
  | scan handle type =>
    refine .bind .get fun state _ => .bind (keeps_onSchema handle fun schema =>
      (keeps_schemaScan type (keeps_loadTables appends state.catalog schema)).weaken
        fun visited good entry member => (good entry member).present) fun visited present =>
      .pure present
  | createTable handle onConflict =>
    exact .bind (keeps_onSchema handle fun _ => keeps_schemaCreateTable onConflict) fun _ never =>
      never.elim
  | createView handle hasTransaction info =>
    refine .bind .get fun state _ => .bind (keeps_onSchema handle fun schema =>
      (keeps_schemaCreateView schema.internal hasTransaction info
        (keeps_loadTables appends state.catalog schema)).weaken fun table good => good.present)
      fun table present => .pure ?_
    rintro _ ⟨⟩
    exact present
  | createRejected handle kind =>
    exact keeps_onSchema handle fun _ => .throw _
  | alter handle isAlterTable =>
    exact .bind (keeps_onSchema handle fun _ => keeps_schemaAlter isAlterTable) fun _ never =>
      never.elim
  | dropEntry handle type =>
    exact .bind (keeps_onSchema handle fun _ => keeps_schemaDropEntry type) fun _ never =>
      never.elim
  | serverChange remote =>
    exact .bind (.modify fun _ kept => kept) fun _ _ => .pure fun _ => False.elim

/-! ### Runs -/

/-- The runs of operations on a catalog that has just been attached, from any server. -/
def attachedRuns (libraries : Libraries) : System CatalogState Op where
  start state := ∃ world name path credentials,
    state = { world, catalog := attach name path credentials, clears := 0 }
  step state op next := next = after (op.run libraries state)

theorem stateKept_of_reaches (appends : libraries.Appends) {state : CatalogState}
    (reached : Reaches (attachedRuns libraries) (fun _ _ => True) state) :
    StateKept libraries state := by
  refine reached.invariant ?_ ?_
  · rintro state ⟨world, name, path, credentials, rfl⟩
    exact stored_empty
  · rintro state op next kept _ rfl
    exact (keeps_run appends op).invariant state kept

/-- What holds of the tables cached for a schema. -/
structure TablesRepresented (libraries : Libraries) (schema : SchemaEntry) : Prop where
  keyed : ∀ binding ∈ schema.tables.entries.bindings, lower binding.2.name = lower binding.1
  apart : schema.tables.entries.bindings.Pairwise fun one other =>
    lower one.2.name ≠ lower other.2.name
  tables : ∀ binding ∈ schema.tables.entries.bindings,
    TableKept libraries schema.name schema.internal binding.2

theorem SchemaKept.represented {schema : SchemaEntry} (kept : SchemaKept libraries schema) :
    TablesRepresented libraries schema where
  keyed binding member := congrArg lower (kept binding member).1.symm
  apart := by
    refine (List.pairwise_map.mp schema.tables.entries.distinct).imp_of_mem ?_
    intro one other oneMember otherMember differ
    rwa [(kept one oneMember).1, (kept other otherMember).1] at differ
  tables binding member := (kept binding member).2

/-- In every state a run reaches, also behind loads that raised midway, the cached tables are
represented as they should be, and no table an operation answers with makes a scan look for data
that is not there. -/
theorem cachedTables_haveData (appends : libraries.Appends) {state : CatalogState}
    (reached : Reaches (attachedRuns libraries) (fun _ _ => True) state) :
    (∀ binding ∈ state.catalog.schemas.entries.bindings, TablesRepresented libraries binding.2) ∧
    ∀ (op : Op) (result : Result) (next : CatalogState), op.run libraries state = .ok result next →
      ∀ table, result.Holds table → ∀ (Secrets BindData : Type)
        (scanLibraries : ScanLibraries Secrets BindData) (credentials : Credentials),
        FailsBy Fault.IsRaised (getScanFunction scanLibraries table credentials) := by
  have kept := stateKept_of_reaches appends reached
  refine ⟨fun binding member => (kept binding member).2.represented, ?_⟩
  intro op result next returned table holds _ _ scanLibraries credentials
  have present := (keeps_run appends op).returned state result next kept returned table holds
  exact getScanFunction_raises present credentials

/-- A reply with one schema and one table: the listings of both kinds are read from it. -/
def oneTableBody : Text :=
  ["\x7b\"schemas\":[\x7b\"name\":\"s\"\x7d],", "\"tables\":[\x7b\"name\":\"t\",",
    "\"table_type\":\"MANAGED\",", "\"table_id\":\"1\",", "\"columns\":[\x7b\"name\":\"x\",",
    "\"type_text\":\"int\",", "\"type_precision\":0,", "\"type_scale\":0,", "\"position\":0",
    "\x7d]\x7d]\x7d"].flatMap String.toList

def oneTableReply : Json :=
  .obj [("schemas".toList, .arr [.obj [("name".toList, .str "s".toList)]]),
    ("tables".toList, .arr [.obj [("name".toList, .str "t".toList),
      ("table_type".toList, .str "MANAGED".toList), ("table_id".toList, .str "1".toList),
      ("columns".toList, .arr [.obj [("name".toList, .str "x".toList),
        ("type_text".toList, .str "int".toList), ("type_precision".toList, .uint 0),
        ("type_scale".toList, .uint 0), ("position".toList, .uint 0)]])]])]

def oneTableLibraries : Libraries where
  castUInt8 := castPlainNumeral
  addColumn columns column := .ok (columns ++ [column])
  yyjsonRead body := if body = oneTableBody then some oneTableReply else none

theorem cachedTables_haveData_oneTable : ∃ state : CatalogState,
    (state.catalog.schemas.entries.bindings.map fun binding =>
      (binding.1, binding.2.tables.entries.bindings.map Prod.fst)) =
        [("s".toList, ["t".toList])] ∧
    ∀ binding ∈ state.catalog.schemas.entries.bindings,
      TablesRepresented oneTableLibraries binding.2 := by
  have appends : oneTableLibraries.Appends := by
    rintro columns column _ ⟨⟩
    rfl
  let start : CatalogState :=
    ⟨⟨fun _ => .body oneTableBody, []⟩, attach "uc".toList "uc".toList ⟨[], [], []⟩, 0⟩
  have attached : Reaches (attachedRuns oneTableLibraries) (fun _ _ => True) start :=
    .start ⟨_, _, _, _, rfl⟩
  have scanned := Reaches.step attached .scanSchemas trivial rfl
  have loaded := Reaches.step scanned (.scan ⟨0, "s".toList⟩ .tableEntry) trivial rfl
  exact ⟨_, by decide +kernel, (cachedTables_haveData appends loaded).1⟩

end Tables

end UcCatalog
