/-
This file compares the two ways to a schema: the listing, and the lookup by name.

Both read the same map, so they agree on every name that is looked up in it.
`UCCatalog::GetSchema` tests for one name before: `DEFAULT_SCHEMA`, in this
spelling only, stands for the default schema of the catalog, of which a catalog
that is attached has none. Under that name a lookup raises, also where the server
has a schema of that name. The invariant is that schemas stand under their names
and that the default schema stays empty.
-/

import UcCatalog.CachedTables

namespace UcCatalog

open Stateful Transition

/-- The schemas stand under their names, and there is no default schema. -/
structure SchemasNamed (state : CatalogState) : Prop where
  stored : Stored (fun _ => True) state.catalog.schemas.entries
  defaultSchema : state.catalog.defaultSchema = []

section Invariant

variable {libraries : Libraries} {Value : Type}

theorem keepsNamed_onSchemas {isGood : Value → Prop}
    {program : EStateM Fault (SetState SchemaEntry) Value}
    (keeps : Keeps (fun state => Stored (fun _ => True) state.set.entries) isGood program) :
    Keeps SchemasNamed isGood (onSchemas program) :=
  keeps.zoom (fun _ named => named.stored) fun _ _ named kept => ⟨kept, named.defaultSchema⟩

theorem SchemasNamed.withTablePart {state : CatalogState} (named : SchemasNamed state) (name : Text)
    (part : SetState TableEntry) : SchemasNamed (state.withTablePart name part) := by
  refine ⟨?_, named.defaultSchema⟩
  rintro ⟨bound, entry⟩ member
  rcases FoldedMap.mem_update.mp member with ⟨_, inMap⟩ | ⟨_, old, inMap, rfl⟩
  · exact named.stored _ inMap
  · exact ⟨(named.stored _ inMap).1, trivial⟩

/-- A member of a schema leaves the names of the schemas alone. -/
theorem keepsNamed_onSchema (handle : SchemaHandle)
    (program : SchemaEntry → EStateM Fault (SetState TableEntry) Value) :
    Keeps SchemasNamed (fun _ => True) (onSchema handle program) where
  returned _ _ _ _ _ := trivial
  invariant state named := by
    cases leads : state.resolve handle with
    | none =>
      rw [onSchema_of_dangling leads]
      exact named
    | some schema =>
      cases run : program schema ⟨state.world, schema.tables⟩ with
      | ok value part =>
        rw [onSchema_of_ok leads run]
        exact named.withTablePart _ _
      | error fault part =>
        rw [onSchema_of_error leads run]
        exact named.withTablePart _ _

theorem keepsNamed_run (op : Op) :
    Keeps SchemasNamed (fun _ => True) (op.run libraries) := by
  have offered (catalogName : Text) (credentials : Credentials) (remote : Request → CurlResult)
      (schema : SchemaEntry) :
      (schemaLoader libraries catalogName credentials).Offers remote schema → True :=
    fun _ => trivial
  cases op with
  | getSchema schemaName ifNotFound =>
    exact .bind (keeps_getSchema keepsNamed_onSchemas offered schemaName ifNotFound) fun _ _ =>
      .pure trivial
  | scanSchemas =>
    exact .bind (keeps_scanSchemas keepsNamed_onSchemas offered) fun _ _ => .pure trivial
  | createSchema onConflict =>
    exact .bind (keeps_createSchema keepsNamed_onSchemas onConflict) fun _ _ => .pure trivial
  | dropSchema =>
    exact .bind (keeps_dropSchema keepsNamed_onSchemas) fun _ never => never.elim
  | clearCache =>
    exact .bind (.modify fun _ named => ⟨stored_empty, named.defaultSchema⟩) fun _ _ =>
      .pure trivial
  | getEntry handle type name =>
    exact .bind .get fun _ _ => .bind (keepsNamed_onSchema handle _) fun _ _ => .pure trivial
  | scan handle type =>
    exact .bind .get fun _ _ => .bind (keepsNamed_onSchema handle _) fun _ _ => .pure trivial
  | createView handle hasTransaction info =>
    exact .bind .get fun _ _ => .bind (keepsNamed_onSchema handle _) fun _ _ => .pure trivial
  | createTable handle onConflict =>
    exact .bind (keepsNamed_onSchema handle _) fun _ _ => .pure trivial
  | createRejected handle kind => exact keepsNamed_onSchema handle _
  | alter handle isAlterTable =>
    exact .bind (keepsNamed_onSchema handle _) fun _ _ => .pure trivial
  | dropEntry handle type =>
    exact .bind (keepsNamed_onSchema handle _) fun _ _ => .pure trivial
  | serverChange remote =>
    exact .bind (.modify fun _ named => ⟨named.stored, named.defaultSchema⟩) fun _ _ =>
      .pure trivial

theorem schemasNamed_of_reaches {state : CatalogState}
    (reached : Reaches (attachedRuns libraries) (fun _ _ => True) state) : SchemasNamed state := by
  refine reached.invariant ?_ ?_
  · rintro state ⟨world, name, path, credentials, rfl⟩
    exact ⟨stored_empty, rfl⟩
  · rintro state op next named _ rfl
    exact (keepsNamed_run op).invariant state named

end Invariant

/-! ### Calls on a loaded catalog -/

section Loaded

variable (libraries : Libraries) {state : CatalogState}
  (loaded : state.catalog.schemas.isLoaded = true)

/-- The schemas a scan of a loaded catalog visits. -/
def CatalogState.visited (state : CatalogState) : List SchemaInfo :=
  state.catalog.schemas.entries.bindings.map fun binding => state.info binding.2

theorem mem_visited {state : CatalogState} {info : SchemaInfo} :
    info ∈ state.visited ↔
      ∃ bound schema, (bound, schema) ∈ state.catalog.schemas.entries.bindings ∧
        state.info schema = info := by
  unfold CatalogState.visited
  rw [List.mem_map, Prod.exists]

include loaded

theorem scanSchemas_of_loaded : scanSchemas libraries state = .ok state.visited state := by
  have part : CatalogSet.scan (state.catalog.loadSchemas libraries) state.schemaPart =
      .ok (state.catalog.schemas.entries.bindings.map Prod.snd) state.schemaPart :=
    scan_of_loaded loaded
  rw [scanSchemas, bind_of_ok _ (run_get state), bind_of_ok _ (onSchemas_of_ok _ state part),
    CatalogState.visited]
  exact congrArg (EStateM.Result.ok · state) List.map_map

theorem getSchemaNamed_of_loaded (name : Text) (ifNotFound : OnEntryNotFound) :
    getSchemaNamed libraries name ifNotFound state =
      match state.catalog.schemas.entries.find name with
      | some schema => .ok (some (state.info schema)) state
      | none =>
        if ifNotFound = .returnNull then .ok none state
        else .error (.raised ⟨.binderException,
          "Schema with name \"".toList ++ name ++ "\" not found".toList⟩) state := by
  have part : CatalogSet.getEntry (state.catalog.loadSchemas libraries) name state.schemaPart =
      .ok (state.catalog.schemas.entries.find name) state.schemaPart :=
    getEntry_of_loaded loaded name
  rw [getSchemaNamed, bind_of_ok _ (run_get state), bind_of_ok _ (onSchemas_of_ok _ state part)]
  cases state.catalog.schemas.entries.find name with
  | some schema => rfl
  | none => exact run_ite _ _ _ _

end Loaded

/-! ### Lookups and the listing -/

/-- Lookups of a name find the schema of the name that is visited, and nothing if there is none. -/
structure LookupAgrees (libraries : Libraries) (state : CatalogState) (visited : List SchemaInfo)
    (name : Text) : Prop where
  found : ∀ info ∈ visited, lower name = lower info.handle.name → ∀ ifNotFound,
    getSchema libraries name ifNotFound state = .ok (some info) state
  missing : (∀ info ∈ visited, lower name ≠ lower info.handle.name) →
    getSchema libraries name .returnNull state = .ok none state ∧
      ∃ exception, getSchema libraries name .throwException state =
        .error (.raised exception) state

section Agreement

variable {libraries : Libraries} {state : CatalogState}

theorem getSchema_of_ne {name : Text} (other : name ≠ defaultSchemaName)
    (ifNotFound : OnEntryNotFound) :
    getSchema libraries name ifNotFound state = getSchemaNamed libraries name ifNotFound state := by
  unfold getSchema
  rw [if_neg other]

theorem lookupAgrees_of_ne (named : SchemasNamed state)
    (loaded : state.catalog.schemas.isLoaded = true) {name : Text}
    (other : name ≠ defaultSchemaName) : LookupAgrees libraries state state.visited name where
  found := by
    intro info member same ifNotFound
    obtain ⟨bound, schema, inMap, rfl⟩ := mem_visited.mp member
    have bound_eq : bound = schema.name := (named.stored _ inMap).1
    have key : lower bound = lower name := (congrArg lower bound_eq).trans same.symm
    rw [getSchema_of_ne other, getSchemaNamed_of_loaded libraries loaded,
      FoldedMap.find_of_mem inMap key]
  missing := by
    intro differ
    have absent : state.catalog.schemas.entries.find name = none := by
      rw [FoldedMap.find_eq_none_iff]
      rintro ⟨bound, schema⟩ inMap same
      have bound_eq : bound = schema.name := (named.stored _ inMap).1
      exact differ (state.info schema) (mem_visited.mpr ⟨bound, schema, inMap, rfl⟩)
        (same.symm.trans (congrArg lower bound_eq))
    rw [getSchema_of_ne other, getSchema_of_ne other, getSchemaNamed_of_loaded libraries loaded,
      getSchemaNamed_of_loaded libraries loaded, absent]
    exact ⟨rfl, _, rfl⟩

/-- Without a default schema its name cannot be looked up. -/
theorem getSchema_default (named : SchemasNamed state) (ifNotFound : OnEntryNotFound) :
    getSchema libraries defaultSchemaName ifNotFound state =
      .error (.raised ⟨.invalidInputException,
        ("Attempting to fetch the default schema - but no " ++
          "database was provided in the connection string").toList⟩) state := by
  unfold getSchema
  rw [if_pos rfl, bind_of_ok _ (run_get state), if_pos named.defaultSchema]
  rfl

/-- On a loaded catalog lookups agree with the listing under every name but `DEFAULT_SCHEMA`, and
under this one they raise. -/
theorem lookups_agree (reached : Reaches (attachedRuns libraries) (fun _ _ => True) state)
    (loaded : state.catalog.schemas.isLoaded = true) :
    ∃ visited, scanSchemas libraries state = .ok visited state ∧
      (∀ name ≠ defaultSchemaName, LookupAgrees libraries state visited name) ∧
      ∀ ifNotFound, ∃ message, getSchema libraries defaultSchemaName ifNotFound state =
        .error (.raised ⟨.invalidInputException, message⟩) state := by
  have named := schemasNamed_of_reaches reached
  exact ⟨state.visited, scanSchemas_of_loaded libraries loaded,
    fun name other => lookupAgrees_of_ne named loaded other,
    fun ifNotFound => ⟨_, getSchema_default named ifNotFound⟩⟩

end Agreement

def mainSchemaBody : Text := "\x7b\"schemas\":[\x7b\"name\":\"main\"\x7d]\x7d".toList

/-- A server with a schema that is named like `DEFAULT_SCHEMA`. -/
def mainSchemaLibraries : Libraries where
  castUInt8 := castPlainNumeral
  addColumn columns column := .ok (columns ++ [column])
  yyjsonRead body :=
    if body = mainSchemaBody then
      some (.obj [("schemas".toList, .arr [.obj [("name".toList, .str "main".toList)]])])
    else none

/-- The catalog of that server behind a scan. -/
def mainSchemaState : CatalogState :=
  after (Op.run mainSchemaLibraries .scanSchemas
    ⟨⟨fun _ => .body mainSchemaBody, []⟩, attach "uc".toList "uc".toList ⟨[], [], []⟩, 0⟩)

theorem mainSchemaState_reached :
    Reaches (attachedRuns mainSchemaLibraries) (fun _ _ => True) mainSchemaState :=
  .step (.start ⟨_, _, _, _, rfl⟩) .scanSchemas trivial rfl

theorem lookups_agree_mainSchema : ∃ visited,
    scanSchemas mainSchemaLibraries mainSchemaState = .ok visited mainSchemaState ∧
      (∀ name ≠ defaultSchemaName,
        LookupAgrees mainSchemaLibraries mainSchemaState visited name) ∧
      ∀ ifNotFound, ∃ message, getSchema mainSchemaLibraries defaultSchemaName ifNotFound
        mainSchemaState = .error (.raised ⟨.invalidInputException, message⟩) mainSchemaState :=
  lookups_agree mainSchemaState_reached rfl

/-- The schema that is visited is not found under its name. -/
theorem lookups_disagree_mainSchema :
    ¬ ∀ (libraries : Libraries) (state : CatalogState),
      Reaches (attachedRuns libraries) (fun _ _ => True) state →
      state.catalog.schemas.isLoaded = true →
      ∃ visited, scanSchemas libraries state = .ok visited state ∧
        ∀ name, LookupAgrees libraries state visited name := by
  intro agree
  obtain ⟨visited, scanned, found⟩ := agree mainSchemaLibraries mainSchemaState
    mainSchemaState_reached rfl
  have visitedMain : scanSchemas mainSchemaLibraries mainSchemaState =
      .ok [⟨⟨0, "main".toList⟩, false, some ⟨"main".toList, "uc".toList⟩⟩] mainSchemaState := rfl
  cases scanned.symm.trans visitedMain
  exact nomatch (found "main".toList).found _ (.head _) rfl .returnNull

end UcCatalog
