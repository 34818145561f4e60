/-
This file is a catalog with clients that use it at the same time: the set of its
schemas, and for every schema on the heap the set of its tables. A client that has
looked up schemas has pointers to them, and calls on the tables of a schema through
one. `ClearCache` clears the set of the schemas and so frees them with their tables,
whoever has pointers to them.

When the cache is cleared only while nobody has a pointer, the catalog is no more
than its sets: each of them, of either level, takes a run of its own, so that what
holds of the clients of one set holds at both levels, and no client uses a schema
that has been freed.
-/

import UcCatalog.ConcurrentGuarantees

namespace UcCatalog

open Transition

/-- A schema entry on the heap. -/
structure SchemaObject where
  address : Nat
  name : Text

instance : CatalogEntry SchemaObject := ⟨SchemaObject.name⟩

/-- Where a client is: at the schemas, or in a call on the tables of the schema at an address. A
client is lost when there is no schema at that address. -/
inductive Position where
  | outside
  | within (address : Nat)
  | lost

/-- The set of the schemas, the sets of the tables of the schemas there are, and the pointers the
clients have. -/
structure SharedCatalog (Client Entry : Type) where
  schemas : SharedState Client SchemaObject
  tables : Nat → Option (SharedState Client Entry)
  held : Client → List Nat
  position : Client → Position

inductive CatalogAction (Client Entry : Type) where
  | schemas (action : SharedAction Client SchemaObject)
  | enter (client : Client) (address : Nat)
  | tables (client : Client) (action : SharedAction Client Entry)
  | leave (client : Client)
  | forget (client : Client)

section Actions

variable {Client Entry : Type}

/-- A step of this client in a call, before anything is created or read. -/
def SharedAction.isPlainBy (client : Client) : SharedAction Client Entry → Prop
  | .begin other _ | .test other | .send other | .receive other _ | .fail other => other = client
  | .create _ | .read _ | .clear => False

/-- A step of this client in a call. -/
def SharedAction.isBy (client : Client) : SharedAction Client Entry → Prop
  | .create other | .read other => other = client
  | action => action.isPlainBy client

/-- The addresses of the schemas the set owns. -/
def SharedCatalog.owned (catalog : SharedCatalog Client Entry) : List Nat :=
  catalog.schemas.entries.bindings.map fun binding => binding.2.entry.address

/-- The heap after `CreateEntry` was called on a new schema: an entry that is not inserted is freed
at once. -/
def SharedCatalog.created (catalog : SharedCatalog Client Entry) (object : SchemaObject) :
    Nat → Option (SharedState Client Entry) :=
  if object.name ≠ [] ∧ catalog.schemas.entries.find object.name = none then
    Function.update catalog.tables object.address (some (.initial Client Entry))
  else catalog.tables

end Actions

section Clients

variable {Client Entry : Type} [DecidableEq Client] [CatalogEntry Entry]

inductive CatalogStep : SharedCatalog Client Entry → CatalogAction Client Entry →
    SharedCatalog Client Entry → Prop
  | schemas (catalog : SharedCatalog Client Entry) (client : Client)
      (action : SharedAction Client SchemaObject) (next : SharedState Client SchemaObject)
      (outside : catalog.position client = .outside) (acts : action.isPlainBy client)
      (steps : SharedStep catalog.schemas action next) :
      CatalogStep catalog (.schemas action) { catalog with schemas := next }
  | create (catalog : SharedCatalog Client Entry) (client : Client) (call : Call)
      (begun sentAt : Nat) (object : SchemaObject) (rest : List SchemaObject)
      (next : SharedState Client SchemaObject) (outside : catalog.position client = .outside)
      (here : catalog.schemas.phase client = .creating call begun sentAt object rest)
      (unused : catalog.tables object.address = none)
      (steps : SharedStep catalog.schemas (.create client) next) :
      CatalogStep catalog (.schemas (.create client))
        { catalog with schemas := next, tables := catalog.created object }
  | read (catalog : SharedCatalog Client Entry) (client : Client) (call : Call) (begun : Nat)
      (answer : Answer (Stamped SchemaObject)) (next : SharedState Client SchemaObject)
      (outside : catalog.position client = .outside)
      (steps : SharedStep catalog.schemas (.read client) next)
      (returned : next.phase client = .returned call begun answer) :
      CatalogStep catalog (.schemas (.read client))
        { catalog with
          schemas := next
          held := Function.update catalog.held client
            (catalog.held client ++ answer.entries.map fun seen => seen.entry.address) }
  | enter (catalog : SharedCatalog Client Entry) (client : Client) (address : Nat)
      (outside : catalog.position client = .outside)
      (free : (catalog.schemas.phase client).isFree) (pointer : address ∈ catalog.held client) :
      CatalogStep catalog (.enter client address)
        { catalog with position := Function.update catalog.position client (.within address) }
  | tables (catalog : SharedCatalog Client Entry) (client : Client) (address : Nat)
      (action : SharedAction Client Entry) (set next : SharedState Client Entry)
      (here : catalog.position client = .within address) (live : catalog.tables address = some set)
      (acts : action.isBy client) (steps : SharedStep set action next) :
      CatalogStep catalog (.tables client action)
        { catalog with tables := Function.update catalog.tables address (some next) }
  | tablesFreed (catalog : SharedCatalog Client Entry) (client : Client) (address : Nat)
      (action : SharedAction Client Entry) (here : catalog.position client = .within address)
      (freed : catalog.tables address = none) (acts : action.isBy client) :
      CatalogStep catalog (.tables client action)
        { catalog with position := Function.update catalog.position client .lost }
  | leave (catalog : SharedCatalog Client Entry) (client : Client) (address : Nat)
      (set : SharedState Client Entry) (here : catalog.position client = .within address)
      (live : catalog.tables address = some set) (free : (set.phase client).isFree) :
      CatalogStep catalog (.leave client)
        { catalog with position := Function.update catalog.position client .outside }
  | forget (catalog : SharedCatalog Client Entry) (client : Client)
      (outside : catalog.position client = .outside) :
      CatalogStep catalog (.forget client)
        { catalog with held := Function.update catalog.held client [] }
  | clear (catalog : SharedCatalog Client Entry) (next : SharedState Client SchemaObject)
      (steps : SharedStep catalog.schemas .clear next) :
      CatalogStep catalog (.schemas .clear)
        { catalog with
          schemas := next
          tables := fun address =>
            if address ∈ catalog.owned then none else catalog.tables address }

/-- A catalog that has just been attached. -/
def SharedCatalog.initial (Client Entry : Type) : SharedCatalog Client Entry where
  schemas := .initial Client SchemaObject
  tables _ := none
  held _ := []
  position _ := .outside

/-- Clients using one catalog. -/
def sharedCatalogs (Client Entry : Type) [DecidableEq Client] [CatalogEntry Entry] :
    System (SharedCatalog Client Entry) (CatalogAction Client Entry) where
  start catalog := catalog = .initial Client Entry
  step := CatalogStep

/-- A step that is allowed in the set it is about, and is no clear while a client has pointers. -/
def Quiescent (allowedSchemas : SharedState Client SchemaObject →
      SharedAction Client SchemaObject → Prop)
    (allowedTables : SharedState Client Entry → SharedAction Client Entry → Prop)
    (catalog : SharedCatalog Client Entry) : CatalogAction Client Entry → Prop
  | .schemas action => allowedSchemas catalog.schemas action ∧
    (action = .clear → ∀ client, catalog.held client = [])
  | .tables client action => ∀ address set, catalog.position client = .within address →
    catalog.tables address = some set → allowedTables set action
  | .enter _ _ | .leave _ | .forget _ => True

/-! ### The catalog and its sets -/

/-- A client in a call on tables has a pointer to their schema, and no client is lost. -/
def Position.IsBacked (held : List Nat) : Position → Prop
  | .outside => True
  | .within address => address ∈ held
  | .lost => False

/-- Every set takes a run of its own, the schemas that are owned are there, and pointers are to
schemas that are owned. -/
structure Composed (allowedSchemas : SharedState Client SchemaObject →
      SharedAction Client SchemaObject → Prop)
    (allowedTables : SharedState Client Entry → SharedAction Client Entry → Prop)
    (catalog : SharedCatalog Client Entry) : Prop where
  schemas : Reaches (clients Client SchemaObject) allowedSchemas catalog.schemas
  tables : ∀ address set, catalog.tables address = some set →
    Reaches (clients Client Entry) allowedTables set
  live : ∀ address ∈ catalog.owned, catalog.tables address ≠ none
  pointers : ∀ client, ∀ address ∈ catalog.held client, address ∈ catalog.owned
  positions : ∀ client, (catalog.position client).IsBacked (catalog.held client)

omit [CatalogEntry Entry] in
theorem entries_of_plain {client : Client} {state next : SharedState Client SchemaObject}
    {action : SharedAction Client SchemaObject} (acts : action.isPlainBy client)
    (steps : SharedStep state action next) : next.entries = state.entries := by
  cases steps with
  | receive other call begun sentAt listing here => cases listing <;> rfl
  | create | createUnnamed | read | clear => exact acts.elim
  | _ => rfl

section Steps

variable {allowedSchemas : SharedState Client SchemaObject →
    SharedAction Client SchemaObject → Prop}
  {allowedTables : SharedState Client Entry → SharedAction Client Entry → Prop}
  {catalog : SharedCatalog Client Entry}

theorem composed_initial :
    Composed allowedSchemas allowedTables (SharedCatalog.initial Client Entry) where
  schemas := .start rfl
  tables := nofun
  live _ member := absurd member List.not_mem_nil
  pointers _ _ member := absurd member List.not_mem_nil
  positions _ := trivial

/-- A step at the schemas that leaves their map alone. -/
theorem Composed.schemasMoved (composed : Composed allowedSchemas allowedTables catalog)
    {next : SharedState Client SchemaObject}
    (reached : Reaches (clients Client SchemaObject) allowedSchemas next)
    (same : next.entries = catalog.schemas.entries) :
    Composed allowedSchemas allowedTables { catalog with schemas := next } := by
  have owned : ({ catalog with schemas := next } : SharedCatalog Client Entry).owned =
      catalog.owned := congrArg (fun entries => entries.bindings.map fun binding =>
    binding.2.entry.address) same
  refine ⟨reached, composed.tables, ?_, ?_, composed.positions⟩
  · rw [owned]
    exact composed.live
  · rw [owned]
    exact composed.pointers

/-- A schema that is inserted gets a new set of tables, and any other is freed. -/
theorem Composed.create (composed : Composed allowedSchemas allowedTables catalog)
    {object : SchemaObject} {sentAt : Nat} {next : SharedState Client SchemaObject}
    (reached : Reaches (clients Client SchemaObject) allowedSchemas next)
    (named : object.name ≠ [])
    (entries : next.entries =
      catalog.schemas.entries.insert object.name ⟨object, sentAt⟩) :
    Composed allowedSchemas allowedTables
      { catalog with schemas := next, tables := catalog.created object } := by
  by_cases absent : catalog.schemas.entries.find object.name = none
  · have grown : catalog.created object =
        Function.update catalog.tables object.address (some (.initial Client Entry)) :=
      if_pos ⟨named, absent⟩
    have owned : ∀ address ∈ next.entries.bindings.map fun binding => binding.2.entry.address,
        address ∈ catalog.owned ∨ address = object.address := by
      intro address member
      obtain ⟨binding, inMap, rfl⟩ := List.mem_map.mp member
      rw [entries, FoldedMap.mem_insert] at inMap
      rcases inMap with before | ⟨_, rfl⟩
      · exact Or.inl (List.mem_map_of_mem before)
      · exact Or.inr rfl
    have kept : ∀ address ∈ catalog.owned,
        address ∈ next.entries.bindings.map fun binding => binding.2.entry.address := by
      intro address member
      obtain ⟨binding, inMap, rfl⟩ := List.mem_map.mp member
      refine List.mem_map.mpr ⟨binding, ?_, rfl⟩
      rw [entries]
      exact FoldedMap.mem_insert.mpr (Or.inl inMap)
    rw [grown]
    refine ⟨reached, ?_, ?_, fun client address member =>
      kept address (composed.pointers client address member), composed.positions⟩
    · exact (Function.forall_update_iff catalog.tables fun _ tables => ∀ set, tables = some set →
        Reaches (clients Client Entry) allowedTables set).mpr
          ⟨by
            rintro _ ⟨⟩
            exact .start rfl,
          fun other _ => composed.tables other⟩
    · exact (Function.forall_update_iff catalog.tables fun other tables =>
        other ∈ next.entries.bindings.map (fun binding => binding.2.entry.address) →
          tables ≠ none).mpr
          ⟨fun _ => Option.some_ne_none _, fun other differ member =>
            composed.live other ((owned other member).resolve_right differ)⟩
  · have same : catalog.created object = catalog.tables := if_neg fun both => absent both.2
    rw [FoldedMap.insert_of_present _ absent] at entries
    rw [same]
    exact composed.schemasMoved reached entries

theorem Composed.step {next : SharedCatalog Client Entry} {action : CatalogAction Client Entry}
    (composed : Composed allowedSchemas allowedTables catalog)
    (quiescent : Quiescent allowedSchemas allowedTables catalog action)
    (steps : CatalogStep catalog action next) : Composed allowedSchemas allowedTables next := by
  cases steps with
  | schemas client action next outside acts steps =>
    exact composed.schemasMoved (composed.schemas.step action quiescent.1 steps)
      (entries_of_plain acts steps)
  | create client call begun sentAt object rest next outside here unused steps =>
    have reached := composed.schemas.step _ quiescent.1 steps
    cases steps with
    | create _ _ _ _ other others there named =>
      cases here.symm.trans there
      exact composed.create reached named (by cases rest <;> rfl)
    | createUnnamed _ _ _ _ other others there unnamed =>
      cases here.symm.trans there
      have same : catalog.created object = catalog.tables := if_neg fun both => both.1 unnamed
      rw [same]
      exact composed.schemasMoved reached rfl
  | read client call begun answer next outside steps returned =>
    have reached := composed.schemas.step _ quiescent.1 steps
    cases steps with
    | read _ _ _ there =>
      cases (Function.update_self ..).symm.trans returned
      have moved := composed.schemasMoved reached rfl
      refine ⟨moved.schemas, moved.tables, moved.live, ?_, ?_⟩
      · refine (Function.forall_update_iff catalog.held fun _ held =>
          ∀ address ∈ held, address ∈ catalog.owned).mpr
            ⟨fun address member => ?_, fun other _ => composed.pointers other⟩
        rcases List.mem_append.mp member with before | fresh
        · exact composed.pointers client address before
        · obtain ⟨seen, shown, rfl⟩ := List.mem_map.mp fresh
          obtain ⟨name, inMap⟩ := bound_of_answered shown
          exact List.mem_map.mpr ⟨_, inMap, rfl⟩
      · refine (Function.forall_update_iff catalog.held fun other held =>
          (catalog.position other).IsBacked held).mpr
            ⟨?_, fun other _ => composed.positions other⟩
        rw [outside]
        trivial
  | enter client address outside free pointer =>
    refine ⟨composed.schemas, composed.tables, composed.live, composed.pointers, ?_⟩
    exact (Function.forall_update_iff catalog.position fun other position =>
      position.IsBacked (catalog.held other)).mpr ⟨pointer, fun other _ => composed.positions other⟩
  | tables client address action set next here live acts steps =>
    have permitted := quiescent address set here live
    refine ⟨composed.schemas, ?_, ?_, composed.pointers, composed.positions⟩
    · exact (Function.forall_update_iff catalog.tables fun _ tables => ∀ set, tables = some set →
        Reaches (clients Client Entry) allowedTables set).mpr
          ⟨by
            rintro _ ⟨⟩
            exact (composed.tables address set live).step action permitted steps,
          fun other _ => composed.tables other⟩
    · exact (Function.forall_update_iff catalog.tables fun other tables =>
        other ∈ catalog.owned → tables ≠ none).mpr
          ⟨fun _ => Option.some_ne_none next, fun other _ => composed.live other⟩
  | tablesFreed client address action here freed acts =>
    have backed := composed.positions client
    rw [here] at backed
    exact absurd freed (composed.live address (composed.pointers client address backed))
  | leave client address set here live free =>
    refine ⟨composed.schemas, composed.tables, composed.live, composed.pointers, ?_⟩
    exact (Function.forall_update_iff catalog.position fun other position =>
      position.IsBacked (catalog.held other)).mpr ⟨trivial, fun other _ => composed.positions other⟩
  | forget client outside =>
    refine ⟨composed.schemas, composed.tables, composed.live, ?_, ?_⟩
    · exact (Function.forall_update_iff catalog.held fun _ held =>
        ∀ address ∈ held, address ∈ catalog.owned).mpr
          ⟨fun _ member => absurd member List.not_mem_nil, fun other _ => composed.pointers other⟩
    · refine (Function.forall_update_iff catalog.held fun other held =>
        (catalog.position other).IsBacked held).mpr ⟨?_, fun other _ => composed.positions other⟩
      rw [outside]
      trivial
  | clear next steps =>
    have none := quiescent.2 rfl
    have reached := composed.schemas.step _ quiescent.1 steps
    cases steps with
    | clear =>
      refine ⟨reached, ?_, fun _ member => absurd member List.not_mem_nil, ?_, composed.positions⟩
      · intro address set present
        dsimp only at present
        split at present
        · cases present
        · exact composed.tables address set present
      · intro client address member
        rw [show catalog.held client = [] from none client] at member
        exact absurd member List.not_mem_nil

/-- A clear takes the schema away from a client that is in a call on its tables. -/
theorem Composed.loses (composed : Composed allowedSchemas allowedTables catalog) {client : Client}
    {address : Nat} (here : catalog.position client = .within address) :
    ∃ cleared, CatalogStep catalog (.schemas .clear) cleared ∧
      ∀ action : SharedAction Client Entry, action.isBy client →
        ∃ final, CatalogStep cleared (.tables client action) final ∧
          final.position client = .lost := by
  have backed := composed.positions client
  rw [here] at backed
  have owned : address ∈ catalog.owned := composed.pointers client address backed
  refine ⟨_, .clear catalog _ (.clear catalog.schemas), fun action acts => ?_⟩
  exact ⟨_, .tablesFreed _ client address action here (if_pos owned) acts, Function.update_self ..⟩

end Steps

/-- When the cache is cleared only while no client has a pointer, every set of the catalog takes a
run of its own, and a client in a call on tables has a schema there. A clear at any other time
takes it away. -/
theorem catalog_composes
    (allowedSchemas : SharedState Client SchemaObject → SharedAction Client SchemaObject → Prop)
    (allowedTables : SharedState Client Entry → SharedAction Client Entry → Prop)
    (catalog : SharedCatalog Client Entry)
    (reached : Reaches (sharedCatalogs Client Entry) (Quiescent allowedSchemas allowedTables)
      catalog) :
    Reaches (clients Client SchemaObject) allowedSchemas catalog.schemas ∧
      (∀ address set, catalog.tables address = some set →
        Reaches (clients Client Entry) allowedTables set) ∧
      (∀ client, catalog.position client ≠ .lost) ∧
      ∀ client address, catalog.position client = .within address →
        (∃ set, catalog.tables address = some set) ∧
        ∃ cleared, CatalogStep catalog (.schemas .clear) cleared ∧
          ∀ action : SharedAction Client Entry, action.isBy client →
            ∃ final, CatalogStep cleared (.tables client action) final ∧
              final.position client = .lost := by
  have composed : Composed allowedSchemas allowedTables catalog := reached.invariant
    (by
      rintro _ rfl
      exact composed_initial)
    fun _ _ _ composed quiescent steps => composed.step quiescent steps
  refine ⟨composed.schemas, composed.tables, fun client lost => ?_, fun client address here =>
    ⟨?_, composed.loses here⟩⟩
  · have backed := composed.positions client
    rw [lost] at backed
    exact backed
  · have backed := composed.positions client
    rw [here] at backed
    exact Option.ne_none_iff_exists'.mp
      (composed.live address (composed.pointers client address backed))

end Clients

/-- A client that looks up a table of a schema, which a clear would take away. -/
theorem catalog_composes_lookup : ∃ catalog : SharedCatalog Bool TableEntry,
    catalog.position false = .within 7 ∧ (∃ set, catalog.tables 7 = some set) ∧
    ∃ cleared, CatalogStep catalog (.schemas .clear) cleared ∧
      ∀ action : SharedAction Bool TableEntry, action.isBy false →
        ∃ final, CatalogStep cleared (.tables false action) final ∧
          final.position false = .lost := by
  have plain : ∀ {catalog : SharedCatalog Bool TableEntry}
      {action : SharedAction Bool SchemaObject}, action ≠ .clear →
      Quiescent (fun _ _ => True) (fun _ _ => True) catalog (.schemas action) := fun differ =>
    ⟨trivial, fun same => absurd same differ⟩
  have started : Reaches (sharedCatalogs Bool TableEntry)
      (Quiescent (fun _ _ => True) fun _ _ => True) (.initial Bool TableEntry) := .start rfl
  have began := started.step (.schemas (.begin false (.getEntry "s".toList))) (plain nofun)
    (.schemas _ false _ _ rfl rfl (.begin _ false _ rfl))
  have tested := began.step (.schemas (.test false)) (plain nofun)
    (.schemas _ false _ _ rfl rfl (.testUnloaded _ false _ _ rfl rfl))
  have sent := tested.step (.schemas (.send false)) (plain nofun)
    (.schemas _ false _ _ rfl rfl (.send _ false _ _ rfl))
  have received := sent.step (.schemas (.receive false [⟨7, "s".toList⟩])) (plain nofun)
    (.schemas _ false _ _ rfl rfl (.receive _ false _ _ _ _ rfl))
  have created := received.step (.schemas (.create false)) (plain nofun)
    (.create _ false _ _ _ _ _ _ rfl rfl rfl (.create _ false _ _ _ _ _ rfl (by decide)))
  have read := created.step (.schemas (.read false)) (plain nofun)
    (.read _ false _ _ _ _ rfl (.read _ false _ _ rfl) rfl)
  have entered := read.step (.enter false 7) trivial
    (.enter _ false 7 rfl rfl List.mem_cons_self)
  obtain ⟨_, _, _, within⟩ := catalog_composes _ _ _ entered
  obtain ⟨set, cleared⟩ := within false 7 rfl
  exact ⟨_, rfl, set, cleared⟩

end UcCatalog
