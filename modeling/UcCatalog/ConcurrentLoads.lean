/-
This file is about several loads of one set at the same time. The flag is tested
and raised in two steps, so that any number of clients can ask for the listing and
create its entries beside each other. All of them create the same entries in the
same order, and an entry that is there already is dropped: the map is at every
moment the one a single load has after its first entries, as many as the load that
is furthest ahead has created.

A call therefore answers from the first entries of the listing, and exactly as a
call that is alone once some load has created the last.
-/

import UcCatalog.CachedListing
import UcCatalog.ConcurrentCalls

namespace UcCatalog

open Stateful Transition

section Clients

variable {Client Entry : Type} [CatalogEntry Entry]

/-! ### The map as far as it is filled -/

/-- The map a load has after the first entries of its listing. -/
def filledWith (listing : List Entry) (count : Nat) : FoldedMap lower Entry :=
  insertEntries (.empty lower Entry) (listing.take count)

theorem filledWith_append (before rest : List Entry) (entry : Entry) :
    (filledWith (before ++ entry :: rest) before.length).insert (CatalogEntry.name entry) entry =
      filledWith (before ++ entry :: rest) (before.length + 1) := by
  have first : (before ++ entry :: rest).take before.length = before := List.take_left
  have next : (before ++ entry :: rest).take (before.length + 1) = before ++ [entry] := by
    rw [List.take_append, List.take_of_length_le (Nat.le_succ _), Nat.add_sub_cancel_left]
    rfl
  unfold filledWith
  rw [first, next, insertEntries, insertEntries, FoldedMap.insertAll, FoldedMap.insertAll,
    List.foldl_append]
  rfl

/-- The name of an entry is bound once the map is filled beyond it. -/
theorem find_filledWith {before rest : List Entry} {entry : Entry} {count : Nat}
    (beyond : before.length < count) :
    (filledWith (before ++ entry :: rest) count).find (CatalogEntry.name entry) ≠ none := by
  have created : entry ∈ (before ++ entry :: rest).take count := by
    rw [List.take_append, List.mem_append]
    refine Or.inr ?_
    obtain ⟨further, rfl⟩ := Nat.exists_eq_add_of_lt beyond
    rw [show before.length + further + 1 - before.length = further + 1 by omega]
    exact List.mem_cons_self
  unfold filledWith
  rw [find_insertEntries]
  intro absent
  have differs := List.find?_eq_none.mp absent entry created
  simp at differs

/-! ### The invariant -/

/-- What a phase has to do with a map that is filled so far: a client in its loop is not ahead of
the map, and an answer is one from the first entries. -/
def PhaseFilled (listing : List Entry) (count : Nat) : Phase Entry → Prop
  | .creating _ _ _ entry rest => ∃ before, before ++ entry :: rest = listing ∧
    before.length ≤ count
  | .returned call _ answer => ∃ seen ≤ count,
    answer.erase = call.answer (filledWith listing seen)
  | _ => True

theorem PhaseFilled.mono {listing : List Entry} {count more : Nat} (order : count ≤ more)
    {phase : Phase Entry} (filled : PhaseFilled listing count phase) :
    PhaseFilled listing more phase := by
  cases phase with
  | creating =>
    obtain ⟨before, whole, behind⟩ := filled
    exact ⟨before, whole, Nat.le_trans behind order⟩
  | returned =>
    obtain ⟨seen, within, same⟩ := filled
    exact ⟨seen, Nat.le_trans within order, same⟩
  | _ => trivial

structure Filled (listing : List Entry) (state : SharedState Client Entry) (count : Nat) :
    Prop where
  entries : Erases state.entries (filledWith listing count)
  within : count ≤ listing.length
  phases : ∀ client, PhaseFilled listing count (state.phase client)
  completed : state.completed = true → count = listing.length

variable [DecidableEq Client]

theorem Filled.moved {listing : List Entry} {state : SharedState Client Entry} {count : Nat}
    (filled : Filled listing state count) (client : Client) {phase : Phase Entry}
    (moved : PhaseFilled listing count phase) :
    Filled listing (state.moved client phase) count :=
  ⟨filled.entries, filled.within, forall_moved filled.phases moved, filled.completed⟩

/-- The loop of a client that is not ahead of the map. -/
theorem Filled.looping {listing : List Entry} {state : SharedState Client Entry} {count : Nat}
    (filled : Filled listing state count) (client : Client) (call : Call) (begun sentAt : Nat)
    {before rest : List Entry} (whole : before ++ rest = listing)
    (behind : before.length ≤ count) :
    Filled listing (state.looping client call begun sentAt rest) count := by
  cases rest with
  | nil =>
    refine ⟨filled.entries, filled.within, forall_moved filled.phases trivial, fun _ => ?_⟩
    rw [List.append_nil] at whole
    exact Nat.le_antisymm filled.within (whole ▸ behind)
  | cons entry rest => exact filled.moved client ⟨before, whole, behind⟩

omit [DecidableEq Client] in
/-- A creation fills the map further, or finds the name bound. -/
theorem Filled.create {listing : List Entry} {state : SharedState Client Entry} {count : Nat}
    (filled : Filled listing state count) (sentAt : Nat) {before rest : List Entry} {entry : Entry}
    (whole : before ++ entry :: rest = listing) (behind : before.length ≤ count) :
    ∃ more, count ≤ more ∧ before.length + 1 ≤ more ∧
      Filled listing
        { state with
          entries := state.entries.insert (CatalogEntry.name entry) ⟨entry, sentAt⟩ } more := by
  subst whole
  rcases Nat.lt_or_eq_of_le behind with beyond | level
  · have present : state.entries.find (CatalogEntry.name entry) ≠ none := by
      have bound := @find_filledWith _ _ before rest entry count beyond
      rw [filled.entries.find] at bound
      exact fun absent => bound (by rw [absent]; rfl)
    rw [FoldedMap.insert_of_present _ present]
    exact ⟨count, Nat.le_refl _, beyond, filled⟩
  · refine ⟨count + 1, Nat.le_succ _, by omega, ?_⟩
    have inserted := filled.entries.insert (CatalogEntry.name entry) ⟨entry, sentAt⟩
    rw [← level, filledWith_append, level] at inserted
    have more : count + 1 ≤ (before ++ entry :: rest).length := by
      rw [List.length_append, List.length_cons]
      omega
    exact ⟨inserted, more, fun client => (filled.phases client).mono (Nat.le_succ _),
      fun done => absurd (filled.completed done) (by omega)⟩

/-- One step over a fixed listing leaves the map filled as far as before, or further. -/
theorem Filled.step {listing : List Entry} {state next : SharedState Client Entry}
    {action : SharedAction Client Entry} {count : Nat} (filled : Filled listing state count)
    (fixed : FixedListing listing state action) (steps : SharedStep state action next) :
    ∃ more, count ≤ more ∧ Filled listing next more := by
  cases steps with
  | begin client call free => exact ⟨count, Nat.le_refl _, filled.moved client trivial⟩
  | testLoaded client call begun here loaded =>
    exact ⟨count, Nat.le_refl _, filled.moved client trivial⟩
  | testUnloaded client call begun here unloaded =>
    exact ⟨count, Nat.le_refl _, filled.moved client trivial⟩
  | send client call begun here =>
    exact ⟨count, Nat.le_refl _, filled.entries, filled.within,
      forall_moved filled.phases trivial, filled.completed⟩
  | receive client call begun sentAt reply here =>
    obtain rfl : reply = listing := fixed
    exact ⟨count, Nat.le_refl _,
      filled.looping client call begun sentAt (List.nil_append _) (Nat.zero_le _)⟩
  | failRequest | failBuild => exact absurd fixed id
  | create client call begun sentAt entry rest here named =>
    have place := filled.phases client
    rw [here] at place
    obtain ⟨before, whole, behind⟩ := place
    obtain ⟨more, further, ahead, created⟩ := filled.create sentAt whole behind
    have split : (before ++ [entry]) ++ rest = listing := by
      rw [List.append_assoc]
      exact whole
    have following := created.looping client call begun sentAt split
      (by rw [List.length_append]; exact ahead)
    refine ⟨more, further, ?_⟩
    cases rest <;> exact following
  | createUnnamed client call begun sentAt entry rest here unnamed =>
    exact ⟨count, Nat.le_refl _, filled.moved client trivial⟩
  | read client call begun here =>
    exact ⟨count, Nat.le_refl _,
      filled.moved client ⟨count, Nat.le_refl _, filled.entries.answer call⟩⟩
  | clear => exact absurd fixed id

theorem filled_of_reaches {listing : List Entry} {state : SharedState Client Entry}
    (reached : Reaches (clients Client Entry) (FixedListing listing) state) :
    ∃ count, Filled listing state count := by
  have starts : ∀ state, (clients Client Entry).start state →
      ∃ count, Filled listing state count := by
    rintro _ rfl
    exact ⟨0, rfl, Nat.zero_le _, fun _ => trivial, nofun⟩
  have keeps : ∀ (before : SharedState Client Entry) (action : SharedAction Client Entry)
      (next : SharedState Client Entry), (∃ count, Filled listing before count) →
      FixedListing listing before action → SharedStep before action next →
      ∃ count, Filled listing next count := by
    rintro before action next ⟨count, filled⟩ fixed steps
    obtain ⟨more, _, still⟩ := filled.step fixed steps
    exact ⟨more, still⟩
  exact reached.invariant starts keeps

/-! ### What the calls return -/

/-- What a run leaves and has returned, next to one load of the same reply: the map is that of the
load after its first entries, every answer is one from as many entries or fewer, and a call that
reads once some load is through answers as one that is alone on a new set. -/
structure AgreesWithOneLoad {Item : Type} (loader : Loader Item Entry) (world : World)
    (listing : List Entry) (state : SharedState Client Entry) : Prop where
  behind : ∃ count ≤ listing.length, Erases state.entries (filledWith listing count) ∧
    ∀ client call begun answer, state.phase client = .returned call begun answer →
      ∃ seen ≤ count, answer.erase = call.answer (filledWith listing seen)
  through : state.completed = true → ∀ call : Call, ∃ final : SetState Entry,
    call.run loader.loadEntries ⟨world, .new Entry⟩ = .ok (call.answer state.entries).erase final ∧
      Erases state.entries final.set.entries

omit [DecidableEq Client] in
theorem Filled.agrees {Item : Type} {loader : Loader Item Entry} {world : World}
    {listing : List Entry} (listed : loader.listed world.remote = .ok listing)
    {state : SharedState Client Entry} {count : Nat} (filled : Filled listing state count) :
    AgreesWithOneLoad loader world listing state where
  behind := by
    refine ⟨count, filled.within, filled.entries, fun client call begun answer returned => ?_⟩
    have phase := filled.phases client
    rw [returned] at phase
    exact phase
  through := by
    intro done call
    have whole : filledWith listing count = insertEntries (.empty lower Entry) listing := by
      rw [filledWith, filled.completed done, List.take_length]
    have entries := filled.entries
    rw [whole] at entries
    have run : call.run loader.loadEntries ⟨world, .new Entry⟩ = _ := call.run_of_unloaded rfl
    rw [Loader.loadEntries_of_ok (SetState.flagged ⟨world, .new Entry⟩) listed] at run
    rw [entries.answer call]
    exact ⟨_, run, entries⟩

/-- However many loads of a set run beside each other, they leave what one of them would. -/
theorem concurrentLoads_agree {Item : Type} (loader : Loader Item Entry) (world : World)
    (listing : List Entry) (listed : loader.listed world.remote = .ok listing)
    (state : SharedState Client Entry)
    (reached : Reaches (clients Client Entry) (FixedListing listing) state) :
    AgreesWithOneLoad loader world listing state := by
  obtain ⟨count, filled⟩ := filled_of_reaches reached
  exact filled.agrees listed

end Clients

/-- Every reply lists two schemas. -/
def twoSchemasLibraries : Libraries where
  castUInt8 := castPlainNumeral
  addColumn columns column := .ok (columns ++ [column])
  yyjsonRead _ := some (.obj [("schemas".toList, .arr [.obj [("name".toList, .str "a".toList)],
    .obj [("name".toList, .str "b".toList)]])])

/-- A schema as it is listed in the catalog. -/
def schemaListed (name : Text) : SchemaEntry :=
  ⟨name, false, some ⟨name, "uc".toList⟩, .new TableEntry⟩

/-- Two clients ask for the listing before either has it. The second creates the first schema
when the first client has created both. -/
theorem concurrentLoads_agree_twoClients :
    let world : World := ⟨fun _ => .body [], []⟩
    ∃ state : SharedState Bool SchemaEntry,
      AgreesWithOneLoad (schemaLoader twoSchemasLibraries "uc".toList ⟨[], [], []⟩) world
        [schemaListed "a".toList, schemaListed "b".toList] state ∧
      state.phase true = .creating (.getEntry "B".toList) 0 0 (schemaListed "b".toList) [] ∧
      state.phase false = .returned .scan 0
        (.visited [⟨schemaListed "a".toList, 0⟩, ⟨schemaListed "b".toList, 0⟩]) := by
  intro world
  have started : Reaches (clients Bool SchemaEntry)
      (FixedListing [schemaListed "a".toList, schemaListed "b".toList])
      (.initial Bool SchemaEntry) := .start rfl
  have began := started.step (.begin false .scan) trivial (.begin _ false _ rfl)
  have otherBegan := began.step (.begin true (.getEntry "B".toList)) trivial (.begin _ true _ rfl)
  have tested := otherBegan.step (.test false) trivial (.testUnloaded _ false _ _ rfl rfl)
  have otherTested := tested.step (.test true) trivial (.testUnloaded _ true _ _ rfl rfl)
  have sent := otherTested.step (.send false) trivial (.send _ false _ _ rfl)
  have otherSent := sent.step (.send true) trivial (.send _ true _ _ rfl)
  have received := otherSent.step (.receive false _) rfl (.receive _ false _ _ _ _ rfl)
  have created := received.step (.create false) trivial (.create _ false _ _ _ _ _ rfl (by decide))
  have otherReceived := created.step (.receive true _) rfl (.receive _ true _ _ _ _ rfl)
  have createdAll := otherReceived.step (.create false) trivial
    (.create _ false _ _ _ _ _ rfl (by decide))
  have otherCreated := createdAll.step (.create true) trivial
    (.create _ true _ _ _ _ _ rfl (by decide))
  have read := otherCreated.step (.read false) trivial (.read _ false _ _ rfl)
  exact ⟨_, concurrentLoads_agree _ world _ rfl _ read, rfl, rfl⟩

end UcCatalog
