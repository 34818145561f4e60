/-
This file is about what calls return when clients interleave. The flag of a set
is up from the moment the first client asks for the listing, and the map has the
listing only when a load has created its last entry, so a call that reads in
between misses entries. A clear lowers the flag, and a load that is under way at
that time still creates its entries, so a later call can read old ones.

Each result has the same form. The reads or insertions that do the damage are
ruled out by a condition on the steps of a run, and in the remaining runs an
invariant of the map and of every client's phase gives the property.
-/

import UcCatalog.Interleaving
import UcCatalog.Operations

namespace UcCatalog

open Transition

section Clients

variable {Client Entry : Type} [DecidableEq Client] [CatalogEntry Entry]

omit [CatalogEntry Entry] in
/-- What holds of every phase holds after a move to a phase of which it holds. -/
theorem forall_moved {holds : Phase Entry → Prop} {state : SharedState Client Entry}
    (all : ∀ client, holds (state.phase client)) {client : Client} {phase : Phase Entry}
    (moved : holds phase) : ∀ other, holds ((state.moved client phase).phase other) :=
  (Function.forall_update_iff state.phase fun _ phase => holds phase).mpr
    ⟨moved, fun other _ => all other⟩

/-! ### No entry of the listing is missed -/

/-- The map has an entry for every name of the listing. -/
def Covers (listing : List Entry) (entries : FoldedMap lower (Stamped Entry)) : Prop :=
  ∀ entry ∈ listing, entries.find (CatalogEntry.name entry) ≠ none

/-- The answer misses no name of the listing. -/
def AnswersListing (listing : List Entry) : Call → Answer (Stamped Entry) → Prop
  | .getEntry name, .found found =>
    found = none → ∀ entry ∈ listing, lower (CatalogEntry.name entry) ≠ lower name
  | .scan, .visited visited =>
    ∀ entry ∈ listing, ∃ seen ∈ visited,
      lower (CatalogEntry.name seen) = lower (CatalogEntry.name entry)
  | _, _ => False

/-- Every request succeeds with the one listing, and nothing is cleared. -/
def FixedListing (listing : List Entry) (_ : SharedState Client Entry) :
    SharedAction Client Entry → Prop
  | .receive _ reply => reply = listing
  | .fail _ | .clear => False
  | _ => True

/-- The final step of a call comes after some load has created its last entry. -/
def ReadsAfterLoad (state : SharedState Client Entry) : SharedAction Client Entry → Prop
  | .read _ => state.completed = true
  | _ => True

/-- What a phase owes to the listing: what is left to create makes up for what is missing, and
an answer misses nothing. -/
def PhaseCovers (listing : List Entry) (entries : FoldedMap lower (Stamped Entry)) :
    Phase Entry → Prop
  | .creating _ _ _ entry rest => ∀ listed ∈ listing,
    listed ∈ entry :: rest ∨ entries.find (CatalogEntry.name listed) ≠ none
  | .returned call _ answer => AnswersListing listing call answer
  | _ => True

structure CoversListing (listing : List Entry) (state : SharedState Client Entry) : Prop where
  keyed : KeyedByName state.entries
  phases : ∀ client, PhaseCovers listing state.entries (state.phase client)
  completed : state.completed = true → Covers listing state.entries

theorem answersListing_of_covers {listing : List Entry}
    {entries : FoldedMap lower (Stamped Entry)} (keyed : KeyedByName entries)
    (covers : Covers listing entries) (call : Call) :
    AnswersListing listing call (call.answer entries) := by
  cases call with
  | getEntry name =>
    intro absent entry member same
    exact covers entry member ((entries.find_congr same).trans absent)
  | scan =>
    intro entry member
    obtain ⟨seen, found⟩ := Option.ne_none_iff_exists'.mp (covers entry member)
    obtain ⟨bound, here, same⟩ := FoldedMap.exists_of_find found
    refine ⟨seen, List.mem_map_of_mem here, ?_⟩
    rw [← keyed _ here]
    exact same

omit [DecidableEq Client] in
theorem PhaseCovers.mono {listing : List Entry} {entries grown : FoldedMap lower (Stamped Entry)}
    (grows : ∀ key, entries.find key ≠ none → grown.find key ≠ none) {phase : Phase Entry}
    (covers : PhaseCovers listing entries phase) : PhaseCovers listing grown phase := by
  cases phase with
  | creating => exact fun listed member => (covers listed member).imp id (grows _)
  | _ => exact covers

/-- The loop in front of entries that make up for what is missing keeps the invariant. -/
theorem CoversListing.looping {listing : List Entry} {state : SharedState Client Entry}
    (covers : CoversListing listing state) (client : Client) (call : Call) (begun sentAt : Nat)
    (rest : List Entry) (left : ∀ listed ∈ listing,
      listed ∈ rest ∨ state.entries.find (CatalogEntry.name listed) ≠ none) :
    CoversListing listing (state.looping client call begun sentAt rest) := by
  cases rest with
  | nil =>
    refine ⟨covers.keyed, forall_moved covers.phases trivial, fun _ listed member => ?_⟩
    exact (left listed member).resolve_left List.not_mem_nil
  | cons entry rest => exact ⟨covers.keyed, forall_moved covers.phases left, covers.completed⟩

/-- One step of a run over a fixed listing, in which calls read after a load, keeps the
invariant. -/
theorem CoversListing.step {listing : List Entry} {state next : SharedState Client Entry}
    {action : SharedAction Client Entry} (covers : CoversListing listing state)
    (fixed : FixedListing listing state action) (reads : ReadsAfterLoad state action)
    (steps : SharedStep state action next) : CoversListing listing next := by
  cases steps with
  | begin client call free =>
    exact ⟨covers.keyed, forall_moved covers.phases trivial, covers.completed⟩
  | testLoaded client call begun here loaded =>
    exact ⟨covers.keyed, forall_moved covers.phases trivial, covers.completed⟩
  | testUnloaded client call begun here unloaded =>
    exact ⟨covers.keyed, forall_moved covers.phases trivial, covers.completed⟩
  | send client call begun here =>
    exact ⟨covers.keyed, forall_moved covers.phases trivial, covers.completed⟩
  | receive client call begun sentAt reply here =>
    cases fixed
    exact covers.looping client call begun sentAt _ fun listed member => Or.inl member
  | failRequest | failBuild => exact absurd fixed id
  | create client call begun sentAt entry rest here named =>
    have grows : ∀ key, state.entries.find key ≠ none →
        (state.entries.insert (CatalogEntry.name entry) ⟨entry, sentAt⟩).find key ≠ none := by
      intro key present
      rw [FoldedMap.find_insert]
      exact fun none => present (Option.or_eq_none_iff.mp none).1
    have inserted : CoversListing listing
        { state with entries := state.entries.insert (CatalogEntry.name entry) ⟨entry, sentAt⟩ } :=
      ⟨covers.keyed.insert ⟨entry, sentAt⟩, fun other => (covers.phases other).mono grows,
        fun done listed member => grows _ (covers.completed done listed member)⟩
    have left := covers.phases client
    rw [here] at left
    have following := inserted.looping client call begun sentAt rest (by
      intro listed member
      rcases left listed member with inLoop | present
      · rcases List.mem_cons.mp inLoop with rfl | inRest
        · refine Or.inr ?_
          show (state.entries.insert _ _).find _ ≠ none
          rw [FoldedMap.find_insert, if_pos rfl]
          exact fun none => nomatch (Option.or_eq_none_iff.mp none).2
        · exact Or.inl inRest
      · exact Or.inr (grows _ present))
    cases rest <;> exact following
  | createUnnamed client call begun sentAt entry rest here unnamed =>
    exact ⟨covers.keyed, forall_moved covers.phases trivial, covers.completed⟩
  | read client call begun here =>
    exact ⟨covers.keyed, forall_moved covers.phases
      (answersListing_of_covers covers.keyed (covers.completed reads) call), covers.completed⟩
  | clear => exact absurd fixed id

omit [DecidableEq Client] in
theorem coversListing_initial (listing : List Entry) :
    CoversListing listing (SharedState.initial Client Entry) where
  keyed := fun _ member => absurd member List.not_mem_nil
  phases := fun _ => trivial
  completed := nofun

/-- When every call reads after some load has created its last entry, no call misses an entry of
the listing. -/
theorem answers_miss_nothing (listing : List Entry) (state : SharedState Client Entry)
    (reached : Reaches (clients Client Entry)
      (fun state action => FixedListing listing state action ∧ ReadsAfterLoad state action) state)
    (client : Client) (call : Call) (begun : Nat) (answer : Answer (Stamped Entry))
    (returned : state.phase client = .returned call begun answer) :
    AnswersListing listing call answer := by
  have covers : CoversListing listing state := reached.invariant
    (by
      rintro _ rfl
      exact coversListing_initial listing)
    fun _ _ _ covers permitted steps => covers.step permitted.1 permitted.2 steps
  have right := covers.phases client
  rw [returned] at right
  exact right

end Clients

/-- A schema that is listed under a name. -/
def schemaNamed (name : Text) : SchemaEntry := ⟨name, false, none, .new TableEntry⟩

/-- Two clients ask for the listing before either has it. The iteration of the first has both
schemas while the second is still creating them, and the second looks a schema up that is not
listed. -/
theorem answers_miss_nothing_twoClients :
    AnswersListing [schemaNamed "a".toList, schemaNamed "b".toList] .scan
        (.visited [⟨schemaNamed "a".toList, 0⟩, ⟨schemaNamed "b".toList, 0⟩]) ∧
      AnswersListing [schemaNamed "a".toList, schemaNamed "b".toList] (.getEntry "c".toList)
        (.found none) := by
  have started : Reaches (clients Bool SchemaEntry) (fun state action =>
      FixedListing [schemaNamed "a".toList, schemaNamed "b".toList] state action ∧
        ReadsAfterLoad state action) (.initial Bool SchemaEntry) := .start rfl
  have began := started.step (.begin false .scan) ⟨trivial, trivial⟩ (.begin _ false _ rfl)
  have otherBegan := began.step (.begin true (.getEntry "c".toList)) ⟨trivial, trivial⟩
    (.begin _ true _ rfl)
  have tested := otherBegan.step (.test false) ⟨trivial, trivial⟩
    (.testUnloaded _ false _ _ rfl rfl)
  have otherTested := tested.step (.test true) ⟨trivial, trivial⟩
    (.testUnloaded _ true _ _ rfl rfl)
  have sent := otherTested.step (.send false) ⟨trivial, trivial⟩ (.send _ false _ _ rfl)
  have otherSent := sent.step (.send true) ⟨trivial, trivial⟩ (.send _ true _ _ rfl)
  have received := otherSent.step (.receive false _) ⟨rfl, trivial⟩ (.receive _ false _ _ _ _ rfl)
  have created := received.step (.create false) ⟨trivial, trivial⟩
    (.create _ false _ _ _ _ _ rfl (by decide))
  have otherReceived := created.step (.receive true _) ⟨rfl, trivial⟩
    (.receive _ true _ _ _ _ rfl)
  have otherCreated := otherReceived.step (.create true) ⟨trivial, trivial⟩
    (.create _ true _ _ _ _ _ rfl (by decide))
  have createdAll := otherCreated.step (.create false) ⟨trivial, trivial⟩
    (.create _ false _ _ _ _ _ rfl (by decide))
  have read := createdAll.step (.read false) ⟨trivial, rfl⟩ (.read _ false _ _ rfl)
  have otherCreatedAll := read.step (.create true) ⟨trivial, trivial⟩
    (.create _ true _ _ _ _ _ rfl (by decide))
  have otherRead := otherCreatedAll.step (.read true) ⟨trivial, rfl⟩ (.read _ true _ _ rfl)
  exact ⟨answers_miss_nothing _ _ read false _ 0 _ rfl,
    answers_miss_nothing _ _ otherRead true _ 0 _ rfl⟩

/-- A client that finds the flag up while another waits for the listing misses its schema. -/
theorem flaggedEarly_misses :
    ¬ ∀ (listing : List SchemaEntry) (state : SharedState Bool SchemaEntry),
      Reaches (clients Bool SchemaEntry) (FixedListing listing) state →
      ∀ client call begun answer, state.phase client = .returned call begun answer →
        AnswersListing listing call answer := by
  intro misses
  have started : Reaches (clients Bool SchemaEntry) (FixedListing [schemaNamed "s".toList])
      (.initial Bool SchemaEntry) := .start rfl
  have began := started.step (.begin false .scan) trivial (.begin _ false _ rfl)
  have tested := began.step (.test false) trivial (.testUnloaded _ false _ _ rfl rfl)
  have sent := tested.step (.send false) trivial (.send _ false _ _ rfl)
  have otherBegan := sent.step (.begin true (.getEntry "s".toList)) trivial (.begin _ true _ rfl)
  have otherTested := otherBegan.step (.test true) trivial (.testLoaded _ true _ _ rfl rfl)
  have otherRead := otherTested.step (.read true) trivial (.read _ true _ _ rfl)
  have right : AnswersListing [schemaNamed "s".toList] (.getEntry "s".toList) (.found none) :=
    misses _ _ otherRead true _ 0 _ rfl
  exact right rfl (schemaNamed "s".toList) List.mem_cons_self rfl

section Clients

variable {Client Entry : Type} [DecidableEq Client] [CatalogEntry Entry]

/-! ### Nothing older than a clear is served after it -/

/-- The entries an answer shows. -/
def Answer.entries : Answer (Stamped Entry) → List (Stamped Entry)
  | .found entry => entry.toList
  | .visited entries => entries

/-- An insertion under a key that is not bound comes from a request sent after the last clear. -/
def InsertsFresh (state : SharedState Client Entry) : SharedAction Client Entry → Prop
  | .create client =>
    match state.phase client with
    | .creating _ _ sentAt entry _ =>
      CatalogEntry.name entry ≠ [] → state.entries.find (CatalogEntry.name entry) = none →
        state.clears ≤ sentAt
    | _ => True
  | _ => True

/-- A call began no later than now, and an answer shows nothing older than its call. -/
def PhaseFresh (clears : Nat) : Phase Entry → Prop
  | .idle | .raised _ => True
  | .testing _ begun | .requesting _ begun | .receiving _ begun _ | .creating _ begun _ _ _
  | .reading _ begun => begun ≤ clears
  | .returned _ begun answer => ∀ seen ∈ answer.entries, begun ≤ seen.sentAt

structure ServesFresh (state : SharedState Client Entry) : Prop where
  entries : ∀ binding ∈ state.entries.bindings, state.clears ≤ binding.2.sentAt
  phases : ∀ client, PhaseFresh state.clears (state.phase client)

omit [CatalogEntry Entry] in
theorem ServesFresh.moved {state : SharedState Client Entry} (fresh : ServesFresh state)
    (client : Client) {phase : Phase Entry} (moved : PhaseFresh state.clears phase) :
    ServesFresh (state.moved client phase) :=
  ⟨fresh.entries, forall_moved fresh.phases moved⟩

omit [CatalogEntry Entry] in
theorem ServesFresh.looping {state : SharedState Client Entry} (fresh : ServesFresh state)
    (client : Client) (call : Call) {begun : Nat} (sentAt : Nat) (rest : List Entry)
    (past : begun ≤ state.clears) :
    ServesFresh (state.looping client call begun sentAt rest) := by
  cases rest with
  | nil => exact ⟨fresh.entries, forall_moved fresh.phases past⟩
  | cons entry rest => exact fresh.moved client past

omit [CatalogEntry Entry] in
theorem PhaseFresh.mono {clears later : Nat} (order : clears ≤ later) {phase : Phase Entry}
    (fresh : PhaseFresh clears phase) : PhaseFresh later phase := by
  cases phase with
  | idle | raised => trivial
  | returned => exact fresh
  | _ => exact Nat.le_trans fresh order

omit [CatalogEntry Entry] in
theorem answer_entries_subset {entries : FoldedMap lower (Stamped Entry)} {call : Call}
    {seen : Stamped Entry} (member : seen ∈ (call.answer entries).entries) :
    ∃ bound, (bound, seen) ∈ entries.bindings := by
  cases call with
  | getEntry name =>
    obtain ⟨bound, here, _⟩ := FoldedMap.exists_of_find (Option.mem_toList.mp member)
    exact ⟨bound, here⟩
  | scan =>
    obtain ⟨⟨bound, _⟩, here, rfl⟩ := List.mem_map.mp member
    exact ⟨bound, here⟩

/-- One step of a run that inserts only fresh entries keeps the invariant. -/
theorem ServesFresh.step {state next : SharedState Client Entry}
    {action : SharedAction Client Entry} (fresh : ServesFresh state)
    (inserts : InsertsFresh state action) (steps : SharedStep state action next) :
    ServesFresh next := by
  have past : ∀ client, PhaseFresh state.clears (state.phase client) := fresh.phases
  cases steps with
  | begin client call free => exact fresh.moved client (Nat.le_refl _)
  | testLoaded client call begun here loaded =>
    have order := past client
    rw [here] at order
    exact fresh.moved client order
  | testUnloaded client call begun here unloaded =>
    have order := past client
    rw [here] at order
    exact fresh.moved client order
  | send client call begun here =>
    have order := past client
    rw [here] at order
    exact ⟨fresh.entries, forall_moved fresh.phases order⟩
  | receive client call begun sentAt listing here =>
    have order := past client
    rw [here] at order
    exact fresh.looping client call sentAt listing order
  | failRequest client | failBuild client => exact fresh.moved client trivial
  | create client call begun sentAt entry rest here named =>
    have order := past client
    rw [here] at order
    have young : state.entries.find (CatalogEntry.name entry) = none → state.clears ≤ sentAt := by
      have young := inserts
      unfold InsertsFresh at young
      simp only [here] at young
      exact young named
    have inserted : ServesFresh
        { state with
          entries := state.entries.insert (CatalogEntry.name entry) ⟨entry, sentAt⟩ } := by
      refine ⟨fun binding member => ?_, fresh.phases⟩
      rcases FoldedMap.mem_insert.mp member with inMap | ⟨absent, rfl⟩
      · exact fresh.entries binding inMap
      · exact young absent
    have following := inserted.looping client call sentAt rest order
    cases rest <;> exact following
  | createUnnamed client call begun sentAt entry rest here unnamed =>
    exact fresh.moved client trivial
  | read client call begun here =>
    have order := past client
    rw [here] at order
    refine fresh.moved client fun seen member => ?_
    obtain ⟨bound, inMap⟩ := answer_entries_subset member
    exact Nat.le_trans order (fresh.entries _ inMap)
  | clear =>
    exact ⟨fun _ member => absurd member List.not_mem_nil,
      fun client => (past client).mono (Nat.le_succ _)⟩

/-- When every insertion under a new key is from a request sent after the last clear, a call that
begins after a clear shows only entries of requests sent after it. -/
theorem answers_are_fresh (state : SharedState Client Entry)
    (reached : Reaches (clients Client Entry) InsertsFresh state) (client : Client) (call : Call)
    (begun : Nat) (answer : Answer (Stamped Entry))
    (returned : state.phase client = .returned call begun answer) :
    ∀ seen ∈ answer.entries, begun ≤ seen.sentAt := by
  have fresh : ServesFresh state := reached.invariant
    (by
      rintro _ rfl
      exact ⟨fun _ member => absurd member List.not_mem_nil, fun _ => trivial⟩)
    fun _ _ _ fresh permitted steps => fresh.step permitted steps
  have right := fresh.phases client
  rw [returned] at right
  exact right

end Clients

/-- A set that has served one listing serves another one after a clear, to a client that begins
its call behind it. -/
theorem answers_are_fresh_afterClear :
    0 ≤ (⟨schemaNamed "old".toList, 0⟩ : Stamped SchemaEntry).sentAt ∧
      1 ≤ (⟨schemaNamed "new".toList, 1⟩ : Stamped SchemaEntry).sentAt := by
  have started : Reaches (clients Bool SchemaEntry) InsertsFresh (.initial Bool SchemaEntry) :=
    .start rfl
  have began := started.step (.begin false .scan) trivial (.begin _ false _ rfl)
  have tested := began.step (.test false) trivial (.testUnloaded _ false _ _ rfl rfl)
  have sent := tested.step (.send false) trivial (.send _ false _ _ rfl)
  have received := sent.step (.receive false [schemaNamed "old".toList]) trivial
    (.receive _ false _ _ _ _ rfl)
  have created := received.step (.create false) (fun _ _ => Nat.le_refl 0)
    (.create _ false _ _ _ _ _ rfl (by decide))
  have read := created.step (.read false) trivial (.read _ false _ _ rfl)
  have cleared := read.step .clear trivial (.clear _)
  have otherBegan := cleared.step (.begin true .scan) trivial (.begin _ true _ rfl)
  have otherTested := otherBegan.step (.test true) trivial (.testUnloaded _ true _ _ rfl rfl)
  have otherSent := otherTested.step (.send true) trivial (.send _ true _ _ rfl)
  have otherReceived := otherSent.step (.receive true [schemaNamed "new".toList]) trivial
    (.receive _ true _ _ _ _ rfl)
  have otherCreated := otherReceived.step (.create true) (fun _ _ => Nat.le_refl 1)
    (.create _ true _ _ _ _ _ rfl (by decide))
  have otherRead := otherCreated.step (.read true) trivial (.read _ true _ _ rfl)
  exact ⟨answers_are_fresh _ otherRead false _ 0 _ rfl _ List.mem_cons_self,
    answers_are_fresh _ otherRead true _ 1 _ rfl _ List.mem_cons_self⟩

/-- A load that is under way when the set is cleared fills it with the listing from before. -/
theorem clearedLoad_servesOld :
    ¬ ∀ state : SharedState Bool SchemaEntry,
      Reaches (clients Bool SchemaEntry) (fun _ _ => True) state →
      ∀ client call begun answer, state.phase client = .returned call begun answer →
        ∀ seen ∈ answer.entries, begun ≤ seen.sentAt := by
  intro fresh
  have started : Reaches (clients Bool SchemaEntry) (fun _ _ => True)
      (.initial Bool SchemaEntry) := .start rfl
  have began := started.step (.begin false .scan) trivial (.begin _ false _ rfl)
  have tested := began.step (.test false) trivial (.testUnloaded _ false _ _ rfl rfl)
  have sent := tested.step (.send false) trivial (.send _ false _ _ rfl)
  have cleared := sent.step .clear trivial (.clear _)
  have received := cleared.step (.receive false [schemaNamed "old".toList]) trivial
    (.receive _ false _ _ _ _ rfl)
  have created := received.step (.create false) trivial
    (.create _ false _ _ _ _ _ rfl (by decide))
  have otherBegan := created.step (.begin true .scan) trivial (.begin _ true _ rfl)
  have otherTested := otherBegan.step (.test true) trivial (.testUnloaded _ true _ _ rfl rfl)
  have otherSent := otherTested.step (.send true) trivial (.send _ true _ _ rfl)
  have otherReceived := otherSent.step (.receive true []) trivial (.receive _ true _ _ _ _ rfl)
  have otherRead := otherReceived.step (.read true) trivial (.read _ true _ _ rfl)
  have seen : 1 ≤ (⟨schemaNamed "old".toList, 0⟩ : Stamped SchemaEntry).sentAt :=
    fresh _ otherRead true _ 1 _ rfl _ List.mem_cons_self
  exact absurd seen (by decide)

end UcCatalog
