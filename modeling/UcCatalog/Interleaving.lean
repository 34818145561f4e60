/-
This file is about clients that call one `UCCatalogSet` at the same time. The
lock covers the single accesses to the map and nothing else, so a call is a row
of atomic steps between which other clients take theirs: the test of the flag,
setting it and sending the request, the reply, each `CreateEntry`, and the
lookup or iteration at the end. `ClearEntries` is one step. A load can fail on the
way: its request, the decoder of its reply, an item no entry is made of, and a name
that is empty all end it with an exception.

Two parts of the state are not in the code. Every entry is stamped with the
number of clears before its request was sent, and every call with the number of
clears before it began. And it is noted when a load creates its last entry.
-/

import Mathlib.Logic.Function.Basic
import Mathlib.Logic.Relation
import UcCatalog.LoadAttempts
import UcCatalog.Transition

namespace UcCatalog

open Transition

/-- An entry, with the number of clears before the request it answers was sent. -/
structure Stamped (Entry : Type) where
  entry : Entry
  sentAt : Nat

instance {Entry : Type} [CatalogEntry Entry] : CatalogEntry (Stamped Entry) :=
  ⟨fun stamped => CatalogEntry.name stamped.entry⟩

/-- Where a client stands. `begun` is the number of clears before its call began. -/
inductive Phase (Entry : Type) where
  | idle
  | testing (call : Call) (begun : Nat)
  | requesting (call : Call) (begun : Nat)
  | receiving (call : Call) (begun sentAt : Nat)
  | creating (call : Call) (begun sentAt : Nat) (entry : Entry) (rest : List Entry)
  | reading (call : Call) (begun : Nat)
  | returned (call : Call) (begun : Nat) (answer : Answer (Stamped Entry))
  | raised (call : Call)

/-- A client that can begin a call. -/
def Phase.isFree {Entry : Type} : Phase Entry → Bool
  | .idle | .returned _ _ _ | .raised _ => true
  | _ => false

structure SharedState (Client Entry : Type) where
  entries : FoldedMap lower (Stamped Entry)
  isLoaded : Bool
  phase : Client → Phase Entry
  clears : Nat
  completed : Bool

inductive SharedAction (Client Entry : Type) where
  | begin (client : Client) (call : Call)
  | test (client : Client)
  | send (client : Client)
  | receive (client : Client) (listing : List Entry)
  /-- A load stops before `CreateEntry`. -/
  | fail (client : Client)
  | create (client : Client)
  | read (client : Client)
  | clear

section Clients

variable {Client Entry : Type} [DecidableEq Client]

def SharedState.moved (state : SharedState Client Entry) (client : Client) (phase : Phase Entry) :
    SharedState Client Entry :=
  { state with phase := Function.update state.phase client phase }

/-- The loop of `LoadEntries` in front of the entries that are left. -/
def SharedState.looping (state : SharedState Client Entry) (client : Client) (call : Call)
    (begun sentAt : Nat) : List Entry → SharedState Client Entry
  | [] => { state.moved client (.reading call begun) with completed := true }
  | entry :: rest => state.moved client (.creating call begun sentAt entry rest)

variable [CatalogEntry Entry]

/-- The atomic steps. A listing has one entry for each item of the reply; what stands there for an
item of which no entry is made is not looked at (`failBuild`). -/
inductive SharedStep :
    SharedState Client Entry → SharedAction Client Entry → SharedState Client Entry → Prop
  | begin (state : SharedState Client Entry) (client : Client) (call : Call)
      (free : (state.phase client).isFree) :
      SharedStep state (.begin client call) (state.moved client (.testing call state.clears))
  | testLoaded (state : SharedState Client Entry) (client : Client) (call : Call) (begun : Nat)
      (here : state.phase client = .testing call begun) (loaded : state.isLoaded = true) :
      SharedStep state (.test client) (state.moved client (.reading call begun))
  | testUnloaded (state : SharedState Client Entry) (client : Client) (call : Call) (begun : Nat)
      (here : state.phase client = .testing call begun) (unloaded : state.isLoaded = false) :
      SharedStep state (.test client) (state.moved client (.requesting call begun))
  | send (state : SharedState Client Entry) (client : Client) (call : Call) (begun : Nat)
      (here : state.phase client = .requesting call begun) :
      SharedStep state (.send client)
        { state.moved client (.receiving call begun state.clears) with isLoaded := true }
  | receive (state : SharedState Client Entry) (client : Client) (call : Call) (begun sentAt : Nat)
      (listing : List Entry) (here : state.phase client = .receiving call begun sentAt) :
      SharedStep state (.receive client listing) (state.looping client call begun sentAt listing)
  | failRequest (state : SharedState Client Entry) (client : Client) (call : Call)
      (begun sentAt : Nat) (here : state.phase client = .receiving call begun sentAt) :
      SharedStep state (.fail client) (state.moved client (.raised call))
  | failBuild (state : SharedState Client Entry) (client : Client) (call : Call)
      (begun sentAt : Nat) (item : Entry) (rest : List Entry)
      (here : state.phase client = .creating call begun sentAt item rest) :
      SharedStep state (.fail client) (state.moved client (.raised call))
  | create (state : SharedState Client Entry) (client : Client) (call : Call) (begun sentAt : Nat)
      (entry : Entry) (rest : List Entry)
      (here : state.phase client = .creating call begun sentAt entry rest)
      (named : CatalogEntry.name entry ≠ []) :
      SharedStep state (.create client)
        { state.looping client call begun sentAt rest with
          entries := state.entries.insert (CatalogEntry.name entry) ⟨entry, sentAt⟩ }
  | createUnnamed (state : SharedState Client Entry) (client : Client) (call : Call)
      (begun sentAt : Nat) (entry : Entry) (rest : List Entry)
      (here : state.phase client = .creating call begun sentAt entry rest)
      (unnamed : CatalogEntry.name entry = []) :
      SharedStep state (.create client) (state.moved client (.raised call))
  | read (state : SharedState Client Entry) (client : Client) (call : Call) (begun : Nat)
      (here : state.phase client = .reading call begun) :
      SharedStep state (.read client)
        (state.moved client (.returned call begun (call.answer state.entries)))
  | clear (state : SharedState Client Entry) :
      SharedStep state .clear
        { state with
          entries := .empty lower (Stamped Entry)
          isLoaded := false
          clears := state.clears + 1
          completed := false }

/-- A set as it is constructed, with clients that have not called it. -/
def SharedState.initial (Client Entry : Type) : SharedState Client Entry where
  entries := .empty lower (Stamped Entry)
  isLoaded := false
  phase _ := .idle
  clears := 0
  completed := false

/-- Clients calling one set. -/
def clients (Client Entry : Type) [DecidableEq Client] [CatalogEntry Entry] :
    System (SharedState Client Entry) (SharedAction Client Entry) where
  start state := state = .initial Client Entry
  step := SharedStep

/-! ### A call that no other client disturbs -/

/-- The map without the stamps. -/
def Erases (stamped : FoldedMap lower (Stamped Entry)) (plain : FoldedMap lower Entry) : Prop :=
  plain.bindings = stamped.bindings.map fun binding => (binding.1, binding.2.entry)

/-- The answer without the stamps. -/
def Answer.erase : Answer (Stamped Entry) → Answer Entry
  | .found entry => .found (entry.map Stamped.entry)
  | .visited entries => .visited (entries.map Stamped.entry)

omit [CatalogEntry Entry] in
theorem Erases.find {stamped : FoldedMap lower (Stamped Entry)} {plain : FoldedMap lower Entry}
    (erases : Erases stamped plain) (key : Text) :
    plain.find key = (stamped.find key).map Stamped.entry := by
  unfold FoldedMap.find
  rw [erases, List.find?_map, Option.map_map, Option.map_map]
  rfl

omit [CatalogEntry Entry] in
theorem Erases.insert {stamped : FoldedMap lower (Stamped Entry)} {plain : FoldedMap lower Entry}
    (erases : Erases stamped plain) (key : Text) (value : Stamped Entry) :
    Erases (stamped.insert key value) (plain.insert key value.entry) := by
  have absent := erases.find key
  unfold Erases at erases ⊢
  cases found : stamped.find key with
  | none =>
    rw [found, Option.map_none] at absent
    rw [FoldedMap.bindings_insert_of_absent _ found, FoldedMap.bindings_insert_of_absent _ absent,
      erases, List.map_append, List.map_singleton]
  | some entry =>
    rw [found, Option.map_some] at absent
    have bound : stamped.find key ≠ none := by
      rw [found]
      exact Option.some_ne_none entry
    have boundPlain : plain.find key ≠ none := by
      rw [absent]
      exact Option.some_ne_none entry.entry
    rw [FoldedMap.insert_of_present _ bound, FoldedMap.insert_of_present _ boundPlain, erases]

omit [CatalogEntry Entry] in
theorem Erases.answer {stamped : FoldedMap lower (Stamped Entry)} {plain : FoldedMap lower Entry}
    (erases : Erases stamped plain) (call : Call) :
    (call.answer stamped).erase = call.answer plain := by
  cases call with
  | getEntry name =>
    rw [Call.answer, Call.answer, erases.find name]
    rfl
  | scan =>
    unfold Erases at erases
    rw [Call.answer, Call.answer, erases, List.map_map]
    show Answer.visited _ = Answer.visited _
    rw [List.map_map]
    rfl

/-- Some step leads from the first state to the second. -/
def Follows (state next : SharedState Client Entry) : Prop :=
  ∃ action, SharedStep state action next

/-- The loop of a client that no other disturbs creates its first entries in order, and comes to
the rest. -/
theorem exists_loop (client : Client) (call : Call) (begun sentAt : Nat) (first rest : List Entry)
    (named : ∀ entry ∈ first, CatalogEntry.name entry ≠ []) (state : SharedState Client Entry)
    (plain : FoldedMap lower Entry) (erases : Erases state.entries plain) :
    ∃ filled : SharedState Client Entry,
      Relation.ReflTransGen Follows (state.looping client call begun sentAt (first ++ rest))
        (filled.looping client call begun sentAt rest) ∧
      Erases filled.entries (insertEntries plain first) ∧ filled.isLoaded = state.isLoaded := by
  induction first generalizing state plain with
  | nil => exact ⟨state, .refl, erases, rfl⟩
  | cons entry first inductionHypothesis =>
    have created : SharedStep (state.looping client call begun sentAt (entry :: (first ++ rest)))
        (.create client) _ :=
      .create _ client call begun sentAt entry (first ++ rest) (Function.update_self _ _ _)
        (named entry List.mem_cons_self)
    obtain ⟨filled, path, entries, flag⟩ := inductionHypothesis
      (fun other member => named other (List.mem_cons_of_mem _ member))
      { state.moved client (.creating call begun sentAt entry (first ++ rest)) with
        entries := state.entries.insert (CatalogEntry.name entry) ⟨entry, sentAt⟩ }
      (plain.insert (CatalogEntry.name entry) entry) (erases.insert _ ⟨entry, sentAt⟩)
    refine ⟨filled, .head ⟨_, created⟩ ?_, entries, flag⟩
    generalize first ++ rest = following at path ⊢
    cases following <;> exact path

/-- What the call of a client has come to, next to what it comes to alone. -/
structure EndsAs (state : SharedState Client Entry) (client : Client) (call : Call) (begun : Nat)
    (result : EStateM.Result Fault (SetState Entry) (Answer Entry)) : Prop where
  entries : Erases state.entries (Stateful.after result).set.entries
  flag : state.isLoaded = (Stateful.after result).set.isLoaded
  phase : match Stateful.outcome result with
    | .ok answer => ∃ stamped, stamped.erase = answer ∧
      state.phase client = .returned call begun stamped
    | .error _ => state.phase client = .raised call

/-- A client in front of its lookup or iteration answers from the map. -/
theorem exists_reading {state : SharedState Client Entry} {client : Client} {call : Call}
    {begun : Nat} (here : state.phase client = .reading call begun) {final : SetState Entry}
    (erases : Erases state.entries final.set.entries)
    (flag : state.isLoaded = final.set.isLoaded) :
    ∃ read, Follows state read ∧
      EndsAs read client call begun (.ok (call.answer final.set.entries) final) :=
  ⟨_, ⟨_, .read state client call begun here⟩, erases, flag, call.answer state.entries,
    erases.answer call, Function.update_self _ _ _⟩

/-- A load that no other client disturbs comes to what it comes to alone, and the call after it to
the same ending. -/
theorem exists_lone_load [Nonempty Entry] {Item : Type} (loader : Loader Item Entry) (call : Call)
    {before : SetState Entry} (unloaded : before.set.isLoaded = false)
    {waiting : SharedState Client Entry} {client : Client} {begun sentAt : Nat}
    (here : waiting.phase client = .receiving call begun sentAt)
    (erases : Erases waiting.entries before.set.entries) (up : waiting.isLoaded = true) :
    ∃ final, Relation.ReflTransGen Follows waiting final ∧
      EndsAs final client call begun (call.run loader.loadEntries before) := by
  have run : call.run loader.loadEntries before = _ := call.run_of_unloaded unloaded
  rw [loader.loadEntries_eq before.flagged] at run
  have named : ∀ entry ∈ (loader.attempt before.world.remote).created,
      CatalogEntry.name entry ≠ [] := fun entry member =>
    (Loader.offers_of_attempt member).named
  have looped := fun rest => exists_loop client call begun sentAt
    (loader.attempt before.world.remote).created rest named waiting before.set.entries erases
  cases replied : loader.reply before.world.remote with
  | error fault =>
    have nothing : loader.attempt before.flagged.world.remote = .stopped fault := by
      show loader.attempt before.world.remote = _
      rw [Loader.attempt, replied]
    rw [nothing] at run
    refine ⟨_, .single ⟨_, .failRequest waiting client call begun sentAt here⟩, ?_⟩
    rw [run]
    exact ⟨erases, up, Function.update_self _ _ _⟩
  | ok items =>
    cases stops : (loader.attempt before.world.remote).fault with
    | none =>
      obtain ⟨filled, path, made, still⟩ := looped []
      have ending : (loader.attempt before.flagged.world.remote).ending = .ok ⟨⟩ := by
        show (loader.attempt before.world.remote).ending = _
        rw [Attempt.ending, stops]
      rw [ending] at run
      have ready : (filled.looping client call begun sentAt []).phase client =
          .reading call begun := Function.update_self _ _ _
      obtain ⟨final, read, ends⟩ := @exists_reading _ _ _ _ _ _ _ _ ready
        ((before.flagged.requested loader).withEntries (insertEntries before.flagged.set.entries
          (loader.attempt before.flagged.world.remote).created)) made (still.trans up)
      refine ⟨final, .head ⟨_, .receive waiting client call begun sentAt _ here⟩
        (path.tail read), ?_⟩
      rw [run]
      exact ends
    | some fault =>
      obtain ⟨item⟩ := ‹Nonempty Entry›
      obtain ⟨filled, path, made, still⟩ := looped [item]
      have ending : (loader.attempt before.flagged.world.remote).ending = .error fault := by
        show (loader.attempt before.world.remote).ending = _
        rw [Attempt.ending, stops]
      rw [ending] at run
      have failed : Follows (filled.looping client call begun sentAt [item]) _ :=
        ⟨_, .failBuild _ client call begun sentAt item [] (Function.update_self _ _ _)⟩
      refine ⟨_, .head ⟨_, .receive waiting client call begun sentAt _ here⟩
        (path.tail failed), ?_⟩
      rw [run]
      exact ⟨made, still.trans up, Function.update_self _ _ _⟩

/-- What a call does alone, it does here when no other client takes a step: the same ending, with
the same answer or with an exception, and the same map. -/
theorem exists_lone_call [Nonempty Entry] {Item : Type} (loader : Loader Item Entry) (call : Call)
    (before : SetState Entry) (state : SharedState Client Entry) (client : Client)
    (free : (state.phase client).isFree) (erases : Erases state.entries before.set.entries)
    (flag : state.isLoaded = before.set.isLoaded) :
    ∃ final, Relation.ReflTransGen Follows state final ∧
      EndsAs final client call state.clears (call.run loader.loadEntries before) := by
  have began : Follows state _ := ⟨_, .begin state client call free⟩
  cases loaded : before.set.isLoaded with
  | true =>
    have tested : Follows (state.moved client (.testing call state.clears)) _ :=
      ⟨_, .testLoaded _ client call state.clears (Function.update_self _ _ _)
        (flag.trans loaded)⟩
    have here : ((state.moved client (.testing call state.clears)).moved client
        (.reading call state.clears)).phase client = .reading call state.clears :=
      Function.update_self _ _ _
    obtain ⟨final, read, ends⟩ := exists_reading here erases flag
    refine ⟨final, .head began (.head tested (.single read)), ?_⟩
    rw [call.run_of_loaded loaded]
    exact ends
  | false =>
    have tested : Follows (state.moved client (.testing call state.clears)) _ :=
      ⟨_, .testUnloaded _ client call state.clears (Function.update_self _ _ _)
        (flag.trans loaded)⟩
    obtain ⟨waiting, sent, here, entries, up⟩ : ∃ waiting,
        Follows ((state.moved client (.testing call state.clears)).moved client
          (.requesting call state.clears)) waiting ∧
        waiting.phase client = .receiving call state.clears state.clears ∧
        waiting.entries = state.entries ∧ waiting.isLoaded = true :=
      ⟨_, ⟨_, .send _ client call state.clears (Function.update_self _ _ _)⟩,
        Function.update_self _ _ _, rfl, rfl⟩
    obtain ⟨final, path, ends⟩ := exists_lone_load loader call loaded here
      (entries ▸ erases) up
    exact ⟨final, .head began (.head tested (.head sent path)), ends⟩

end Clients

end UcCatalog
