/-
This file is about what clients of one set can rely on between two clears, however
they interleave, whatever the server replies, and whether or not a load succeeds.
No client asks for the listing twice: once it has asked, the flag is up and stays
up. And the map only grows, so that an entry that a call has returned is owned by
the set, and found under its name, in every state up to the next clear.
-/

import Mathlib.Tactic.FinCases
import UcCatalog.ConcurrentCalls

namespace UcCatalog

open Transition

section Clients

variable {Client Entry : Type} [DecidableEq Client]

/-! ### One request a client -/

/-- A request of this client. -/
def SharedAction.isRequestOf (client : Client) : SharedAction Client Entry → Bool
  | .send other => other = client
  | _ => false

/-- An action of a run between two clears. -/
def SharedAction.isNoClear : SharedAction Client Entry → Prop
  | .clear => False
  | _ => True

/-- A client that has not just found the flag down. -/
def Phase.isNotRequesting : Phase Entry → Prop
  | .requesting _ _ => False
  | _ => True

/-- The flag is up, and the client has not found it down before. -/
structure HasAsked (client : Client) (state : SharedState Client Entry) : Prop where
  flagged : state.isLoaded = true
  past : (state.phase client).isNotRequesting

theorem HasAsked.moved {client other : Client} {state : SharedState Client Entry}
    (asked : HasAsked client state) {phase : Phase Entry} (further : phase.isNotRequesting) :
    HasAsked client (state.moved other phase) := by
  refine ⟨asked.flagged, ?_⟩
  show (Function.update state.phase other phase client).isNotRequesting
  by_cases itself : client = other
  · rw [itself, Function.update_self]
    exact further
  · rw [Function.update_of_ne itself]
    exact asked.past

theorem HasAsked.looping {client other : Client} {state : SharedState Client Entry}
    (asked : HasAsked client state) (call : Call) (begun sentAt : Nat) (rest : List Entry) :
    HasAsked client (state.looping other call begun sentAt rest) := by
  cases rest with
  | nil =>
    have moved : HasAsked client (state.moved other (.reading call begun)) := asked.moved trivial
    exact ⟨moved.flagged, moved.past⟩
  | cons entry rest => exact asked.moved trivial

variable [CatalogEntry Entry]

/-- A client that has asked does not ask again, and has asked after any step but a clear. -/
theorem HasAsked.step {client : Client} {state next : SharedState Client Entry}
    {action : SharedAction Client Entry} (asked : HasAsked client state)
    (noClear : action.isNoClear) (steps : SharedStep state action next) :
    action.isRequestOf client = false ∧ HasAsked client next := by
  cases steps with
  | begin other call free => exact ⟨rfl, asked.moved trivial⟩
  | testLoaded other call begun here loaded => exact ⟨rfl, asked.moved trivial⟩
  | testUnloaded other call begun here unloaded => cases asked.flagged.symm.trans unloaded
  | send other call begun here =>
    have differ : other ≠ client := by
      rintro rfl
      have past := asked.past
      rw [here] at past
      exact past
    have moved : HasAsked client (state.moved other (.receiving call begun state.clears)) :=
      asked.moved trivial
    exact ⟨decide_eq_false differ, rfl, moved.past⟩
  | receive other call begun sentAt listing here => exact ⟨rfl, asked.looping call begun sentAt _⟩
  | failRequest other | failBuild other => exact ⟨rfl, asked.moved trivial⟩
  | create other call begun sentAt entry rest here named =>
    have looping : HasAsked client (state.looping other call begun sentAt rest) :=
      asked.looping call begun sentAt rest
    exact ⟨rfl, looping.flagged, looping.past⟩
  | createUnnamed other call begun sentAt entry rest here unnamed =>
    exact ⟨rfl, asked.moved trivial⟩
  | read other call begun here => exact ⟨rfl, asked.moved trivial⟩
  | clear => exact noClear.elim

end Clients

section Clients

variable {Client Entry : Type} [DecidableEq Client] [CatalogEntry Entry]

/-! ### What is returned is kept -/

/-- What is bound stays bound to the same entry. -/
def StillBound (earlier : FoldedMap lower (Stamped Entry)) (state : SharedState Client Entry) :
    Prop :=
  ∀ key entry, earlier.find key = some entry → state.entries.find key = some entry

omit [CatalogEntry Entry] [DecidableEq Client] in
theorem StillBound.insert {earlier : FoldedMap lower (Stamped Entry)}
    {state : SharedState Client Entry} (keeps : StillBound earlier state) (name : Text)
    (stamped : Stamped Entry) :
    StillBound earlier { state with entries := state.entries.insert name stamped } := by
  intro key entry bound
  show (state.entries.insert name stamped).find key = some entry
  rw [FoldedMap.find_insert, keeps key entry bound]
  rfl

theorem StillBound.step {earlier : FoldedMap lower (Stamped Entry)}
    {state next : SharedState Client Entry} {action : SharedAction Client Entry}
    (keeps : StillBound earlier state) (noClear : action.isNoClear)
    (steps : SharedStep state action next) : StillBound earlier next := by
  cases steps with
  | create client call begun sentAt entry rest here named =>
    exact keeps.insert (CatalogEntry.name entry) ⟨entry, sentAt⟩
  | receive client call begun sentAt listing here => cases listing <;> exact keeps
  | clear => exact noClear.elim
  | _ => exact keeps

theorem keyedByName_of_reaches
    {allowed : SharedState Client Entry → SharedAction Client Entry → Prop}
    {state : SharedState Client Entry} (reached : Reaches (clients Client Entry) allowed state) :
    KeyedByName state.entries := by
  have starts : ∀ state, (clients Client Entry).start state → KeyedByName state.entries := by
    rintro _ rfl
    exact fun _ member => absurd member List.not_mem_nil
  refine reached.invariant starts fun before action next keyed _ steps => ?_
  cases steps with
  | create client call begun sentAt entry rest here named => exact keyed.insert ⟨entry, sentAt⟩
  | receive client call begun sentAt listing here => cases listing <;> exact keyed
  | clear => exact fun _ member => absurd member List.not_mem_nil
  | _ => exact keyed

omit [CatalogEntry Entry] in
/-- The entries of an answer are entries of the map. -/
theorem bound_of_answered {entries : FoldedMap lower (Stamped Entry)} {call : Call}
    {seen : Stamped Entry} (shown : seen ∈ (call.answer entries).entries) :
    ∃ name, (name, seen) ∈ entries.bindings := by
  cases call with
  | getEntry name =>
    obtain ⟨bound, member, _⟩ := FoldedMap.exists_of_find (Option.mem_toList.mp shown)
    exact ⟨bound, member⟩
  | scan =>
    obtain ⟨binding, member, rfl⟩ := List.mem_map.mp shown
    exact ⟨binding.1, member⟩

/-- What a call has returned is found under its name in every state up to the next clear. -/
theorem answers_stay_owned (allowed : SharedState Client Entry → SharedAction Client Entry → Prop)
    (state read final : SharedState Client Entry) (actions : List (SharedAction Client Entry))
    (reached : Reaches (clients Client Entry) allowed state) (client : Client)
    (reads : SharedStep state (.read client) read)
    (path : Path (clients Client Entry) read actions final)
    (noClear : ∀ action ∈ actions, action.isNoClear) :
    ∃ call begun answer, read.phase client = .returned call begun answer ∧
      ∀ seen ∈ answer.entries, final.entries.find (CatalogEntry.name seen) = some seen := by
  have keyed := keyedByName_of_reaches reached
  cases reads with
  | read _ call begun here =>
    refine ⟨call, begun, call.answer state.entries, Function.update_self .., fun seen shown => ?_⟩
    have keeps : StillBound state.entries final := path.invariant
      (fun _ _ _ keeps permitted steps => StillBound.step keeps permitted steps) noClear
      fun _ _ bound => bound
    obtain ⟨name, member⟩ := bound_of_answered shown
    exact keeps _ seen (FoldedMap.find_of_mem member (congrArg lower (keyed _ member)))

end Clients

/-- A schema that was looked up is still found after the load of another client has failed. -/
theorem answers_stay_owned_twoClients : ∃ final : SharedState Bool SchemaEntry,
    final.phase true = .raised .scan ∧
    final.entries.find "s".toList = some ⟨schemaNamed "s".toList, 0⟩ := by
  have started : Reaches (clients Bool SchemaEntry) (fun _ _ => True) (.initial Bool SchemaEntry) :=
    .start rfl
  have began := started.step (.begin false (.getEntry "S".toList)) trivial (.begin _ false _ rfl)
  have otherBegan := began.step (.begin true .scan) trivial (.begin _ true _ rfl)
  have tested := otherBegan.step (.test false) trivial (.testUnloaded _ false _ _ rfl rfl)
  have otherTested := tested.step (.test true) trivial (.testUnloaded _ true _ _ rfl rfl)
  have sent := otherTested.step (.send false) trivial (.send _ false _ _ rfl)
  have received := sent.step (.receive false [schemaNamed "s".toList]) trivial
    (.receive _ false _ _ _ _ rfl)
  have created := received.step (.create false) trivial
    (.create _ false _ _ _ _ _ rfl (by decide))
  obtain ⟨call, begun, answer, returned, kept⟩ := answers_stay_owned (fun _ _ => True) _ _ _
    [.send true, .fail true] created false (.read _ false _ _ rfl)
    (.cons (.send _ true .scan 0 rfl) (.cons (.failRequest _ true .scan 0 0 rfl) (.nil _)))
    (fun action member => by fin_cases member <;> trivial)
  cases returned
  exact ⟨_, rfl, kept ⟨schemaNamed "s".toList, 0⟩ (Option.mem_toList.mpr rfl)⟩

end UcCatalog
