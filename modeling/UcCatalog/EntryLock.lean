/-
This file is `entry_lock` itself. `CreateEntry`, `GetEntry` and `Scan` take it, and
`Scan` keeps it while it calls back for one entry after the other. `ClearEntries`
does not take it. The steps here are those between two accesses to the lock or to
the map, so that a clear can fall between two entries of an iteration, which then
goes on with an iterator of a map that is gone.

Where no clear falls into a locked section, the sections are as good as one step
each: the view of a state as one of `SharedState` takes runs to runs. No client
waits for ever, since whoever holds the lock can go on.
-/

import UcCatalog.Catalog
import UcCatalog.Interleaving

namespace UcCatalog

open Transition

/-! ### The clients and the lock -/

/-- Where a client stands: outside the lock as in `Phase`, or behind it. An iteration carries the
number of clears before it began. A client is lost when it has used an iterator that is not
valid. -/
inductive LockedPhase (Entry : Type) where
  | outside (phase : Phase Entry)
  | inserting (call : Call) (begun sentAt : Nat) (entry : Entry) (rest : List Entry)
  | inserted (call : Call) (begun sentAt : Nat) (rest : List Entry)
  | refusing (call : Call)
  | finding (name : Text) (begun : Nat)
  | iterating (begun opened : Nat) (visited : List (Stamped Entry))
  | answering (call : Call) (begun : Nat) (answer : Answer (Stamped Entry))
  | lost

/-- A client that holds the lock. -/
def LockedPhase.isInside {Entry : Type} : LockedPhase Entry → Bool
  | .outside _ | .lost => false
  | _ => true

structure LockedState (Client Entry : Type) where
  entries : FoldedMap lower (Stamped Entry)
  isLoaded : Bool
  entryLock : Option Client
  phase : Client → LockedPhase Entry
  clears : Nat
  completed : Bool

inductive LockedAction (Client Entry : Type) where
  | begin (client : Client) (call : Call)
  | test (client : Client)
  | send (client : Client)
  | receive (client : Client) (listing : List Entry)
  | fail (client : Client)
  | acquire (client : Client)
  | insert (client : Client)
  | find (client : Client)
  | visit (client : Client)
  | stop (client : Client)
  | release (client : Client)
  | clear

/-- The loop of `LoadEntries` in front of the entries that are left. -/
def loopPhase {Entry : Type} (call : Call) (begun sentAt : Nat) : List Entry → Phase Entry
  | [] => .reading call begun
  | entry :: rest => .creating call begun sentAt entry rest

section Clients

variable {Client Entry : Type} [DecidableEq Client]

def LockedState.moved (state : LockedState Client Entry) (client : Client)
    (phase : LockedPhase Entry) : LockedState Client Entry :=
  { state with phase := Function.update state.phase client phase }

/-- The client takes the lock and goes on behind it. -/
def LockedState.entering (state : LockedState Client Entry) (client : Client)
    (phase : LockedPhase Entry) : LockedState Client Entry :=
  { state.moved client phase with entryLock := some client }

/-- The client gives the lock back. -/
def LockedState.leaving (state : LockedState Client Entry) (client : Client)
    (phase : Phase Entry) : LockedState Client Entry :=
  { state.moved client (.outside phase) with entryLock := none }

variable [CatalogEntry Entry]

/-- The steps. Only `acquire` waits for anything. -/
inductive LockedStep :
    LockedState Client Entry → LockedAction Client Entry → LockedState Client Entry → Prop
  | begin (state : LockedState Client Entry) (client : Client) (call : Call) (phase : Phase Entry)
      (here : state.phase client = .outside phase) (free : phase.isFree) :
      LockedStep state (.begin client call)
        (state.moved client (.outside (.testing call state.clears)))
  | testLoaded (state : LockedState Client Entry) (client : Client) (call : Call) (begun : Nat)
      (here : state.phase client = .outside (.testing call begun))
      (loaded : state.isLoaded = true) :
      LockedStep state (.test client) (state.moved client (.outside (.reading call begun)))
  | testUnloaded (state : LockedState Client Entry) (client : Client) (call : Call) (begun : Nat)
      (here : state.phase client = .outside (.testing call begun))
      (unloaded : state.isLoaded = false) :
      LockedStep state (.test client) (state.moved client (.outside (.requesting call begun)))
  | send (state : LockedState Client Entry) (client : Client) (call : Call) (begun : Nat)
      (here : state.phase client = .outside (.requesting call begun)) :
      LockedStep state (.send client)
        { state.moved client (.outside (.receiving call begun state.clears)) with isLoaded := true }
  | receive (state : LockedState Client Entry) (client : Client) (call : Call) (begun sentAt : Nat)
      (listing : List Entry) (here : state.phase client = .outside (.receiving call begun sentAt)) :
      LockedStep state (.receive client listing)
        { state.moved client (.outside (loopPhase call begun sentAt listing)) with
          completed := state.completed || listing.isEmpty }
  | failRequest (state : LockedState Client Entry) (client : Client) (call : Call)
      (begun sentAt : Nat) (here : state.phase client = .outside (.receiving call begun sentAt)) :
      LockedStep state (.fail client) (state.moved client (.outside (.raised call)))
  | failBuild (state : LockedState Client Entry) (client : Client) (call : Call)
      (begun sentAt : Nat) (item : Entry) (rest : List Entry)
      (here : state.phase client = .outside (.creating call begun sentAt item rest)) :
      LockedStep state (.fail client) (state.moved client (.outside (.raised call)))
  | acquireCreate (state : LockedState Client Entry) (client : Client) (call : Call)
      (begun sentAt : Nat) (entry : Entry) (rest : List Entry)
      (here : state.phase client = .outside (.creating call begun sentAt entry rest))
      (free : state.entryLock = none) :
      LockedStep state (.acquire client)
        (state.entering client (.inserting call begun sentAt entry rest))
  | acquireFind (state : LockedState Client Entry) (client : Client) (name : Text) (begun : Nat)
      (here : state.phase client = .outside (.reading (.getEntry name) begun))
      (free : state.entryLock = none) :
      LockedStep state (.acquire client) (state.entering client (.finding name begun))
  | acquireScan (state : LockedState Client Entry) (client : Client) (begun : Nat)
      (here : state.phase client = .outside (.reading .scan begun))
      (free : state.entryLock = none) :
      LockedStep state (.acquire client) (state.entering client (.iterating begun state.clears []))
  | insert (state : LockedState Client Entry) (client : Client) (call : Call) (begun sentAt : Nat)
      (entry : Entry) (rest : List Entry)
      (here : state.phase client = .inserting call begun sentAt entry rest)
      (named : CatalogEntry.name entry ≠ []) :
      LockedStep state (.insert client)
        { state.moved client (.inserted call begun sentAt rest) with
          entries := state.entries.insert (CatalogEntry.name entry) ⟨entry, sentAt⟩
          completed := state.completed || rest.isEmpty }
  | insertUnnamed (state : LockedState Client Entry) (client : Client) (call : Call)
      (begun sentAt : Nat) (entry : Entry) (rest : List Entry)
      (here : state.phase client = .inserting call begun sentAt entry rest)
      (unnamed : CatalogEntry.name entry = []) :
      LockedStep state (.insert client) (state.moved client (.refusing call))
  | find (state : LockedState Client Entry) (client : Client) (name : Text) (begun : Nat)
      (here : state.phase client = .finding name begun) :
      LockedStep state (.find client)
        (state.moved client
          (.answering (.getEntry name) begun (.found (state.entries.find name))))
  | visit (state : LockedState Client Entry) (client : Client) (begun opened : Nat)
      (visited : List (Stamped Entry)) (entry : Stamped Entry)
      (here : state.phase client = .iterating begun opened visited) (valid : opened = state.clears)
      (next : (state.entries.bindings.map Prod.snd)[visited.length]? = some entry) :
      LockedStep state (.visit client)
        (state.moved client (.iterating begun opened (visited ++ [entry])))
  | stop (state : LockedState Client Entry) (client : Client) (begun opened : Nat)
      (visited : List (Stamped Entry))
      (here : state.phase client = .iterating begun opened visited) (valid : opened = state.clears)
      (last : (state.entries.bindings.map Prod.snd)[visited.length]? = none) :
      LockedStep state (.stop client)
        (state.moved client (.answering .scan begun (.visited visited)))
  | visitCleared (state : LockedState Client Entry) (client : Client) (begun opened : Nat)
      (visited : List (Stamped Entry))
      (here : state.phase client = .iterating begun opened visited)
      (invalid : opened ≠ state.clears) :
      LockedStep state (.visit client) (state.moved client .lost)
  | releaseInserted (state : LockedState Client Entry) (client : Client) (call : Call)
      (begun sentAt : Nat) (rest : List Entry)
      (here : state.phase client = .inserted call begun sentAt rest) :
      LockedStep state (.release client) (state.leaving client (loopPhase call begun sentAt rest))
  | releaseRefusing (state : LockedState Client Entry) (client : Client) (call : Call)
      (here : state.phase client = .refusing call) :
      LockedStep state (.release client) (state.leaving client (.raised call))
  | releaseAnswering (state : LockedState Client Entry) (client : Client) (call : Call)
      (begun : Nat) (answer : Answer (Stamped Entry))
      (here : state.phase client = .answering call begun answer) :
      LockedStep state (.release client) (state.leaving client (.returned call begun answer))
  | clear (state : LockedState Client Entry) :
      LockedStep state .clear
        { state with
          entries := .empty lower (Stamped Entry)
          isLoaded := false
          clears := state.clears + 1
          completed := false }

/-- A set as it is constructed, with clients that have not called it. -/
def LockedState.initial (Client Entry : Type) : LockedState Client Entry where
  entries := .empty lower (Stamped Entry)
  isLoaded := false
  entryLock := none
  phase _ := .outside .idle
  clears := 0
  completed := false

/-- Clients calling one set, lock by lock. -/
def lockedClients (Client Entry : Type) [DecidableEq Client] [CatalogEntry Entry] :
    System (LockedState Client Entry) (LockedAction Client Entry) where
  start state := state = .initial Client Entry
  step := LockedStep

/-! ### The locked sections -/

/-- An iteration that is under way has visited the first entries of the map there is. -/
def LockedPhase.Sound (clears : Nat) (values : List (Stamped Entry)) : LockedPhase Entry → Prop
  | .iterating _ opened visited => opened = clears ∧ visited <+: values
  | .lost => False
  | _ => True

/-- One client at most is behind the lock, and it is the one that has taken it. -/
structure Locked (state : LockedState Client Entry) : Prop where
  holder : ∀ client, state.entryLock = some client ↔ (state.phase client).isInside = true
  phases : ∀ client, (state.phase client).Sound state.clears (state.entries.bindings.map Prod.snd)

variable {state : LockedState Client Entry} {client : Client}

section Sections

omit [CatalogEntry Entry]

/-- A client goes on on its side of the lock. -/
theorem Locked.moved (locked : Locked state) {phase : LockedPhase Entry}
    (same : phase.isInside = (state.phase client).isInside)
    (sound : phase.Sound state.clears (state.entries.bindings.map Prod.snd)) :
    Locked (state.moved client phase) := by
  refine ⟨?_, (Function.forall_update_iff state.phase fun _ phase => phase.Sound _ _).mpr
    ⟨sound, fun other _ => locked.phases other⟩⟩
  exact (Function.forall_update_iff state.phase fun other phase =>
    state.entryLock = some other ↔ phase.isInside = true).mpr
      ⟨by rw [same]; exact locked.holder client, fun other _ => locked.holder other⟩

theorem Locked.entering (locked : Locked state) (free : state.entryLock = none)
    {phase : LockedPhase Entry} (inside : phase.isInside = true)
    (sound : phase.Sound state.clears (state.entries.bindings.map Prod.snd)) :
    Locked (state.entering client phase) := by
  refine ⟨?_, (Function.forall_update_iff state.phase fun _ phase => phase.Sound _ _).mpr
    ⟨sound, fun other _ => locked.phases other⟩⟩
  refine (Function.forall_update_iff state.phase fun other phase =>
    some client = some other ↔ phase.isInside = true).mpr ⟨?_, fun other differ => ?_⟩
  · exact ⟨fun _ => inside, fun _ => rfl⟩
  · refine ⟨fun same => absurd (Option.some.inj same).symm differ, fun alsoInside => ?_⟩
    cases free.symm.trans ((locked.holder other).mpr alsoInside)

theorem Locked.leaving (locked : Locked state) (inside : (state.phase client).isInside = true)
    (phase : Phase Entry) : Locked (state.leaving client phase) := by
  have owned : state.entryLock = some client := (locked.holder client).mpr inside
  refine ⟨?_, (Function.forall_update_iff state.phase fun _ phase => phase.Sound _ _).mpr
    ⟨trivial, fun other _ => locked.phases other⟩⟩
  refine (Function.forall_update_iff state.phase fun other phase =>
    none = some other ↔ phase.isInside = true).mpr ⟨⟨nofun, nofun⟩, fun other differ => ?_⟩
  refine ⟨nofun, fun alsoInside => ?_⟩
  cases owned.symm.trans ((locked.holder other).mpr alsoInside)
  exact absurd rfl differ

omit [DecidableEq Client] in
/-- While nobody iterates, the map and its clears can be anything. -/
theorem Locked.replaced (locked : Locked state)
    (noneIterates : ∀ client begun opened visited,
      state.phase client ≠ .iterating begun opened visited)
    (entries : FoldedMap lower (Stamped Entry)) (isLoaded : Bool) (clears : Nat)
    (completed : Bool) : Locked { state with entries, isLoaded, clears, completed } := by
  refine ⟨locked.holder, fun client => ?_⟩
  have sound := locked.phases client
  show (state.phase client).Sound clears (entries.bindings.map Prod.snd)
  cases here : state.phase client with
  | iterating begun opened visited => exact absurd here (noneIterates client begun opened visited)
  | lost =>
    rw [here] at sound
    exact sound.elim
  | _ => trivial

omit [DecidableEq Client] in
/-- While a client holds the lock that does not iterate, nobody does. -/
theorem Locked.noneIterates (locked : Locked state) (inside : (state.phase client).isInside = true)
    (different : ∀ begun opened visited, state.phase client ≠ .iterating begun opened visited) :
    ∀ client begun opened visited, state.phase client ≠ .iterating begun opened visited := by
  intro iterator begun opened visited iterates
  have owned := (locked.holder client).mpr inside
  have alsoOwned : state.entryLock = some iterator :=
    (locked.holder iterator).mpr (by rw [iterates]; rfl)
  cases owned.symm.trans alsoOwned
  exact different begun opened visited iterates

end Sections

omit [CatalogEntry Entry] [DecidableEq Client] in
theorem prefix_append_singleton {visited values : List (Stamped Entry)} {entry : Stamped Entry}
    (before : visited <+: values) (next : values[visited.length]? = some entry) :
    visited ++ [entry] <+: values := by
  obtain ⟨rest, rfl⟩ := before
  rw [List.getElem?_append_right (Nat.le_refl _), Nat.sub_self] at next
  cases rest with
  | nil => cases next
  | cons first rest =>
    cases next
    exact ⟨rest, by rw [List.append_assoc, List.singleton_append]⟩

omit [CatalogEntry Entry] [DecidableEq Client] in
theorem locked_initial : Locked (LockedState.initial Client Entry) :=
  ⟨fun _ => ⟨nofun, nofun⟩, fun _ => trivial⟩

/-- A step keeps to the lock, and so does a clear that does not fall into a locked section. -/
theorem Locked.step {next : LockedState Client Entry} {action : LockedAction Client Entry}
    (locked : Locked state) (apart : action = .clear → state.entryLock = none)
    (steps : LockedStep state action next) : Locked next := by
  cases steps with
  | begin client call phase here free =>
    exact locked.moved (by rw [here]; rfl) trivial
  | testLoaded client call begun here loaded =>
    exact locked.moved (by rw [here]; rfl) trivial
  | testUnloaded client call begun here unloaded =>
    exact locked.moved (by rw [here]; rfl) trivial
  | send client call begun here =>
    have moved : Locked (state.moved client (.outside (.receiving call begun state.clears))) :=
      locked.moved (by rw [here]; rfl) trivial
    exact ⟨moved.holder, moved.phases⟩
  | receive client call begun sentAt listing here =>
    have moved : Locked (state.moved client (.outside (loopPhase call begun sentAt listing))) :=
      locked.moved (by rw [here]; rfl) trivial
    exact ⟨moved.holder, moved.phases⟩
  | failRequest client call begun sentAt here => exact locked.moved (by rw [here]; rfl) trivial
  | failBuild client call begun sentAt item rest here =>
    exact locked.moved (by rw [here]; rfl) trivial
  | acquireCreate client call begun sentAt entry rest here free =>
    exact locked.entering free rfl trivial
  | acquireFind client name begun here free => exact locked.entering free rfl trivial
  | acquireScan client begun here free =>
    exact locked.entering free rfl ⟨rfl, List.nil_prefix⟩
  | insert client call begun sentAt entry rest here named =>
    have inside : (state.phase client).isInside = true := by rw [here]; rfl
    have noneIterates := locked.noneIterates inside (by rw [here]; exact fun _ _ _ => nofun)
    exact (locked.replaced noneIterates _ _ _ _).moved (by rw [inside]; rfl) trivial
  | insertUnnamed client call begun sentAt entry rest here unnamed =>
    exact locked.moved (by rw [here]; rfl) trivial
  | find client name begun here => exact locked.moved (by rw [here]; rfl) trivial
  | visit client begun opened visited entry here valid next =>
    have sound := locked.phases client
    rw [here] at sound
    exact locked.moved (by rw [here]; rfl) ⟨valid, prefix_append_singleton sound.2 next⟩
  | stop client begun opened visited here valid last =>
    exact locked.moved (by rw [here]; rfl) trivial
  | visitCleared client begun opened visited here invalid =>
    have sound := locked.phases client
    rw [here] at sound
    exact absurd sound.1 invalid
  | releaseInserted client call begun sentAt rest here =>
    exact locked.leaving (by rw [here]; rfl) _
  | releaseRefusing client call here => exact locked.leaving (by rw [here]; rfl) _
  | releaseAnswering client call begun answer here => exact locked.leaving (by rw [here]; rfl) _
  | clear =>
    refine locked.replaced (fun client begun opened visited iterates => ?_) _ _ _ _
    have owned : state.entryLock = some client :=
      (locked.holder client).mpr (by rw [iterates]; rfl)
    cases (apart rfl).symm.trans owned

end Clients

/-! ### The sections as single steps -/

section Views

variable {Client Entry : Type}

/-- Where a client stands if its section is one step: the one that inserts, finds, or comes to the
end of the map. -/
def LockedPhase.view : LockedPhase Entry → Phase Entry
  | .outside phase => phase
  | .inserting call begun sentAt entry rest => .creating call begun sentAt entry rest
  | .inserted call begun sentAt rest => loopPhase call begun sentAt rest
  | .refusing call => .raised call
  | .finding name begun => .reading (.getEntry name) begun
  | .iterating begun _ _ => .reading .scan begun
  | .answering call begun answer => .returned call begun answer
  | .lost => .idle

/-- The state if the sections are one step each. -/
def LockedState.view (state : LockedState Client Entry) : SharedState Client Entry where
  entries := state.entries
  isLoaded := state.isLoaded
  phase client := (state.phase client).view
  clears := state.clears
  completed := state.completed

/-- The single step a step stands for. -/
def LockedAction.shared : LockedAction Client Entry → Option (SharedAction Client Entry)
  | .begin client call => some (.begin client call)
  | .test client => some (.test client)
  | .send client => some (.send client)
  | .receive client listing => some (.receive client listing)
  | .fail client => some (.fail client)
  | .insert client => some (.create client)
  | .find client | .stop client => some (.read client)
  | .clear => some .clear
  | .acquire _ | .visit _ | .release _ => none

/-- An action that is neither the beginning of a call nor a clear. -/
def LockedAction.goesOn : LockedAction Client Entry → Bool
  | .begin _ _ | .clear => false
  | _ => true

/-- A step that is allowed as a single one, and is no clear in a locked section. -/
def Undisturbed (allowed : SharedState Client Entry → SharedAction Client Entry → Prop)
    (state : LockedState Client Entry) (action : LockedAction Client Entry) : Prop :=
  (action = .clear → state.entryLock = none) ∧
    ∀ shared, action.shared = some shared → allowed state.view shared

variable [DecidableEq Client]

theorem view_moved (state : LockedState Client Entry) (client : Client)
    (phase : LockedPhase Entry) :
    (fun other => ((Function.update state.phase client phase) other).view) =
      Function.update state.view.phase client phase.view := by
  funext other
  by_cases itself : other = client
  · rw [itself, Function.update_self, Function.update_self]
  · rw [Function.update_of_ne itself, Function.update_of_ne itself]
    rfl

/-- A move between two phases of one view is no move. -/
theorem view_update {state : LockedState Client Entry} {client : Client}
    {phase : LockedPhase Entry} (same : phase.view = (state.phase client).view) :
    (fun other => ((Function.update state.phase client phase) other).view) = state.view.phase := by
  rw [view_moved, same]
  exact Function.update_eq_self client state.view.phase

variable [CatalogEntry Entry]

omit [CatalogEntry Entry] in
theorem looping_eq (state : SharedState Client Entry) (client : Client) (call : Call)
    (begun sentAt : Nat) (rest : List Entry) :
    state.looping client call begun sentAt rest =
      { state.moved client (loopPhase call begun sentAt rest) with
        completed := state.completed || rest.isEmpty } := by
  cases rest with
  | nil =>
    rw [List.isEmpty_nil, Bool.or_true]
    rfl
  | cons entry rest =>
    rw [List.isEmpty_cons, Bool.or_false]
    rfl

/-- A step is seen as the single step it stands for, or not at all. -/
theorem view_step {state next : LockedState Client Entry} {action : LockedAction Client Entry}
    (locked : Locked state) (steps : LockedStep state action next) :
    match action.shared with
    | some shared => SharedStep state.view shared next.view
    | none => next.view = state.view := by
  have seen : ∀ {client phase}, state.phase client = phase →
      state.view.phase client = phase.view := by
    rintro client _ rfl
    rfl
  have seenAs : ∀ {action reached shown}, SharedStep state.view action reached → reached = shown →
      SharedStep state.view action shown := fun step same => same ▸ step
  have moves : ∀ client phase, (state.moved client phase).view =
      state.view.moved client phase.view := fun client phase =>
    congrArg (fun phase => { state.view with phase }) (view_moved state client phase)
  have stays : ∀ {client phase}, phase.view = (state.phase client).view →
      ({ state.view with
        phase := fun other => ((Function.update state.phase client phase) other).view } :
          SharedState Client Entry) = state.view := fun same =>
    congrArg (fun phase => { state.view with phase }) (view_update same)
  cases steps with
  | begin client call phase here free =>
    have step := SharedStep.begin state.view client call (by rw [seen here]; exact free)
    exact seenAs step (moves client (.outside (.testing call state.clears))).symm
  | testLoaded client call begun here loaded =>
    have step := SharedStep.testLoaded state.view client call begun (seen here) loaded
    exact seenAs step (moves client (.outside (.reading call begun))).symm
  | testUnloaded client call begun here unloaded =>
    have step := SharedStep.testUnloaded state.view client call begun (seen here) unloaded
    exact seenAs step (moves client (.outside (.requesting call begun))).symm
  | send client call begun here =>
    have step := SharedStep.send state.view client call begun (seen here)
    have same := congrArg
      (fun phase => ({ state.view with phase, isLoaded := true } : SharedState Client Entry))
      (view_moved state client (.outside (.receiving call begun state.clears)))
    exact seenAs step same.symm
  | receive client call begun sentAt listing here =>
    have step := SharedStep.receive state.view client call begun sentAt listing (seen here)
    rw [looping_eq] at step
    have same := congrArg
      (fun phase => { state.view with phase, completed := state.completed || listing.isEmpty })
      (view_moved state client (.outside (loopPhase call begun sentAt listing)))
    exact seenAs step same.symm
  | failRequest client call begun sentAt here =>
    have step := SharedStep.failRequest state.view client call begun sentAt (seen here)
    exact seenAs step (moves client (.outside (.raised call))).symm
  | failBuild client call begun sentAt item rest here =>
    have step := SharedStep.failBuild state.view client call begun sentAt item rest (seen here)
    exact seenAs step (moves client (.outside (.raised call))).symm
  | acquireCreate client call begun sentAt entry rest here free => exact stays (by rw [here]; rfl)
  | acquireFind client name begun here free => exact stays (by rw [here]; rfl)
  | acquireScan client begun here free => exact stays (by rw [here]; rfl)
  | insert client call begun sentAt entry rest here named =>
    have step := SharedStep.create state.view client call begun sentAt entry rest (seen here) named
    rw [looping_eq] at step
    have same := congrArg (fun phase =>
      { state.view with
        phase
        entries := state.entries.insert (CatalogEntry.name entry) ⟨entry, sentAt⟩
        completed := state.completed || rest.isEmpty })
      (view_moved state client (.inserted call begun sentAt rest))
    exact seenAs step same.symm
  | insertUnnamed client call begun sentAt entry rest here unnamed =>
    have step :=
      SharedStep.createUnnamed state.view client call begun sentAt entry rest (seen here) unnamed
    exact seenAs step (moves client (.refusing call)).symm
  | find client name begun here =>
    have step := SharedStep.read state.view client (.getEntry name) begun (seen here)
    exact seenAs step
      (moves client (.answering (.getEntry name) begun (.found (state.entries.find name)))).symm
  | visit client begun opened visited entry here valid next => exact stays (by rw [here]; rfl)
  | stop client begun opened visited here valid last =>
    have sound := locked.phases client
    rw [here] at sound
    have whole : visited = state.entries.bindings.map Prod.snd :=
      sound.2.eq_of_length_le (List.getElem?_eq_none_iff.mp last)
    have step := SharedStep.read state.view client .scan begun (seen here)
    rw [whole]
    exact seenAs step (moves client (.answering .scan begun (.visited _))).symm
  | visitCleared client begun opened visited here invalid =>
    have sound := locked.phases client
    rw [here] at sound
    exact absurd sound.1 invalid
  | releaseInserted client call begun sentAt rest here => exact stays (by rw [here]; rfl)
  | releaseRefusing client call here => exact stays (by rw [here]; rfl)
  | releaseAnswering client call begun answer here => exact stays (by rw [here]; rfl)
  | clear => exact .clear state.view

/-! ### Nobody waits for ever -/

/-- While a client is in a call, some client can go on with its own. -/
theorem Locked.progress {state : LockedState Client Entry} (locked : Locked state)
    {client : Client}
    (busy : ∀ phase, state.phase client = .outside phase → phase.isFree = false) :
    ∃ action next, action.goesOn = true ∧ LockedStep state action next := by
  -- The holder of the lock can, if there is one, and otherwise the client itself.
  cases owner : state.entryLock with
  | some holder =>
    have inside := (locked.holder holder).mp owner
    have sound := locked.phases holder
    cases here : state.phase holder with
    | outside | lost =>
      rw [here] at inside
      cases inside
    | inserting call begun sentAt entry rest =>
      by_cases named : CatalogEntry.name entry = []
      · exact ⟨_, _, rfl, .insertUnnamed state holder call begun sentAt entry rest here named⟩
      · exact ⟨_, _, rfl, .insert state holder call begun sentAt entry rest here named⟩
    | inserted call begun sentAt rest =>
      exact ⟨_, _, rfl, .releaseInserted state holder call begun sentAt rest here⟩
    | refusing call => exact ⟨_, _, rfl, .releaseRefusing state holder call here⟩
    | finding name begun => exact ⟨_, _, rfl, .find state holder name begun here⟩
    | iterating begun opened visited =>
      rw [here] at sound
      cases next : (state.entries.bindings.map Prod.snd)[visited.length]? with
      | none => exact ⟨_, _, rfl, .stop state holder begun opened visited here sound.1 next⟩
      | some entry =>
        exact ⟨_, _, rfl, .visit state holder begun opened visited entry here sound.1 next⟩
    | answering call begun answer =>
      exact ⟨_, _, rfl, .releaseAnswering state holder call begun answer here⟩
  | none =>
    have sound := locked.phases client
    have outside : (state.phase client).isInside = false := by
      cases inside : (state.phase client).isInside with
      | false => rfl
      | true => cases owner.symm.trans ((locked.holder client).mpr inside)
    cases here : state.phase client with
    | outside phase =>
      have notFree := busy phase here
      cases phase with
      | idle | returned | raised => cases notFree
      | testing call begun =>
        cases loaded : state.isLoaded with
        | true => exact ⟨_, _, rfl, .testLoaded state client call begun here loaded⟩
        | false => exact ⟨_, _, rfl, .testUnloaded state client call begun here loaded⟩
      | requesting call begun => exact ⟨_, _, rfl, .send state client call begun here⟩
      | receiving call begun sentAt =>
        exact ⟨_, _, rfl, .receive state client call begun sentAt [] here⟩
      | creating call begun sentAt entry rest =>
        exact ⟨_, _, rfl, .acquireCreate state client call begun sentAt entry rest here owner⟩
      | reading call begun =>
        cases call with
        | getEntry name => exact ⟨_, _, rfl, .acquireFind state client name begun here owner⟩
        | scan => exact ⟨_, _, rfl, .acquireScan state client begun here owner⟩
    | lost =>
      rw [here] at sound
      exact sound.elim
    | inserting | inserted | refusing | finding | iterating | answering =>
      rw [here] at outside
      cases outside

/-- A clear between two entries of an iteration leaves it an iterator that is not valid. -/
theorem Locked.loses {state : LockedState Client Entry} (locked : Locked state) {client : Client}
    {begun opened : Nat} {visited : List (Stamped Entry)}
    (iterates : state.phase client = .iterating begun opened visited) :
    ∃ cleared final, LockedStep state .clear cleared ∧ LockedStep cleared (.visit client) final ∧
      final.phase client = .lost := by
  have sound := locked.phases client
  rw [iterates] at sound
  have invalid : opened ≠ state.clears + 1 := by
    rw [sound.1]
    exact Nat.ne_of_lt (Nat.lt_succ_self _)
  exact ⟨_, _, .clear state, .visitCleared _ client begun opened visited iterates invalid,
    Function.update_self ..⟩

/-- A run in which no clear falls into a locked section is a run of single steps, one client at
most is in a section, and while a client is in a call, some client can go on. A clear that falls
into an iteration makes it use an iterator that is not valid. -/
theorem entryLock_refines
    (allowed : SharedState Client Entry → SharedAction Client Entry → Prop)
    (state : LockedState Client Entry)
    (reached : Reaches (lockedClients Client Entry) (Undisturbed allowed) state) :
    Reaches (clients Client Entry) allowed state.view ∧ Locked state ∧
      (∀ client, (∀ phase, state.phase client = .outside phase → phase.isFree = false) →
        ∃ action next, action.goesOn = true ∧ LockedStep state action next) ∧
      ∀ client begun opened visited, state.phase client = .iterating begun opened visited →
        ∃ cleared final, LockedStep state .clear cleared ∧
          LockedStep cleared (.visit client) final ∧ final.phase client = .lost := by
  have keepsLock : ∀ {state : LockedState Client Entry},
      Reaches (lockedClients Client Entry) (Undisturbed allowed) state → Locked state := by
    intro state reached
    exact reached.invariant
      (by
        rintro _ rfl
        exact locked_initial)
      fun _ _ _ locked undisturbed steps => locked.step undisturbed.1 steps
  have locked := keepsLock reached
  refine ⟨?_, locked, fun client busy => locked.progress busy,
    fun client begun opened visited iterates => locked.loses iterates⟩
  refine reached.view LockedState.view ?_
    fun before action next reachedBefore undisturbed steps => ?_
  · rintro _ rfl
    rfl
  · have step := view_step (keepsLock reachedBefore) steps
    cases stands : action.shared with
    | none =>
      rw [stands] at step
      exact Or.inl step
    | some shared =>
      rw [stands] at step
      exact Or.inr ⟨shared, undisturbed.2 shared stands, step⟩

end Views

/-- One client iterates while another one waits for the lock, and a clear would lose the first. -/
theorem entryLock_refines_iterating : ∃ state : LockedState Bool TableEntry, Locked state ∧
    state.phase true = .outside (.reading .scan 0) ∧
    ∃ cleared final, LockedStep state .clear cleared ∧ LockedStep cleared (.visit false) final ∧
      final.phase false = .lost := by
  have plain : ∀ {state : LockedState Bool TableEntry} {action}, action ≠ .clear →
      Undisturbed (fun _ _ => True) state action := fun differ =>
    ⟨fun same => absurd same differ, fun _ _ => trivial⟩
  have started : Reaches (lockedClients Bool TableEntry) (Undisturbed fun _ _ => True)
      (.initial Bool TableEntry) := .start rfl
  have began := started.step (.begin false .scan) (plain nofun) (.begin _ false _ _ rfl rfl)
  have tested := began.step (.test false) (plain nofun) (.testUnloaded _ false _ _ rfl rfl)
  have sent := tested.step (.send false) (plain nofun) (.send _ false _ _ rfl)
  have received := sent.step (.receive false [⟨"t".toList, [], none, false⟩]) (plain nofun)
    (.receive _ false _ _ _ _ rfl)
  have entered := received.step (.acquire false) (plain nofun)
    (.acquireCreate _ false _ _ _ _ _ rfl rfl)
  have inserted := entered.step (.insert false) (plain nofun)
    (.insert _ false _ _ _ _ _ rfl (by decide))
  have released := inserted.step (.release false) (plain nofun)
    (.releaseInserted _ false _ _ _ _ rfl)
  have otherBegan := released.step (.begin true .scan) (plain nofun) (.begin _ true _ _ rfl rfl)
  have otherTested := otherBegan.step (.test true) (plain nofun) (.testLoaded _ true _ _ rfl rfl)
  have opened := otherTested.step (.acquire false) (plain nofun)
    (.acquireScan _ false _ rfl rfl)
  have visited := opened.step (.visit false) (plain nofun) (.visit _ false _ _ _ _ rfl rfl rfl)
  obtain ⟨_, locked, _, loses⟩ := entryLock_refines (fun _ _ => True) _ visited
  exact ⟨_, locked, rfl, loses false 0 0 _ rfl⟩

end UcCatalog
