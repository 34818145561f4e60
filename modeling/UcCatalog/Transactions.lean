/-
This file is `UCTransactionManager`, called by any number of clients at a time.
The lock covers the map of transactions and nothing else: an object is constructed
and started before it is put into the map, and committed or rolled back before it
is taken out. A client ends a transaction it has started once, as DuckDB does, and
the addresses of freed objects are used again.

The invariant is a ledger of the objects. Each is held by one client, from its
construction until it is taken out of the map, and the map has those that are
between the two. No transaction is ever `TRANSACTION_STARTED`, so that what
`Commit` and `Rollback` do for one that is never happens.
-/

import Mathlib.Logic.Function.Basic
import UcCatalog.Transition

namespace UcCatalog

open Transition

/-! ### `UCTransaction` -/

/-- `UCTransactionState`. -/
inductive UCTransactionState where
  | notYetStarted
  | started
  | finished
  deriving DecidableEq

/-- DuckDB's `AccessMode`. -/
inductive AccessMode where
  | undefined
  | automatic
  | readOnly
  | readWrite
  deriving DecidableEq

/-- `UCTransaction`. The constructor leaves the state without a value. -/
structure UCTransaction where
  accessMode : AccessMode
  transactionState : Option UCTransactionState
  deriving DecidableEq

/-- The constructor: the access mode is that of the catalog. -/
def UCTransaction.new (accessMode : AccessMode) : UCTransaction := ⟨accessMode, none⟩

/-- `UCTransaction::Start`. -/
def UCTransaction.start (transaction : UCTransaction) : UCTransaction :=
  { transaction with transactionState := some .notYetStarted }

/-- What `UCTransaction::Commit` and `UCTransaction::Rollback` do. -/
def UCTransaction.finish (transaction : UCTransaction) : UCTransaction :=
  if transaction.transactionState = some .started then
    { transaction with transactionState := some .finished }
  else transaction

/-- `UCTransaction::Commit`. -/
def UCTransaction.commit : UCTransaction → UCTransaction := UCTransaction.finish

/-- `UCTransaction::Rollback`. -/
def UCTransaction.rollback : UCTransaction → UCTransaction := UCTransaction.finish

/-! ### `UCTransactionManager` -/

/-- Where a client stands. A client is lost when it has used memory that is no object. -/
inductive TransactionPhase (Address : Type) where
  | idle
  | constructed (address : Address)
  | opened (address : Address)
  | ending (address : Address)
  | lost

/-- The objects on the heap, and the map from addresses to the objects it owns. -/
structure ManagerState (Client Address : Type) where
  heap : Address → Option UCTransaction
  transactions : Address → Option Address
  phase : Client → TransactionPhase Address

inductive ManagerAction (Client : Type) where
  | start (client : Client)
  | insert (client : Client)
  | commit (client : Client)
  | rollback (client : Client)
  | erase (client : Client)

section Managers

variable {Client Address : Type} [DecidableEq Client] [DecidableEq Address]

/-- The heap without the object a pointer owned. -/
def released (heap : Address → Option UCTransaction) :
    Option Address → Address → Option UCTransaction
  | none => heap
  | some owned => Function.update heap owned none

/-- The end of a transaction before it is taken out of the map. -/
def ManagerState.finished (state : ManagerState Client Address) (client : Client)
    (address : Address) (ended : UCTransaction) : ManagerState Client Address :=
  { state with
    heap := Function.update state.heap address (some ended)
    phase := Function.update state.phase client (.ending address) }

/-- The use of an address where there is no object. -/
def ManagerState.losing (state : ManagerState Client Address) (client : Client) :
    ManagerState Client Address :=
  { state with phase := Function.update state.phase client .lost }

/-- The atomic steps: `StartTransaction` in two, and `CommitTransaction` and
`RollbackTransaction` in two. -/
inductive ManagerStep (accessMode : AccessMode) :
    ManagerState Client Address → ManagerAction Client → ManagerState Client Address → Prop
  | start (state : ManagerState Client Address) (client : Client) (address : Address)
      (free : state.phase client = .idle) (unused : state.heap address = none) :
      ManagerStep accessMode state (.start client)
        { state with
          heap := Function.update state.heap address (some (UCTransaction.new accessMode).start)
          phase := Function.update state.phase client (.constructed address) }
  | insert (state : ManagerState Client Address) (client : Client) (address : Address)
      (here : state.phase client = .constructed address) :
      ManagerStep accessMode state (.insert client)
        { heap := released state.heap (state.transactions address)
          transactions := Function.update state.transactions address (some address)
          phase := Function.update state.phase client (.opened address) }
  | commit (state : ManagerState Client Address) (client : Client) (address : Address)
      (transaction : UCTransaction) (here : state.phase client = .opened address)
      (live : state.heap address = some transaction) :
      ManagerStep accessMode state (.commit client)
        (state.finished client address transaction.commit)
  | commitDead (state : ManagerState Client Address) (client : Client) (address : Address)
      (here : state.phase client = .opened address) (dead : state.heap address = none) :
      ManagerStep accessMode state (.commit client) (state.losing client)
  | rollback (state : ManagerState Client Address) (client : Client) (address : Address)
      (transaction : UCTransaction) (here : state.phase client = .opened address)
      (live : state.heap address = some transaction) :
      ManagerStep accessMode state (.rollback client)
        (state.finished client address transaction.rollback)
  | rollbackDead (state : ManagerState Client Address) (client : Client) (address : Address)
      (here : state.phase client = .opened address) (dead : state.heap address = none) :
      ManagerStep accessMode state (.rollback client) (state.losing client)
  | erase (state : ManagerState Client Address) (client : Client) (address : Address)
      (here : state.phase client = .ending address) :
      ManagerStep accessMode state (.erase client)
        { heap := released state.heap (state.transactions address)
          transactions := Function.update state.transactions address none
          phase := Function.update state.phase client .idle }

/-- A manager as it is constructed, and clients without a transaction. -/
def ManagerState.initial (Client Address : Type) : ManagerState Client Address where
  heap _ := none
  transactions _ := none
  phase _ := .idle

/-- Clients of one manager. -/
def managers (Client Address : Type) [DecidableEq Client] [DecidableEq Address]
    (accessMode : AccessMode) : System (ManagerState Client Address) (ManagerAction Client) where
  start state := state = .initial Client Address
  step := ManagerStep accessMode

/-! ### The ledger -/

/-- A transaction as `StartTransaction` makes it. -/
def startedTransaction (accessMode : AccessMode) : UCTransaction :=
  (UCTransaction.new accessMode).start

/-- The object a client has. -/
def TransactionPhase.object : TransactionPhase Address → Option Address
  | .constructed address | .opened address | .ending address => some address
  | .idle | .lost => none

/-- The object a client has in the map. -/
def TransactionPhase.entry : TransactionPhase Address → Option Address
  | .opened address | .ending address => some address
  | .idle | .constructed _ | .lost => none

/-- Each object is as it was started and held by one client, and the map has those that are put
into it. -/
structure Ledger (accessMode : AccessMode) (state : ManagerState Client Address) : Prop where
  live : ∀ client address, (state.phase client).object = some address →
    state.heap address = some (startedTransaction accessMode)
  apart : ∀ client other address, (state.phase client).object = some address →
    (state.phase other).object = some address → client = other
  held : ∀ address, state.heap address ≠ none → ∃ client, (state.phase client).object = some address
  listed : ∀ client address, (state.phase client).entry = some address →
    state.transactions address = some address
  entered : ∀ address, state.transactions address ≠ none →
    ∃ client, (state.phase client).entry = some address
  noneLost : ∀ client, state.phase client ≠ .lost

omit [DecidableEq Address] in
theorem object_of_entry {phase : TransactionPhase Address} {address : Address}
    (entered : phase.entry = some address) : phase.object = some address := by
  cases phase with
  | opened | ending => exact entered
  | idle | constructed | lost => cases entered

variable {accessMode : AccessMode} {state : ManagerState Client Address} {client : Client}
  {address : Address}

/-- A client goes on with its object, which is in the map then. -/
theorem Ledger.keeping (ledger : Ledger accessMode state) {moved : TransactionPhase Address}
    (before : (state.phase client).object = some address) (still : moved.object = some address)
    (entry : moved.entry = some address) :
    Ledger accessMode
      { state with
        transactions := Function.update state.transactions address (some address)
        phase := Function.update state.phase client moved } := by
  have objects : ∀ other, (Function.update state.phase client moved other).object =
      (state.phase other).object := by
    intro other
    by_cases same : other = client
    · rw [same, Function.update_self, still, before]
    · rw [Function.update_of_ne same]
  constructor
  · intro other held here
    exact ledger.live other held ((objects other).symm.trans here)
  · intro first second held firstHere secondHere
    exact ledger.apart first second held ((objects first).symm.trans firstHere)
      ((objects second).symm.trans secondHere)
  · intro held present
    obtain ⟨other, here⟩ := ledger.held held present
    exact ⟨other, (objects other).trans here⟩
  · intro other held here
    have object : (state.phase other).object = some held :=
      (objects other).symm.trans (object_of_entry here)
    by_cases same : other = client
    · subst same
      cases before.symm.trans object
      exact Function.update_self ..
    · have differ : held ≠ address := fun equal =>
        same (ledger.apart other client address (equal ▸ object) before)
      have entered : (state.phase other).entry = some held := by
        rw [← here]
        exact congrArg _ (Function.update_of_ne same ..).symm
      exact (Function.update_of_ne differ ..).trans (ledger.listed other held entered)
  · intro held present
    by_cases same : held = address
    · exact ⟨client, by rw [same, ← entry]; exact congrArg _ (Function.update_self ..)⟩
    · have old : state.transactions held ≠ none := by
        rwa [← Function.update_of_ne same (some address) state.transactions]
      obtain ⟨other, here⟩ := ledger.entered held old
      have differ : other ≠ client := by
        rintro rfl
        cases before.symm.trans (object_of_entry here)
        exact same rfl
      exact ⟨other, by rw [← here]; exact congrArg _ (Function.update_of_ne differ ..)⟩
  · intro other lost
    by_cases same : other = client
    · subst same
      cases (Function.update_self other moved state.phase).symm.trans lost
      cases still
    · exact ledger.noneLost other ((Function.update_of_ne same ..).symm.trans lost)

/-- A new object is nobody else's. -/
theorem Ledger.constructing (ledger : Ledger accessMode state) (free : state.phase client = .idle)
    (unused : state.heap address = none) :
    Ledger accessMode
      { state with
        heap := Function.update state.heap address (some (startedTransaction accessMode))
        phase := Function.update state.phase client (.constructed address) } := by
  have others : ∀ other held, (Function.update state.phase client (.constructed address)
      other).object = some held → other = client ∧ held = address ∨
        other ≠ client ∧ held ≠ address ∧ (state.phase other).object = some held := by
    intro other held here
    by_cases same : other = client
    · subst same
      rw [Function.update_self] at here
      cases here
      exact Or.inl ⟨rfl, rfl⟩
    · rw [Function.update_of_ne same] at here
      refine Or.inr ⟨same, ?_, here⟩
      rintro rfl
      cases unused.symm.trans (ledger.live other held here)
  have entries : ∀ other, (Function.update state.phase client (.constructed address) other).entry =
      (state.phase other).entry := by
    intro other
    by_cases same : other = client
    · rw [same, Function.update_self, free]
      rfl
    · rw [Function.update_of_ne same]
  constructor
  · intro other held here
    rcases others other held here with ⟨_, rfl⟩ | ⟨_, differ, before⟩
    · exact Function.update_self ..
    · exact (Function.update_of_ne differ ..).trans (ledger.live other held before)
  · intro first second held firstHere secondHere
    rcases others first held firstHere with ⟨rfl, rfl⟩ | ⟨_, differ, before⟩
    · rcases others second held secondHere with ⟨rfl, _⟩ | ⟨_, differ, _⟩
      · rfl
      · exact absurd rfl differ
    · rcases others second held secondHere with ⟨_, same⟩ | ⟨_, _, secondBefore⟩
      · exact absurd same differ
      · exact ledger.apart first second held before secondBefore
  · intro held present
    by_cases same : held = address
    · exact ⟨client, by rw [same]; exact congrArg _ (Function.update_self ..)⟩
    · obtain ⟨other, before⟩ := ledger.held held fun absent =>
        present ((Function.update_of_ne same ..).trans absent)
      have differ : other ≠ client := by
        rintro rfl
        rw [free] at before
        cases before
      exact ⟨other, by rw [← before]; exact congrArg _ (Function.update_of_ne differ ..)⟩
  · intro other held here
    exact ledger.listed other held ((entries other).symm.trans here)
  · intro held present
    obtain ⟨other, here⟩ := ledger.entered held present
    exact ⟨other, (entries other).trans here⟩
  · intro other lost
    by_cases same : other = client
    · subst same
      cases (Function.update_self other _ state.phase).symm.trans lost
    · exact ledger.noneLost other ((Function.update_of_ne same ..).symm.trans lost)

/-- An object that is taken out of the map is freed and nobody's. -/
theorem Ledger.erasing (ledger : Ledger accessMode state)
    (here : state.phase client = .ending address) :
    Ledger accessMode
      { heap := Function.update state.heap address none
        transactions := Function.update state.transactions address none
        phase := Function.update state.phase client .idle } := by
  have own : (state.phase client).object = some address := by rw [here]; rfl
  have objects : ∀ other held,
      (Function.update state.phase client .idle other).object = some held →
        other ≠ client ∧ held ≠ address ∧ (state.phase other).object = some held := by
    intro other held holds
    by_cases same : other = client
    · rw [same, Function.update_self] at holds
      cases holds
    · rw [Function.update_of_ne same] at holds
      refine ⟨same, ?_, holds⟩
      rintro rfl
      exact same (ledger.apart other client held holds own)
  -- whoever holds another object goes on
  have goesOn : ∀ other held, held ≠ address → (state.phase other).object = some held →
      Function.update state.phase client .idle other = state.phase other := by
    intro other held differ holds
    refine Function.update_of_ne ?_ ..
    rintro rfl
    cases own.symm.trans holds
    exact differ rfl
  constructor
  · intro other held holds
    obtain ⟨_, differ, before⟩ := objects other held holds
    exact (Function.update_of_ne differ ..).trans (ledger.live other held before)
  · intro first second held firstHolds secondHolds
    exact ledger.apart first second held (objects first held firstHolds).2.2
      (objects second held secondHolds).2.2
  · intro held present
    by_cases same : held = address
    · exact absurd (same ▸ Function.update_self ..) present
    · obtain ⟨other, before⟩ := ledger.held held fun absent =>
        present ((Function.update_of_ne same ..).trans absent)
      exact ⟨other, (congrArg _ (goesOn other held same before)).trans before⟩
  · intro other held entered
    obtain ⟨otherwise, differ, _⟩ := objects other held (object_of_entry entered)
    refine (Function.update_of_ne differ ..).trans (ledger.listed other held ?_)
    rw [← entered]
    exact congrArg _ (Function.update_of_ne otherwise ..).symm
  · intro held present
    by_cases same : held = address
    · exact absurd (same ▸ Function.update_self ..) present
    · obtain ⟨other, before⟩ := ledger.entered held fun absent =>
        present ((Function.update_of_ne same ..).trans absent)
      exact ⟨other, (congrArg _ (goesOn other held same (object_of_entry before))).trans before⟩
  · intro other lost
    by_cases same : other = client
    · subst same
      cases (Function.update_self other _ state.phase).symm.trans lost
    · exact ledger.noneLost other ((Function.update_of_ne same ..).symm.trans lost)

/-- The end of a transaction changes nothing, since none is ever `TRANSACTION_STARTED`. -/
theorem Ledger.finishing (ledger : Ledger accessMode state)
    (here : state.phase client = .opened address) {ended : UCTransaction}
    (unchanged : ended = startedTransaction accessMode) :
    Ledger accessMode (state.finished client address ended) := by
  have object : (state.phase client).object = some address := by rw [here]; rfl
  have entry : (state.phase client).entry = some address := by rw [here]; rfl
  have kept := @Ledger.keeping _ _ _ _ _ _ client address ledger (.ending address) object rfl rfl
  have heap : Function.update state.heap address (some ended) = state.heap := by
    rw [unchanged, ← ledger.live client address object, Function.update_eq_self]
  have transactions : Function.update state.transactions address (some address) =
      state.transactions := by
    conv_lhs => rw [← ledger.listed client address entry]
    exact Function.update_eq_self ..
  unfold ManagerState.finished
  rw [heap]
  rwa [transactions] at kept

theorem Ledger.step {next : ManagerState Client Address} {action : ManagerAction Client}
    (ledger : Ledger accessMode state) (steps : ManagerStep accessMode state action next) :
    Ledger accessMode next := by
  cases steps with
  | start client address free unused => exact ledger.constructing free unused
  | insert client address here =>
    have object : (state.phase client).object = some address := by rw [here]; rfl
    -- the address is not a key: its object would be held by another client as well
    have absent : state.transactions address = none := by
      by_contra present
      obtain ⟨other, entered⟩ := ledger.entered address present
      obtain rfl := ledger.apart other client address (object_of_entry entered) object
      rw [here] at entered
      cases entered
    rw [absent]
    exact ledger.keeping object rfl rfl
  | commit client address transaction here live =>
    have object : (state.phase client).object = some address := by rw [here]; rfl
    cases live.symm.trans (ledger.live client address object)
    exact ledger.finishing here rfl
  | rollback client address transaction here live =>
    have object : (state.phase client).object = some address := by rw [here]; rfl
    cases live.symm.trans (ledger.live client address object)
    exact ledger.finishing here rfl
  | commitDead client address here dead | rollbackDead client address here dead =>
    have object : (state.phase client).object = some address := by rw [here]; rfl
    cases dead.symm.trans (ledger.live client address object)
  | erase client address here =>
    have entry : (state.phase client).entry = some address := by rw [here]; rfl
    rw [ledger.listed client address entry]
    exact ledger.erasing here

omit [DecidableEq Client] [DecidableEq Address] in
theorem ledger_initial (accessMode : AccessMode) :
    Ledger accessMode (ManagerState.initial Client Address) :=
  ⟨nofun, nofun, fun _ present => absurd rfl present, nofun, fun _ present => absurd rfl present,
    nofun⟩

/-- In every interleaving the clients keep to the ledger, and when all have ended their
transactions, nothing is left of them. -/
theorem transactions_keep_ledger (accessMode : AccessMode) (state : ManagerState Client Address)
    (reached : Reaches (managers Client Address accessMode) (fun _ _ => True) state) :
    Ledger accessMode state ∧ ((∀ client, state.phase client = .idle) →
      ∀ address, state.heap address = none ∧ state.transactions address = none) := by
  have ledger : Ledger accessMode state := reached.invariant
    (by
      rintro _ rfl
      exact ledger_initial accessMode)
    fun _ _ _ ledger _ steps => ledger.step steps
  refine ⟨ledger, fun idle address => ⟨?_, ?_⟩⟩
  · by_contra present
    obtain ⟨client, object⟩ := ledger.held address present
    rw [idle client] at object
    cases object
  · by_contra present
    obtain ⟨client, entry⟩ := ledger.entered address present
    rw [idle client] at entry
    cases entry

end Managers

/-- The second client gets the address of the first one's transaction, which has been freed. -/
theorem transactions_keep_ledger_reused : ∃ state : ManagerState Bool Unit,
    Ledger .automatic state ∧ state.phase false = .idle ∧ state.phase true = .opened () := by
  have started : Reaches (managers Bool Unit .automatic) (fun _ _ => True) (.initial Bool Unit) :=
    .start rfl
  have first := started.step (.start false) trivial (.start _ false () rfl rfl)
  have firstIn := first.step (.insert false) trivial (.insert _ false () rfl)
  have committed := firstIn.step (.commit false) trivial (.commit _ false () _ rfl rfl)
  have erased := committed.step (.erase false) trivial (.erase _ false () rfl)
  have second := erased.step (.start true) trivial (.start _ true () rfl rfl)
  have secondIn := second.step (.insert true) trivial (.insert _ true () rfl)
  exact ⟨_, (transactions_keep_ledger .automatic _ secondIn).1, rfl, rfl⟩

end UcCatalog
