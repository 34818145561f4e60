/-
This file is `UCCatalogSet`, the lazily filled map under both levels of the
catalog. The class leaves its loading to two subclasses that differ in what they
ask for and in what they make of it: a `Loader` holds these parts, and
`Loader.loadEntries` is the one shape of `LoadEntries`, which fetches a listing
and then builds and creates one entry after the other.

What a load does is decided by the server's reply alone: `Loader.listed` is the
list of entries a reply stands for, or the fault at which the load stops. A load
of a good reply inserts that list, and any other load leaves the entries it came
to before the fault.
-/

import UcCatalog.Api
import UcCatalog.FoldedMap

namespace UcCatalog

open Stateful

/-- `StringUtil::Lower`, by which `case_insensitive_map_t` compares its keys. -/
def lower (text : Text) : Text := text.map Char.toLower

/-- The part of DuckDB's `CatalogEntry` a set looks at. -/
class CatalogEntry (Entry : Type) where
  name : Entry → Text

/-- `UCCatalogSet`. -/
structure CatalogSet (Entry : Type) where
  entries : FoldedMap lower Entry
  isLoaded : Bool

/-- A set as it is constructed. -/
def CatalogSet.new (Entry : Type) : CatalogSet Entry := ⟨.empty lower Entry, false⟩

/-- A set, and the server its loads go to. -/
structure SetState (Entry : Type) where
  world : World
  set : CatalogSet Entry

section Set

variable {Entry Item : Type}

/-! ### The members of `UCCatalogSet` -/

def SetState.withEntries (state : SetState Entry) (entries : FoldedMap lower Entry) :
    SetState Entry :=
  { state with set := { state.set with entries } }

/-- The state with `is_loaded` set. -/
def SetState.flagged (state : SetState Entry) : SetState Entry :=
  { state with set := { state.set with isLoaded := true } }

/-- What `UCCatalogSet::CreateEntry` raises on an entry without a name. -/
def emptyName : Exception :=
  ⟨.internalException, "UCCatalogSet::CreateEntry called with empty name".toList⟩

/-- `UCCatalogSet::CreateEntry`. The insertion is dropped when the key is there already, and the
entry is returned all the same. -/
def createEntry [CatalogEntry Entry] (entry : Entry) : EStateM Fault (SetState Entry) Entry := do
  if CatalogEntry.name entry = [] then throw (.raised emptyName)
  else
    modify fun state => state.withEntries (state.set.entries.insert (CatalogEntry.name entry) entry)
    return entry

theorem createEntry_of_unnamed [CatalogEntry Entry] {entry : Entry}
    (unnamed : CatalogEntry.name entry = []) (state : SetState Entry) :
    createEntry entry state = .error (.raised emptyName) state := by
  unfold createEntry
  rw [if_pos unnamed]
  rfl

theorem createEntry_of_named [CatalogEntry Entry] {entry : Entry}
    (named : CatalogEntry.name entry ≠ []) (state : SetState Entry) :
    createEntry entry state = .ok entry
      (state.withEntries (state.set.entries.insert (CatalogEntry.name entry) entry)) := by
  unfold createEntry
  rw [if_neg named]
  rfl

/-- The test both calls start with. -/
def ensureLoaded (loadEntries : EStateM Fault (SetState Entry) Unit) :
    EStateM Fault (SetState Entry) Unit := do
  if (← get).set.isLoaded = false then
    modify SetState.flagged
    loadEntries

/-- `UCCatalogSet::GetEntry`. -/
def CatalogSet.getEntry (loadEntries : EStateM Fault (SetState Entry) Unit) (name : Text) :
    EStateM Fault (SetState Entry) (Option Entry) := do
  ensureLoaded loadEntries
  return (← get).set.entries.find name

/-- `UCCatalogSet::Scan`: the entries the callback is called on. -/
def CatalogSet.scan (loadEntries : EStateM Fault (SetState Entry) Unit) :
    EStateM Fault (SetState Entry) (List Entry) := do
  ensureLoaded loadEntries
  return (← get).set.entries.bindings.map Prod.snd

/-- `UCCatalogSet::DropEntry`. -/
def CatalogSet.dropEntry : EStateM Fault (SetState Entry) Unit :=
  throw (.raised ⟨.notImplementedException, "UCCatalogSet::DropEntry".toList⟩)

/-- `UCCatalogSet::ClearEntries`. -/
def CatalogSet.clearEntries (_ : CatalogSet Entry) : CatalogSet Entry :=
  ⟨.empty lower Entry, false⟩

/-! ### Loading -/

/-- The parts in which the subclasses load differently: the request, its decoder, the entry that
is built from an item of the listing, and what `CreateEntry` does to an entry first. -/
structure Loader (Item Entry : Type) where
  url : Text
  token : Text
  decode : Text → Outcome (List Item)
  build : Item → Outcome Entry
  adopt : Entry → Entry

section Loader

variable (loader : Loader Item Entry)

def Loader.request : Request := getRequestOf loader.url loader.token

/-- The call of `UCAPI` in `LoadEntries`. -/
def Loader.fetch : EStateM Fault World (List Item) := do
  let apiResult ← getRequest loader.url loader.token
  lift (loader.decode apiResult)

variable [CatalogEntry Entry]

/-- One turn of the loop in `LoadEntries`. -/
def Loader.createOne (item : Item) : EStateM Fault (SetState Entry) PUnit := do
  let entry ← lift (loader.build item)
  let _ ← createEntry (loader.adopt entry)

/-- `LoadEntries`. -/
def Loader.loadEntries : EStateM Fault (SetState Entry) Unit := do
  let items ← zoom SetState.world (fun world state => { state with world }) loader.fetch
  forM items loader.createOne

/-- The entry an item of a listing stands for. -/
def Loader.entryOf (item : Item) : Outcome Entry := do
  let entry ← loader.build item
  if CatalogEntry.name (loader.adopt entry) = [] then .error (.raised emptyName)
  else .ok (loader.adopt entry)

/-- The listing in the server's reply. -/
def Loader.reply (remote : Request → CurlResult) : Outcome (List Item) := do
  let apiResult ← (remote loader.request).outcome loader.url
  loader.decode apiResult

/-- The entries the server's reply stands for. -/
def Loader.listed (remote : Request → CurlResult) : Outcome (List Entry) := do
  let items ← loader.reply remote
  items.mapM loader.entryOf

/-- The reply has an item that stands for the entry. -/
def Loader.Offers (remote : Request → CurlResult) (entry : Entry) : Prop :=
  ∃ items item, loader.reply remote = .ok items ∧ item ∈ items ∧ loader.entryOf item = .ok entry

/-- A map with the entries of a list inserted in order. -/
def insertEntries (entries : FoldedMap lower Entry) (created : List Entry) :
    FoldedMap lower Entry :=
  entries.insertAll CatalogEntry.name created

/-- Every binding stands under the name of its entry. -/
def KeyedByName (entries : FoldedMap lower Entry) : Prop :=
  ∀ binding ∈ entries.bindings, binding.1 = CatalogEntry.name binding.2

theorem KeyedByName.insert {entries : FoldedMap lower Entry} (keyed : KeyedByName entries)
    (entry : Entry) : KeyedByName (entries.insert (CatalogEntry.name entry) entry) := by
  intro binding member
  rcases FoldedMap.mem_insert.mp member with inMap | ⟨_, rfl⟩
  · exact keyed binding inMap
  · rfl

variable {loader}

theorem Loader.createOne_eq (item : Item) (state : SetState Entry) :
    loader.createOne item state =
      match loader.entryOf item with
      | .ok entry =>
        .ok ⟨⟩ (state.withEntries (state.set.entries.insert (CatalogEntry.name entry) entry))
      | .error fault => .error fault state := by
  unfold createOne entryOf
  cases loader.build item with
  | error fault => rfl
  | ok entry =>
    show (createEntry (loader.adopt entry) >>= _) state =
      match (if CatalogEntry.name (loader.adopt entry) = [] then _ else _ : Outcome Entry) with
      | .ok entry => _
      | .error fault => _
    by_cases unnamed : CatalogEntry.name (loader.adopt entry) = []
    · rw [if_pos unnamed, bind_of_error _ (createEntry_of_unnamed unnamed state)]
    · rw [if_neg unnamed, bind_of_ok _ (createEntry_of_named unnamed state)]
      rfl

theorem Loader.entryOf_eq_ok {item : Item} {entry : Entry}
    (built : loader.entryOf item = .ok entry) :
    ∃ fresh, loader.build item = .ok fresh ∧ entry = loader.adopt fresh ∧
      CatalogEntry.name entry ≠ [] := by
  obtain ⟨fresh, made, adopted⟩ := (Outcome.bind_eq_ok _ _ _).mp built
  split_ifs at adopted with unnamed
  cases adopted
  exact ⟨fresh, made, rfl, unnamed⟩

theorem Loader.entryOf_of_build {item : Item} {fresh : Entry}
    (built : loader.build item = .ok fresh)
    (named : CatalogEntry.name (loader.adopt fresh) ≠ []) :
    loader.entryOf item = .ok (loader.adopt fresh) := by
  rw [entryOf, built]
  exact if_neg named

theorem Loader.listed_of_reply {remote : Request → CurlResult} {items : List Item}
    (replied : loader.reply remote = .ok items) :
    loader.listed remote = items.mapM loader.entryOf := by
  rw [listed, replied]
  rfl

theorem Loader.offers_of_listed {remote : Request → CurlResult} {created : List Entry}
    (listed : loader.listed remote = .ok created) (entry : Entry) (member : entry ∈ created) :
    loader.Offers remote entry := by
  obtain ⟨items, replied, built⟩ := (Outcome.bind_eq_ok _ _ _).mp listed
  obtain ⟨item, inItems, same⟩ := exists_of_returned built member
  exact ⟨items, item, replied, inItems, same⟩

/-- Offered entries have names. -/
theorem Loader.Offers.named {remote : Request → CurlResult} {entry : Entry}
    (offers : loader.Offers remote entry) : CatalogEntry.name entry ≠ [] := by
  obtain ⟨_, item, _, _, built⟩ := offers
  obtain ⟨_, _, _, named⟩ := Loader.entryOf_eq_ok built
  exact named

/-- The loop over a listing of good items inserts their entries in order. -/
theorem Loader.createAll_of_ok {items : List Item} {created : List Entry} (state : SetState Entry)
    (built : items.mapM loader.entryOf = .ok created) :
    forM items loader.createOne state =
      .ok ⟨⟩ (state.withEntries (insertEntries state.set.entries created)) := by
  induction items generalizing created state with
  | nil =>
    cases built
    rfl
  | cons item items inductionHypothesis =>
    rw [List.mapM_cons] at built
    obtain ⟨entry, first, rest⟩ := (Outcome.bind_eq_ok _ _ _).mp built
    obtain ⟨others, builtRest, same⟩ := (Outcome.bind_eq_ok _ _ _).mp rest
    cases same
    have turn := loader.createOne_eq item state
    rw [first] at turn
    rw [List.forM_cons, bind_of_ok _ turn, inductionHypothesis _ builtRest]
    rfl

/-- The loop over any other listing stops at the first bad item and leaves the entries before
it. -/
theorem Loader.createAll_of_error {items : List Item} {fault : Fault} (state : SetState Entry)
    (failed : items.mapM loader.entryOf = .error fault) :
    ∃ created, (∀ entry ∈ created, ∃ item ∈ items, loader.entryOf item = .ok entry) ∧
      forM items loader.createOne state =
        .error fault (state.withEntries (insertEntries state.set.entries created)) := by
  induction items generalizing state with
  | nil => cases failed
  | cons item items inductionHypothesis =>
    have turn := loader.createOne_eq item state
    rw [List.mapM_cons] at failed
    rw [List.forM_cons]
    rcases (Outcome.bind_eq_error _ _ _).mp failed with first | ⟨entry, first, rest⟩
    · rw [first] at turn
      exact ⟨[], by simp, bind_of_error _ turn⟩
    · rw [first] at turn
      rcases (Outcome.bind_eq_error _ _ _).mp rest with failedRest | ⟨_, _, same⟩
      · obtain ⟨created, built, stopped⟩ := inductionHypothesis
          (state.withEntries (state.set.entries.insert (CatalogEntry.name entry) entry)) failedRest
        refine ⟨entry :: created, ?_, by rw [bind_of_ok _ turn, stopped]; rfl⟩
        intro other member
        rcases List.mem_cons.mp member with rfl | inCreated
        · exact ⟨item, List.mem_cons_self, first⟩
        · obtain ⟨source, inItems, same⟩ := built other inCreated
          exact ⟨source, List.mem_cons_of_mem _ inItems, same⟩
      · exact nomatch same

variable (loader)

/-- The request goes out whatever becomes of the reply. -/
def SetState.requested (state : SetState Entry) : SetState Entry :=
  { state with world := state.world.logged loader.request }

variable {loader}

omit [CatalogEntry Entry] in
theorem Loader.reply_of_body {remote : Request → CurlResult} {body : Text}
    (replied : remote loader.request = .body body) : loader.reply remote = loader.decode body := by
  rw [reply, replied]
  rfl

omit [CatalogEntry Entry] in
theorem Loader.fetch_of_ok {world : World} {items : List Item}
    (replied : loader.reply world.remote = .ok items) :
    loader.fetch world = .ok items (world.logged loader.request) := by
  obtain ⟨apiResult, transferred, decoded⟩ := (Outcome.bind_eq_ok _ _ _).mp replied
  have requested : getRequest loader.url loader.token world = _ := performRequest_of_ok transferred
  rw [fetch, bind_of_ok _ requested, run_lift, decoded]
  rfl

omit [CatalogEntry Entry] in
theorem Loader.fetch_of_error {world : World} {fault : Fault}
    (failed : loader.reply world.remote = .error fault) :
    loader.fetch world = .error fault (world.logged loader.request) := by
  rcases (Outcome.bind_eq_error _ _ _).mp failed with broken | ⟨apiResult, transferred, undecoded⟩
  · have requested : getRequest loader.url loader.token world = _ := performRequest_of_error broken
    rw [fetch, bind_of_error _ requested]
    rfl
  · have requested : getRequest loader.url loader.token world = _ :=
      performRequest_of_ok transferred
    rw [fetch, bind_of_ok _ requested, run_lift, undecoded]
    rfl

theorem Loader.loadEntries_of_reply {state : SetState Entry} {items : List Item}
    (replied : loader.reply state.world.remote = .ok items) :
    loader.loadEntries state = forM items loader.createOne (state.requested loader) := by
  rw [loadEntries, bind_of_ok _ (zoom_of_ok (fetch_of_ok replied))]
  rfl

/-- A load of a good reply inserts its entries. -/
theorem Loader.loadEntries_of_ok (state : SetState Entry) {created : List Entry}
    (listed : loader.listed state.world.remote = .ok created) :
    loader.loadEntries state =
      .ok () ((state.requested loader).withEntries (insertEntries state.set.entries created)) := by
  obtain ⟨items, replied, built⟩ := (Outcome.bind_eq_ok _ _ _).mp listed
  rw [loadEntries_of_reply replied]
  exact createAll_of_ok (state.requested loader) built

/-- A load of any other reply stops at its fault and leaves the entries that came before it. -/
theorem Loader.loadEntries_of_error (state : SetState Entry) {fault : Fault}
    (failed : loader.listed state.world.remote = .error fault) :
    ∃ created, (∀ entry ∈ created, loader.Offers state.world.remote entry) ∧
      loader.loadEntries state =
        .error fault
          ((state.requested loader).withEntries (insertEntries state.set.entries created)) := by
  rcases (Outcome.bind_eq_error _ _ _).mp failed with noReply | ⟨items, replied, stopped⟩
  · refine ⟨[], by simp, ?_⟩
    rw [loadEntries, bind_of_error _ (zoom_of_error (fetch_of_error noReply))]
    rfl
  · rw [loadEntries_of_reply replied]
    obtain ⟨created, built, run⟩ := createAll_of_error (state.requested loader) stopped
    refine ⟨created, fun entry member => ?_, run⟩
    obtain ⟨item, inItems, same⟩ := built entry member
    exact ⟨items, item, replied, inItems, same⟩

/-- A load fails as the server's reply says. -/
theorem Loader.loadEntries_fails_iff (loader : Loader Item Entry) (state : SetState Entry)
    (fault : Fault) :
    outcome (loader.loadEntries state) = .error fault ↔
      loader.listed state.world.remote = .error fault := by
  cases listed : loader.listed state.world.remote with
  | ok created =>
    rw [loadEntries_of_ok state listed]
    exact ⟨nofun, nofun⟩
  | error other =>
    obtain ⟨created, _, stopped⟩ := loadEntries_of_error state listed
    rw [stopped]
    exact ⟨fun same => congrArg Except.error (Except.error.inj same),
      fun same => congrArg Except.error (Except.error.inj same)⟩

end Loader

/-! ### The two calls as one -/

/-- A call that reads a set. -/
inductive Call where
  | getEntry (name : Text)
  | scan
  deriving DecidableEq

/-- What such a call returns. -/
inductive Answer (Entry : Type) where
  | found (entry : Option Entry)
  | visited (entries : List Entry)

/-- The answer of a call from a map. -/
def Call.answer (entries : FoldedMap lower Entry) : Call → Answer Entry
  | .getEntry name => .found (entries.find name)
  | .scan => .visited (entries.bindings.map Prod.snd)

def Call.run (loadEntries : EStateM Fault (SetState Entry) Unit) :
    Call → EStateM Fault (SetState Entry) (Answer Entry)
  | .getEntry name => do return .found (← CatalogSet.getEntry loadEntries name)
  | .scan => do return .visited (← CatalogSet.scan loadEntries)

section Calls

variable {loadEntries : EStateM Fault (SetState Entry) Unit} {state : SetState Entry}

section Loaded

variable (loaded : state.set.isLoaded = true)

include loaded

theorem ensureLoaded_of_loaded : ensureLoaded loadEntries state = .ok () state := by
  unfold ensureLoaded
  simp only [run_bind, run_get, run_ite, loaded, Bool.true_eq_false, if_false, run_pure]

theorem getEntry_of_loaded (name : Text) :
    CatalogSet.getEntry loadEntries name state = .ok (state.set.entries.find name) state := by
  rw [CatalogSet.getEntry, bind_of_ok _ (ensureLoaded_of_loaded loaded)]
  rfl

theorem scan_of_loaded :
    CatalogSet.scan loadEntries state = .ok (state.set.entries.bindings.map Prod.snd) state := by
  rw [CatalogSet.scan, bind_of_ok _ (ensureLoaded_of_loaded loaded)]
  rfl

/-- A call on a loaded set answers from the map and touches nothing. -/
theorem Call.run_of_loaded (call : Call) :
    call.run loadEntries state = .ok (call.answer state.set.entries) state := by
  cases call with
  | getEntry name => exact bind_of_ok _ (getEntry_of_loaded loaded name)
  | scan => exact bind_of_ok _ (scan_of_loaded loaded)

end Loaded

theorem ensureLoaded_of_unloaded (unloaded : state.set.isLoaded = false) :
    ensureLoaded loadEntries state = loadEntries state.flagged := by
  unfold ensureLoaded
  simp only [run_bind, run_get, run_ite, unloaded, if_true, run_modify]

/-- A call on a set that is not loaded is its load, with the flag raised, and the answer. -/
theorem Call.run_of_unloaded (call : Call) (unloaded : state.set.isLoaded = false) :
    call.run loadEntries state =
      match loadEntries state.flagged with
      | .ok _ final => .ok (call.answer final.set.entries) final
      | .error fault final => .error fault final := by
  have ensured : ensureLoaded loadEntries state = loadEntries state.flagged :=
    ensureLoaded_of_unloaded unloaded
  cases call <;>
    simp only [Call.run, CatalogSet.getEntry, CatalogSet.scan, run_bind, ensured] <;>
    cases loadEntries state.flagged <;> rfl

end Calls

end Set

end UcCatalog
