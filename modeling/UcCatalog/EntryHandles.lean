/-
This file is about the pointers to entries that a `UCCatalogSet` hands out. An
entry is an object on the heap, the set owns the objects in its map, and an object
the set drops is freed. `CreateEntry` gives the map its object and returns a
pointer to it also where the map drops the object because the name is taken.

In a run every call inserts the objects it has allocated, one after the other, and
nothing is ever taken out of the map. What the set owns it therefore keeps and finds
under its name, so that a pointer dangles from the start or never. `GetEntry` returns
what it finds unless it has to load first and that load fails. The pointers of a run
are good exactly when no `CreateEntry` uses a name that is taken, and no load is
bound to fail while a pointer is out.
-/

import UcCatalog.CachedTables

namespace UcCatalog

open Stateful Transition

/-- An entry on the heap. The address is the number of the call that allocated the object, and
its place among the objects of that call. No two objects of a run share one. -/
structure Object (Entry : Type) where
  address : Nat × Nat
  entry : Entry

instance {Entry : Type} [CatalogEntry Entry] : CatalogEntry (Object Entry) :=
  ⟨fun object => CatalogEntry.name object.entry⟩

/-- The objects an answer points to. -/
def Answer.objects {Entry : Type} : Answer (Object Entry) → List (Object Entry)
  | .found object => object.toList
  | .visited objects => objects

/-- What can happen to a set while it is not cleared. -/
inductive SetCall (Entry : Type) where
  | createEntry (entry : Entry)
  | read (call : Call)
  | serverChanges (remote : Request → CurlResult)

/-- A set of objects, the number of calls made on it, and every object a call has pointed to. -/
structure HandleState (Entry : Type) where
  calls : Nat
  owner : SetState (Object Entry)
  handed : List (Object Entry)

/-- A set as it is constructed. -/
def HandleState.initial (Entry : Type) (world : World) : HandleState Entry :=
  ⟨0, ⟨world, .new (Object Entry)⟩, []⟩

/-- The objects the set owns. -/
def HandleState.owned {Entry : Type} (state : HandleState Entry) : List (Object Entry) :=
  state.owner.set.entries.bindings.map Prod.snd

section Handles

variable {Entry Item : Type} (loader : Loader Item Entry)

/-! ### Calls that allocate -/

/-- The loader of a call, with an object for each item of its listing. -/
def Loader.allocating (number : Nat) : Loader (Item × Nat) (Object Entry) where
  url := loader.url
  token := loader.token
  decode apiResult := do return (← loader.decode apiResult).zipIdx
  build item := do return { address := (number, item.2), entry := ← loader.build item.1 }
  adopt object := { object with entry := loader.adopt object.entry }

/-- The object a `CreateEntry` of an entry hands to the map. -/
def createdObject (number : Nat) (entry : Entry) : Object Entry :=
  { address := (number, 0), entry := loader.adopt entry }

variable [CatalogEntry Entry]

/-- A call of a run: it returns the objects it points its caller to. -/
def SetCall.run (number : Nat) :
    SetCall Entry → EStateM Fault (SetState (Object Entry)) (List (Object Entry))
  | .createEntry entry => do return [← UcCatalog.createEntry (createdObject loader number entry)]
  | .read call => do return (← call.run (loader.allocating number).loadEntries).objects
  | .serverChanges remote => do
    modify fun state => { state with world := { state.world with remote } }
    return []

/-- The state after a call, whether it returns or fails. -/
def HandleState.next (state : HandleState Entry) (call : SetCall Entry) : HandleState Entry :=
  let result := call.run loader state.calls state.owner
  { calls := state.calls + 1
    owner := after result
    handed := state.handed ++ (outcome result).toOption.getD [] }

/-- The state after a row of calls. -/
def handlesAfter (world : World) (calls : List (SetCall Entry)) : HandleState Entry :=
  calls.foldl (HandleState.next loader) (.initial Entry world)

def setCalls : System (HandleState Entry) (SetCall Entry) where
  start state := ∃ world, state = .initial Entry world
  step state call next := next = state.next loader call

/-- The call is no `CreateEntry` under a name that the set has an entry of already. -/
def SetCall.Avoids (state : HandleState Entry) : SetCall Entry → Prop
  | .createEntry entry =>
    state.owner.set.entries.find (CatalogEntry.name (loader.adopt entry)) = none
  | _ => True

/-- The next `GetEntry` returns: the set has loaded, or the load it has to make succeeds. -/
def HandleState.Answers (state : HandleState Entry) : Prop :=
  state.owner.set.isLoaded = true ∨
    ∃ created, loader.listed state.owner.world.remote = .ok created

/-- A pointer that does not dangle: the set owns the object, and `GetEntry` of its name returns
it. -/
structure HandleState.Holds (state : HandleState Entry) (object : Object Entry) : Prop where
  owned : object ∈ state.owned
  found : outcome (CatalogSet.getEntry (loader.allocating state.calls).loadEntries
    (CatalogEntry.name object) state.owner) = .ok (some object)

variable {loader}

theorem Loader.Offers.address {number : Nat} {remote : Request → CurlResult}
    {object : Object Entry} (offers : (loader.allocating number).Offers remote object) :
    object.address.1 = number := by
  obtain ⟨_, item, _, _, made⟩ := offers
  obtain ⟨fresh, built, rfl, _⟩ := Loader.entryOf_eq_ok made
  obtain ⟨entry, _, same⟩ := (Outcome.bind_eq_ok _ _ _).mp built
  cases same
  rfl

/-- An object of a load is made from the entry the plain loader makes. -/
theorem Loader.entryOf_allocating (number : Nat) (item : Item × Nat) :
    (loader.allocating number).entryOf item =
      (loader.entryOf item.1).map fun entry => { address := (number, item.2), entry } := by
  unfold entryOf
  show (loader.build item.1 >>= fun entry => Except.ok (Object.mk (number, item.2) entry)) >>= _ = _
  cases loader.build item.1 with
  | error fault => rfl
  | ok entry =>
    show (if CatalogEntry.name (loader.adopt entry) = [] then _ else _ : Outcome (Object Entry)) =
      Except.map _ (if CatalogEntry.name (loader.adopt entry) = [] then _ else _)
    split <;> rfl

theorem Loader.mapM_entryOf_allocating (number place : Nat) (items : List Item) :
    ((items.zipIdx place).mapM (loader.allocating number).entryOf).map (List.map Object.entry) =
      items.mapM loader.entryOf := by
  induction items generalizing place with
  | nil => rfl
  | cons item items inductionHypothesis =>
    rw [List.zipIdx_cons, List.mapM_cons, List.mapM_cons, entryOf_allocating,
      ← inductionHypothesis (place + 1)]
    cases loader.entryOf item with
    | error fault => rfl
    | ok entry =>
      show Except.map _ ((items.zipIdx (place + 1)).mapM (loader.allocating number).entryOf >>= _) =
        Except.map _ _ >>= _
      cases (items.zipIdx (place + 1)).mapM (loader.allocating number).entryOf <;> rfl

/-- The objects a reply stands for hold the entries it stands for. -/
theorem Loader.listed_allocating (number : Nat) (remote : Request → CurlResult) :
    ((loader.allocating number).listed remote).map (List.map Object.entry) =
      loader.listed remote := by
  unfold listed reply
  show Except.map _ (((remote loader.request).outcome loader.url >>= fun apiResult =>
    loader.decode apiResult >>= fun items => Except.ok items.zipIdx) >>= _) = _
  cases (remote loader.request).outcome loader.url with
  | error fault => rfl
  | ok apiResult =>
    show Except.map _ ((loader.decode apiResult >>= fun items => Except.ok items.zipIdx) >>= _) =
      loader.decode apiResult >>= _
    cases loader.decode apiResult with
    | error fault => rfl
    | ok items => exact mapM_entryOf_allocating number 0 items

/-- A load allocates its objects exactly when the plain load succeeds. -/
theorem Loader.loads_allocating_iff (number : Nat) (remote : Request → CurlResult) :
    (∃ objects, (loader.allocating number).listed remote = .ok objects) ↔
      ∃ created, loader.listed remote = .ok created := by
  rw [← loader.listed_allocating number remote]
  cases (loader.allocating number).listed remote with
  | ok objects => exact ⟨fun _ => ⟨_, rfl⟩, fun _ => ⟨_, rfl⟩⟩
  | error fault =>
    exact iff_of_false (fun ⟨_, listed⟩ => nomatch listed) fun ⟨_, listed⟩ => nomatch listed

/-! ### What a call does -/

section Steps

variable {state : HandleState Entry} {call : SetCall Entry} {final : SetState (Object Entry)}

theorem HandleState.next_of_ok {objects : List (Object Entry)}
    (returned : call.run loader state.calls state.owner = .ok objects final) :
    state.next loader call = ⟨state.calls + 1, final, state.handed ++ objects⟩ := by
  unfold next
  rw [returned]
  rfl

theorem HandleState.next_of_error {fault : Fault}
    (failed : call.run loader state.calls state.owner = .error fault final) :
    state.next loader call = ⟨state.calls + 1, final, state.handed⟩ := by
  unfold next
  rw [failed]
  show HandleState.mk _ final (state.handed ++ []) = _
  rw [List.append_nil]

end Steps

theorem run_createEntry_of_named {entry : Entry}
    (named : CatalogEntry.name (loader.adopt entry) ≠ []) (number : Nat)
    (owner : SetState (Object Entry)) :
    (SetCall.createEntry entry).run loader number owner =
      .ok [createdObject loader number entry] (owner.withEntries
        (owner.set.entries.insert (CatalogEntry.name (loader.adopt entry))
          (createdObject loader number entry))) := by
  have objectNamed : CatalogEntry.name (createdObject loader number entry) ≠ [] := named
  exact bind_of_ok _ (createEntry_of_named objectNamed owner)

theorem run_createEntry_of_unnamed {entry : Entry}
    (unnamed : CatalogEntry.name (loader.adopt entry) = []) (number : Nat)
    (owner : SetState (Object Entry)) :
    (SetCall.createEntry entry).run loader number owner = .error (.raised emptyName) owner := by
  have objectUnnamed : CatalogEntry.name (createdObject loader number entry) = [] := unnamed
  exact bind_of_error _ (createEntry_of_unnamed objectUnnamed owner)

/-- The object was allocated by the call of that number, and has a name. -/
def Object.MadeBy (number : Nat) (object : Object Entry) : Prop :=
  object.address.1 = number ∧ CatalogEntry.name object ≠ []

theorem Loader.Offers.madeBy {number : Nat} {remote : Request → CurlResult}
    {object : Object Entry} (offers : (loader.allocating number).Offers remote object) :
    object.MadeBy number :=
  ⟨offers.address, offers.named⟩

/-- A `GetEntry` or `Scan` inserts what its load has made, if it loads, and answers from the map
or fails with its load. -/
theorem run_read_cases (loader : Loader Item Entry) (call : Call) (number : Nat)
    (owner : SetState (Object Entry)) :
    ∃ created final, (∀ object ∈ created, object.MadeBy number) ∧
      final.set.entries = insertEntries owner.set.entries created ∧
        ((SetCall.read call).run loader number owner =
            .ok (call.answer final.set.entries).objects final ∨
          ∃ fault, (SetCall.read call).run loader number owner = .error fault final) := by
  cases loaded : owner.set.isLoaded with
  | true => exact ⟨[], owner, by simp, rfl, Or.inl (bind_of_ok _ (call.run_of_loaded loaded))⟩
  | false =>
    have ran : call.run (loader.allocating number).loadEntries owner = _ :=
      call.run_of_unloaded loaded
    cases listed : (loader.allocating number).listed owner.world.remote with
    | ok created =>
      rw [Loader.loadEntries_of_ok owner.flagged listed] at ran
      refine ⟨created, _, fun object member => ?_, rfl, Or.inl (bind_of_ok _ ran)⟩
      exact (Loader.offers_of_listed listed object member).madeBy
    | error fault =>
      obtain ⟨created, offers, stopped⟩ := Loader.loadEntries_of_error owner.flagged listed
      rw [stopped] at ran
      exact ⟨created, _, fun object member => (offers object member).madeBy, rfl,
        Or.inr ⟨fault, bind_of_error _ ran⟩⟩

/-- A call inserts objects it has allocated, and does nothing else to the map. -/
theorem HandleState.next_entries (state : HandleState Entry) (call : SetCall Entry) :
    ∃ created, (∀ object ∈ created, object.MadeBy state.calls) ∧
      (state.next loader call).owner.set.entries =
        insertEntries state.owner.set.entries created := by
  cases call with
  | createEntry entry =>
    by_cases unnamed : CatalogEntry.name (loader.adopt entry) = []
    · refine ⟨[], by simp, ?_⟩
      rw [next_of_error (run_createEntry_of_unnamed unnamed state.calls state.owner)]
      rfl
    · refine ⟨[createdObject loader state.calls entry], ?_, ?_⟩
      · intro object member
        rw [List.mem_singleton.mp member]
        exact ⟨rfl, unnamed⟩
      · rw [next_of_ok (run_createEntry_of_named unnamed state.calls state.owner)]
        rfl
  | read call =>
    obtain ⟨created, final, made, inserted, returned | ⟨fault, failed⟩⟩ :=
      run_read_cases loader call state.calls state.owner
    · exact ⟨created, made, by rw [next_of_ok returned, inserted]⟩
    · exact ⟨created, made, by rw [next_of_error failed, inserted]⟩
  | serverChanges remote => exact ⟨[], by simp, rfl⟩

omit [CatalogEntry Entry] in
theorem Call.objects_subset (call : Call) (entries : FoldedMap lower (Object Entry)) :
    (call.answer entries).objects ⊆ entries.bindings.map Prod.snd := by
  cases call with
  | getEntry name =>
    intro object member
    obtain ⟨bound, inMap, _⟩ := FoldedMap.exists_of_find (Option.mem_toList.mp member)
    exact List.mem_map_of_mem (f := Prod.snd) inMap
  | scan => exact List.Subset.refl _

/-- A call points to objects the set owns, unless it is a `CreateEntry` under a name that is
taken. -/
theorem HandleState.next_handed (state : HandleState Entry) (call : SetCall Entry)
    (avoids : call.Avoids loader state) :
    ∃ objects, objects ⊆ (state.next loader call).owned ∧
      (state.next loader call).handed = state.handed ++ objects := by
  cases call with
  | createEntry entry =>
    by_cases unnamed : CatalogEntry.name (loader.adopt entry) = []
    · refine ⟨[], List.nil_subset _, ?_⟩
      rw [next_of_error (run_createEntry_of_unnamed unnamed state.calls state.owner),
        List.append_nil]
    · rw [next_of_ok (run_createEntry_of_named unnamed state.calls state.owner)]
      refine ⟨[createdObject loader state.calls entry], ?_, rfl⟩
      intro object member
      rw [List.mem_singleton.mp member]
      exact List.mem_map_of_mem (f := Prod.snd) (FoldedMap.mem_insert.mpr (Or.inr ⟨avoids, rfl⟩))
  | read call =>
    obtain ⟨created, final, _, _, returned | ⟨fault, failed⟩⟩ :=
      run_read_cases loader call state.calls state.owner
    · rw [next_of_ok returned]
      exact ⟨_, call.objects_subset final.set.entries, rfl⟩
    · rw [next_of_error failed]
      exact ⟨[], List.nil_subset _, (List.append_nil _).symm⟩
  | serverChanges remote => exact ⟨[], List.nil_subset _, rfl⟩

theorem HandleState.owned_subset_next (state : HandleState Entry) (call : SetCall Entry) :
    state.owned ⊆ (state.next loader call).owned := by
  obtain ⟨created, _, inserted⟩ := next_entries state call
  unfold owned
  rw [inserted, insertEntries, FoldedMap.bindings_insertAll, List.map_append]
  exact List.subset_append_left _ _

/-! ### What holds over a run -/

/-- Every object of the set stands under its name and was allocated by an earlier call. -/
def HandleState.Sound (state : HandleState Entry) : Prop :=
  Stored (fun object => object.address.1 < state.calls ∧ CatalogEntry.name object ≠ [])
    state.owner.set.entries

theorem HandleState.Sound.next {state : HandleState Entry} (sound : state.Sound)
    (call : SetCall Entry) : (state.next loader call).Sound := by
  obtain ⟨created, made, inserted⟩ := next_entries state call
  unfold Sound
  rw [inserted]
  refine Stored.insertEntries (fun binding member => ?_) fun object member => ?_
  · obtain ⟨bound, older, named⟩ := sound binding member
    exact ⟨bound, Nat.lt_succ_of_lt older, named⟩
  · obtain ⟨here, named⟩ := made object member
    exact ⟨here ▸ Nat.lt_succ_self _, named⟩

variable {allowed : HandleState Entry → SetCall Entry → Prop} {state : HandleState Entry}

theorem sound_of_reaches (reached : Reaches (setCalls loader) allowed state) : state.Sound := by
  refine reached.invariant ?_ ?_
  · rintro _ ⟨world, rfl⟩
    exact stored_empty
  · rintro _ call _ sound _ rfl
    exact sound.next call

/-- The set owns every object it has pointed to. -/
def HandleState.OwnsHanded (state : HandleState Entry) : Prop := state.handed ⊆ state.owned

theorem ownsHanded_of_reaches
    (reached : Reaches (setCalls loader) (fun state call => call.Avoids loader state) state) :
    state.OwnsHanded := by
  refine reached.invariant ?_ ?_
  · rintro _ ⟨world, rfl⟩
    exact List.nil_subset _
  · rintro before call _ kept avoids rfl
    obtain ⟨objects, owned, same⟩ := before.next_handed call avoids
    unfold HandleState.OwnsHanded
    rw [same]
    exact List.append_subset.mpr ⟨List.Subset.trans kept (before.owned_subset_next call), owned⟩

/-- What the set owns is found under its name, also by a call that loads first. -/
theorem holds_of_owned (sound : state.Sound) (answers : state.Answers loader)
    {object : Object Entry} (owned : object ∈ state.owned) : state.Holds loader object := by
  refine ⟨owned, ?_⟩
  obtain ⟨⟨bound, stored⟩, inMap, same⟩ := List.mem_map.mp owned
  obtain rfl : stored = object := same
  have found := FoldedMap.find_of_mem inMap (congrArg lower (sound _ inMap).1)
  cases loaded : state.owner.set.isLoaded with
  | true =>
    rw [getEntry_of_loaded loaded]
    exact congrArg Except.ok found
  | false =>
    have loads := answers.resolve_left (by rw [loaded]; exact Bool.false_ne_true)
    obtain ⟨created, listed⟩ := (Loader.loads_allocating_iff state.calls _).mpr loads
    have kept := FoldedMap.find_insertAll CatalogEntry.name state.owner.set.entries created
      (CatalogEntry.name stored)
    rw [found, Option.some_or] at kept
    rw [CatalogSet.getEntry, run_bind, ensureLoaded_of_unloaded loaded,
      Loader.loadEntries_of_ok state.owner.flagged listed]
    exact congrArg Except.ok kept

/-- A pointer that is good is found, so `GetEntry` returns. -/
theorem HandleState.Holds.answers {object : Object Entry} (holds : state.Holds loader object) :
    state.Answers loader := by
  cases loaded : state.owner.set.isLoaded with
  | true => exact Or.inl loaded
  | false =>
    refine Or.inr ((Loader.loads_allocating_iff state.calls _).mp ?_)
    cases listed : (loader.allocating state.calls).listed state.owner.world.remote with
    | ok created => exact ⟨created, rfl⟩
    | error fault =>
      obtain ⟨_, _, stopped⟩ := Loader.loadEntries_of_error state.owner.flagged listed
      have found := holds.found
      rw [CatalogSet.getEntry, run_bind, ensureLoaded_of_unloaded loaded, stopped] at found
      cases found

/-- A `CreateEntry` under a name that is taken returns a pointer to an object it has dropped. -/
theorem exists_dangling (sound : state.Sound) {call : SetCall Entry}
    (taken : ¬ call.Avoids loader state) :
    ∃ object ∈ (state.next loader call).handed, object ∉ (state.next loader call).owned := by
  cases call with
  | createEntry entry =>
    have present : state.owner.set.entries.find (CatalogEntry.name (loader.adopt entry)) ≠ none :=
      taken
    have named : CatalogEntry.name (loader.adopt entry) ≠ [] := by
      intro unnamed
      obtain ⟨object, found⟩ := Option.ne_none_iff_exists'.mp present
      obtain ⟨bound, inMap, same⟩ := FoldedMap.exists_of_find found
      obtain ⟨named, _, nonempty⟩ := sound _ inMap
      rw [unnamed] at same
      exact nonempty (named.symm.trans (List.map_eq_nil_iff.mp same))
    rw [HandleState.next_of_ok (run_createEntry_of_named named state.calls state.owner)]
    refine ⟨createdObject loader state.calls entry,
      List.mem_append_right _ (List.mem_singleton_self _), fun owned => ?_⟩
    obtain ⟨⟨bound, object⟩, inMap, rfl⟩ := List.mem_map.mp owned
    rcases FoldedMap.mem_insert.mp inMap with older | ⟨absent, _⟩
    · exact absurd (sound _ older).2.1 (Nat.lt_irrefl _)
    · exact present absent
  | read call => exact absurd trivial taken
  | serverChanges remote => exact absurd trivial taken

/-! ### The pointers of a run -/

theorem reaches_handlesAfter (world : World) {calls : List (SetCall Entry)}
    (permitted : ∀ earlier call, earlier ++ [call] <+: calls →
      allowed (handlesAfter loader world earlier) call) :
    Reaches (setCalls loader) allowed (handlesAfter loader world calls) := by
  have started : Reaches (setCalls loader) allowed (.initial Entry world) := .start ⟨world, rfl⟩
  exact started.foldl (fun _ _ => rfl) permitted

/-- Over a run no pointer that was handed out dangles, at any point, exactly when no `CreateEntry`
of the run uses a name that is taken, and `GetEntry` returns wherever a pointer has been handed
out. -/
theorem handles_hold_iff (loader : Loader Item Entry) (world : World)
    (calls : List (SetCall Entry)) :
    (∀ earlier, earlier <+: calls → ∀ object ∈ (handlesAfter loader world earlier).handed,
      (handlesAfter loader world earlier).Holds loader object) ↔
    (∀ earlier call, earlier ++ [call] <+: calls →
      call.Avoids loader (handlesAfter loader world earlier)) ∧
    (∀ earlier, earlier <+: calls → (handlesAfter loader world earlier).handed ≠ [] →
      (handlesAfter loader world earlier).Answers loader) := by
  constructor
  · intro holds
    refine ⟨fun earlier call within => ?_, fun earlier within out => ?_⟩
    · by_contra taken
      have reached :
          Reaches (setCalls loader) (fun _ _ => True) (handlesAfter loader world earlier) :=
        reaches_handlesAfter world fun _ _ _ => trivial
      obtain ⟨object, handed, dropped⟩ := exists_dangling (sound_of_reaches reached) taken
      have after := holds (earlier ++ [call]) within object
      unfold handlesAfter at after
      rw [List.foldl_append] at after
      exact dropped (after handed).owned
    · obtain ⟨object, handed⟩ := List.exists_mem_of_ne_nil _ out
      exact (holds earlier within object handed).answers
  · rintro ⟨avoids, answers⟩ earlier within object handed
    have reached : Reaches (setCalls loader) (fun state call => call.Avoids loader state)
        (handlesAfter loader world earlier) :=
      reaches_handlesAfter world fun taken call here => avoids taken call (here.trans within)
    exact holds_of_owned (sound_of_reaches reached)
      (answers earlier within (List.ne_nil_of_mem handed)) (ownsHanded_of_reaches reached handed)

end Handles

/-- A table without columns. -/
def bareTable (name : String) : TableEntry where
  name := name.toList
  columns := []
  tableData := none
  internal := false

/-- The second of two `CreateEntry` calls whose names differ in case only returns a pointer to an
object the set does not own. -/
theorem handles_hold_case_varied :
    ¬ ∀ (loader : Loader APITable TableEntry) (world : World) (calls : List (SetCall TableEntry))
      (earlier : List (SetCall TableEntry)), earlier <+: calls →
      ∀ object ∈ (handlesAfter loader world earlier).handed,
        (handlesAfter loader world earlier).Holds loader object := by
  intro holds
  have collide := holds (tableLoader silentLibraries "uc".toList ⟨[], [], []⟩ "s".toList false)
    ⟨fun _ => .body [], []⟩ [.createEntry (bareTable "t"), .createEntry (bareTable "T")] _
    List.prefix_rfl ⟨(1, 0), bareTable "T"⟩ (.tail _ (.head _))
  have owned : ((1, 0) : Nat × Nat) ∈ [(0, 0)] :=
    List.mem_map_of_mem (f := Object.address) collide.owned
  exact absurd owned (by decide)

end UcCatalog
