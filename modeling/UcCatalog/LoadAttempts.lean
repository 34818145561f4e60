/-
This file is the lazily filled set whatever becomes of its load. A load that stops
at a fault leaves the entries it has created, and the set counts as loaded, so
that a set is at all times filled from a list of entries: the entries of the one
load it has attempted since it was constructed or cleared.

An `Attempt` is what a load comes to, and the server's reply alone decides it. A
call makes the attempt if none was made, fails with its fault if it has one, and
answers from the entries it created otherwise.
-/

import UcCatalog.CachedListing

namespace UcCatalog

open Stateful

/-- What a load comes to: the entries it creates, and the fault it stops at, if it stops. -/
structure Attempt (Entry : Type) where
  created : List Entry
  fault : Option Fault

/-- The server after the request of an attempt, if one is made. -/
def World.tried (world : World) (request : Request) (untried : Bool) : World :=
  if untried then world.logged request else world

@[simp] theorem World.logged_remote (world : World) (request : Request) :
    (world.logged request).remote = world.remote := by
  unfold logged
  split
  · rfl
  · rfl

@[simp] theorem World.tried_remote (world : World) (request : Request) (untried : Bool) :
    (world.tried request untried).remote = world.remote := by
  unfold tried
  split
  · exact world.logged_remote request
  · rfl

theorem World.tried_eq (world : World) (request : Request) (untried : Bool) :
    world.tried request untried = ⟨world.remote, (world.tried request untried).sent⟩ := by
  conv_rhs => rw [← world.tried_remote request untried]

/-- An attempt sends its request or nothing, whatever was sent before. -/
theorem World.exists_tried (remote : Request → CurlResult) (request : Request) (untried : Bool) :
    ∃ requests, requests.Sublist (if untried then [request] else []) ∧
      ∀ sent, ((⟨remote, sent⟩ : World).tried request untried).sent = sent ++ requests := by
  unfold tried
  cases untried with
  | false => exact ⟨[], List.nil_sublist _, fun sent => (List.append_nil sent).symm⟩
  | true =>
    simp only [if_true, logged]
    cases remote request with
    | initFailed => exact ⟨[], List.nil_sublist _, fun sent => (List.append_nil sent).symm⟩
    | failed | body => exact ⟨[request], List.Sublist.refl _, fun _ => rfl⟩

section Attempts

variable {Entry Item : Type}

/-- A load that stops before it has created an entry. -/
def Attempt.stopped (fault : Fault) : Attempt Entry := ⟨[], some fault⟩

/-- A load that creates an entry and goes on. -/
def Attempt.following (entry : Entry) (rest : Attempt Entry) : Attempt Entry :=
  ⟨entry :: rest.created, rest.fault⟩

/-- How the load ends. -/
def Attempt.ending (attempt : Attempt Entry) : Outcome PUnit :=
  match attempt.fault with
  | none => .ok ⟨⟩
  | some fault => .error fault

@[simp] theorem Attempt.ending_following (entry : Entry) (rest : Attempt Entry) :
    (rest.following entry).ending = rest.ending := rfl

/-- The loop over a listing, up to the first item that no entry is made of. -/
def attemptEach (entryOf : Item → Outcome Entry) : List Item → Attempt Entry
  | [] => ⟨[], none⟩
  | item :: items =>
    match entryOf item with
    | .error fault => .stopped fault
    | .ok entry => (attemptEach entryOf items).following entry

/-- Every created entry was made of an item. -/
theorem exists_of_mem_attemptEach {entryOf : Item → Outcome Entry} {items : List Item}
    {entry : Entry} (member : entry ∈ (attemptEach entryOf items).created) :
    ∃ item ∈ items, entryOf item = .ok entry := by
  induction items with
  | nil => exact absurd member List.not_mem_nil
  | cons item items inductionHypothesis =>
    rw [attemptEach] at member
    cases first : entryOf item with
    | error fault =>
      rw [first] at member
      exact absurd member List.not_mem_nil
    | ok made =>
      rw [first] at member
      rcases List.mem_cons.mp member with rfl | inRest
      · exact ⟨item, List.mem_cons_self, first⟩
      · obtain ⟨source, inItems, same⟩ := inductionHypothesis inRest
        exact ⟨source, List.mem_cons_of_mem _ inItems, same⟩

section Loader

variable [CatalogEntry Entry] (loader : Loader Item Entry)

/-- What a load comes to, by the server's reply. -/
def Loader.attempt (remote : Request → CurlResult) : Attempt Entry :=
  match loader.reply remote with
  | .error fault => .stopped fault
  | .ok items => attemptEach loader.entryOf items

variable {loader}

/-- What a load creates the reply offers. -/
theorem Loader.offers_of_attempt {remote : Request → CurlResult} {entry : Entry}
    (member : entry ∈ (loader.attempt remote).created) : loader.Offers remote entry := by
  unfold attempt at member
  cases replied : loader.reply remote with
  | error fault =>
    rw [replied] at member
    exact absurd member List.not_mem_nil
  | ok items =>
    rw [replied] at member
    obtain ⟨item, inItems, made⟩ := exists_of_mem_attemptEach member
    exact ⟨items, item, replied, inItems, made⟩

/-- The loop of `LoadEntries` creates the entries of the attempt and ends as it does. -/
theorem Loader.createAll_eq (items : List Item) (state : SetState Entry) :
    forM items loader.createOne state =
      finish (attemptEach loader.entryOf items).ending
        (state.withEntries
          (insertEntries state.set.entries (attemptEach loader.entryOf items).created)) := by
  induction items generalizing state with
  | nil => rfl
  | cons item items inductionHypothesis =>
    have turn := loader.createOne_eq item state
    rw [List.forM_cons, attemptEach]
    cases made : loader.entryOf item with
    | error fault =>
      rw [made] at turn
      exact bind_of_error _ turn
    | ok entry =>
      rw [made] at turn
      rw [bind_of_ok _ turn, inductionHypothesis]
      rfl

/-- A load creates the entries of its attempt and ends as it does. -/
theorem Loader.loadEntries_eq (state : SetState Entry) :
    loader.loadEntries state =
      finish (loader.attempt state.world.remote).ending
        ((state.requested loader).withEntries
          (insertEntries state.set.entries (loader.attempt state.world.remote).created)) := by
  unfold attempt
  cases replied : loader.reply state.world.remote with
  | error fault =>
    rw [loadEntries, bind_of_error _ (zoom_of_error (fetch_of_error replied))]
    rfl
  | ok items =>
    rw [loadEntries_of_reply replied]
    exact createAll_eq items (state.requested loader)

variable (loader)

/-- The entries a call answers from: those of the attempt that was made, or else of the one it
makes. -/
def Loader.held (remote : Request → CurlResult) (kept : Option (List Entry)) : List Entry :=
  kept.getD (loader.attempt remote).created

/-- How the access of a call to the entries ends: well if the attempt was made before. -/
def Loader.accessEnding (remote : Request → CurlResult) (kept : Option (List Entry)) :
    Outcome PUnit :=
  if kept.isNone then (loader.attempt remote).ending else .ok ⟨⟩

end Loader

section Calls

variable [CatalogEntry Entry] (loader : Loader Item Entry)
variable (world : World) (kept : Option (List Entry))

/-- The set with what an attempt has created, and the server behind it. -/
def Loader.accessed : SetState Entry :=
  ⟨world.tried loader.request kept.isNone, .ofListing (some (loader.held world.remote kept))⟩

theorem ensureLoaded_accessed :
    ensureLoaded loader.loadEntries ⟨world, .ofListing kept⟩ =
      finish (loader.accessEnding world.remote kept) (loader.accessed world kept) := by
  cases kept with
  | some listing => rfl
  | none =>
    have loaded := loader.loadEntries_eq ⟨world, ⟨.empty lower Entry, true⟩⟩
    exact loaded

/-- A lookup in the set, by the entries it answers from. -/
theorem getEntry_accessed (name : Text) :
    CatalogSet.getEntry loader.loadEntries name ⟨world, .ofListing kept⟩ =
      finish ((loader.accessEnding world.remote kept).map fun _ =>
          firstNamed (loader.held world.remote kept) name)
        (loader.accessed world kept) := by
  have ensured := ensureLoaded_accessed loader world kept
  rw [CatalogSet.getEntry]
  cases ending : loader.accessEnding world.remote kept with
  | error fault =>
    rw [ending] at ensured
    exact bind_of_error _ ensured
  | ok value =>
    rw [ending] at ensured
    rw [bind_of_ok _ ensured, ← find_insertEntries]
    rfl

/-- An iteration over the set, likewise. -/
theorem scan_accessed :
    CatalogSet.scan loader.loadEntries ⟨world, .ofListing kept⟩ =
      finish ((loader.accessEnding world.remote kept).map fun _ =>
          firstOfEachName (loader.held world.remote kept))
        (loader.accessed world kept) := by
  have ensured := ensureLoaded_accessed loader world kept
  rw [CatalogSet.scan]
  cases ending : loader.accessEnding world.remote kept with
  | error fault =>
    rw [ending] at ensured
    exact bind_of_error _ ensured
  | ok value =>
    rw [ending] at ensured
    rw [bind_of_ok _ ensured, ← bindings_insertEntries]
    rfl

end Calls

end Attempts

end UcCatalog
