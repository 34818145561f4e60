/-
This file is the lazily filled set as a function of the listing it has fetched,
for loads that succeed. A set that has fetched nothing is as constructed, and any
other holds the first entry of each name in its listing. A call fetches the
listing when there is none, and answers from the one there is.
-/

import UcCatalog.CatalogSet

namespace UcCatalog

open Stateful

section Listing

variable {Entry Item : Type} [CatalogEntry Entry]

/-- The first entry of a name in a listing. -/
def firstNamed (listing : List Entry) (name : Text) : Option Entry :=
  listing.find? fun entry => lower (CatalogEntry.name entry) = lower name

theorem firstNamed_eq_some {listing : List Entry} {name : Text} {entry : Entry}
    (found : firstNamed listing name = some entry) :
    entry ∈ listing ∧ lower (CatalogEntry.name entry) = lower name :=
  ⟨List.mem_of_find?_eq_some found, by simpa using List.find?_some found⟩

/-- The first entry of each name in a listing. -/
def firstOfEachName (listing : List Entry) : List Entry :=
  FoldedMap.firstOccurrences CatalogEntry.name lower listing

/-- The set that has fetched a listing, or nothing. -/
def CatalogSet.ofListing : Option (List Entry) → CatalogSet Entry
  | none => .new Entry
  | some listing => ⟨insertEntries (.empty lower Entry) listing, true⟩

theorem find_insertEntries (listing : List Entry) (name : Text) :
    (insertEntries (.empty lower Entry) listing).find name = firstNamed listing name := by
  rw [insertEntries, FoldedMap.find_insertAll, FoldedMap.find_empty, Option.none_or]
  rfl

theorem bindings_insertEntries (listing : List Entry) :
    (insertEntries (.empty lower Entry) listing).bindings.map Prod.snd =
      firstOfEachName listing := by
  rw [insertEntries, FoldedMap.bindings_insertAll_empty, List.map_map]
  exact List.map_id _

theorem mem_firstOfEachName {listing : List Entry} {entry : Entry}
    (member : entry ∈ firstOfEachName listing) :
    (CatalogEntry.name entry, entry) ∈ (insertEntries (.empty lower Entry) listing).bindings := by
  rw [insertEntries, FoldedMap.bindings_insertAll_empty]
  exact List.mem_map_of_mem member

/-- The first entry of each name is found under its name. -/
theorem firstNamed_of_mem {listing : List Entry} {entry : Entry}
    (member : entry ∈ firstOfEachName listing) :
    firstNamed listing (CatalogEntry.name entry) = some entry := by
  rw [← find_insertEntries]
  exact FoldedMap.find_of_mem (mem_firstOfEachName member) rfl

/-- A name finds the entry of that name among the first of each name. -/
theorem firstNamed_iff {listing : List Entry} {name : Text} {entry : Entry} :
    firstNamed listing name = some entry ↔
      entry ∈ firstOfEachName listing ∧ lower (CatalogEntry.name entry) = lower name := by
  constructor
  · intro found
    refine ⟨?_, (firstNamed_eq_some found).2⟩
    rw [← find_insertEntries] at found
    obtain ⟨bound, member, _⟩ := FoldedMap.exists_of_find found
    rw [← bindings_insertEntries]
    exact List.mem_map_of_mem member
  · rintro ⟨member, same⟩
    rw [← find_insertEntries, ← FoldedMap.find_congr _ same, find_insertEntries]
    exact firstNamed_of_mem member

theorem firstOfEachName_apart (listing : List Entry) :
    (firstOfEachName listing).Pairwise fun one other =>
      lower (CatalogEntry.name one) ≠ lower (CatalogEntry.name other) := by
  have distinct := (insertEntries (.empty lower Entry) listing).distinct
  rw [insertEntries, FoldedMap.bindings_insertAll_empty, List.map_map] at distinct
  exact List.pairwise_map.mp distinct

/-- The listing the server has for a loader. -/
def Loader.current (loader : Loader Item Entry) (remote : Request → CurlResult) : List Entry :=
  match loader.listed remote with
  | .ok listing => listing
  | .error _ => []

/-- The listing a call answers from: the one that is kept, or else the server's. -/
def Loader.view (loader : Loader Item Entry) (remote : Request → CurlResult)
    (kept : Option (List Entry)) : List Entry :=
  kept.getD (loader.current remote)

/-- The server after the request a call sends when there is no listing. -/
def World.asked (world : World) (loader : Loader Item Entry) (kept : Option (List Entry)) : World :=
  if kept.isNone then { world with sent := world.sent ++ [loader.request] } else world

section Calls

variable {loader : Loader Item Entry} {world : World} {kept : Option (List Entry)}

theorem Loader.current_eq {listing : List Entry}
    (listed : loader.listed world.remote = .ok listing) :
    loader.current world.remote = listing := by
  rw [current, listed]

/-- The request of a load that succeeds is sent. -/
theorem logged_of_listed {listing : List Entry}
    (listed : loader.listed world.remote = .ok listing) :
    world.logged loader.request = { world with sent := world.sent ++ [loader.request] } := by
  obtain ⟨_, replied, _⟩ := (Outcome.bind_eq_ok _ _ _).mp listed
  obtain ⟨_, transferred, _⟩ := (Outcome.bind_eq_ok _ _ _).mp replied
  unfold World.logged
  cases answered : world.remote loader.request with
  | initFailed =>
    rw [answered] at transferred
    exact nomatch transferred
  | failed error => rfl
  | body readBuffer => rfl

variable (succeeds : kept = none → ∃ listing, loader.listed world.remote = .ok listing)

include succeeds

theorem ensureLoaded_ofListing :
    ensureLoaded loader.loadEntries ⟨world, .ofListing kept⟩ =
      .ok () ⟨world.asked loader kept, .ofListing (some (loader.view world.remote kept))⟩ := by
  cases kept with
  | some listing => rfl
  | none =>
    obtain ⟨listing, listed⟩ := succeeds rfl
    have loaded := Loader.loadEntries_of_ok ⟨world, ⟨.empty lower Entry, true⟩⟩ listed
    have sent := logged_of_listed listed
    show loader.loadEntries ⟨world, ⟨.empty lower Entry, true⟩⟩ = _
    rw [loaded, Loader.view, Option.getD_none, Loader.current_eq listed, SetState.requested, sent]
    rfl

theorem getEntry_ofListing (name : Text) :
    CatalogSet.getEntry loader.loadEntries name ⟨world, .ofListing kept⟩ =
      .ok (firstNamed (loader.view world.remote kept) name)
        ⟨world.asked loader kept, .ofListing (some (loader.view world.remote kept))⟩ := by
  rw [CatalogSet.getEntry, bind_of_ok _ (ensureLoaded_ofListing succeeds), ← find_insertEntries]
  rfl

theorem scan_ofListing :
    CatalogSet.scan loader.loadEntries ⟨world, .ofListing kept⟩ =
      .ok (firstOfEachName (loader.view world.remote kept))
        ⟨world.asked loader kept, .ofListing (some (loader.view world.remote kept))⟩ := by
  rw [CatalogSet.scan, bind_of_ok _ (ensureLoaded_ofListing succeeds), ← bindings_insertEntries]
  rfl

omit succeeds in
/-- A scan that has to fetch the listing returns only if the server's reply is good. -/
theorem listed_of_scan {world : World} {entries : List Entry} {final : SetState Entry}
    (scanned : CatalogSet.scan loader.loadEntries ⟨world, .ofListing none⟩ = .ok entries final) :
    ∃ listing, loader.listed world.remote = .ok listing := by
  obtain ⟨_, between, ensured, _⟩ := of_bind_ok scanned
  rw [ensureLoaded_of_unloaded rfl] at ensured
  cases listed : loader.listed world.remote with
  | ok listing => exact ⟨listing, rfl⟩
  | error fault =>
    obtain ⟨created, _, stopped⟩ :=
      Loader.loadEntries_of_error ⟨world, ⟨.empty lower Entry, true⟩⟩ listed
    exact nomatch ensured.symm.trans stopped

end Calls

end Listing

end UcCatalog
