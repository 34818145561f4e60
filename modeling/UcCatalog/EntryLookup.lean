/-
This file compares the two ways to an entry of a schema: `Scan` and `GetEntry`,
each for a type of entries.

Two functions decide on the type. `CatalogTypeIsSupported` says whether a schema
has entries of it, and `GetCatalogSet` selects their set. They agree on tables
and views, which have one set between them, and on what is not supported. They
disagree on indexes, which pass the first and make the second raise.
-/

import UcCatalog.CachedListing
import UcCatalog.Catalog
import UcCatalog.TableReplies

namespace UcCatalog

open Stateful

/-- The schema keeps a set for the type. -/
def KeepsSet (type : CatalogType) : Prop := type = .tableEntry ∨ type = .viewEntry

section Calls

variable (loadEntries : EStateM Fault (SetState TableEntry) Unit) (type : CatalogType) (name : Text)

/-- The two calls one after the other, the scan first. -/
def scanThenGet : EStateM Fault (SetState TableEntry) (List TableEntry × Option TableEntry) := do
  let visited ← schemaScan loadEntries type
  let found ← schemaGetEntry loadEntries type name
  return (visited, found)

/-- The two calls one after the other, the lookup first. -/
def getThenScan : EStateM Fault (SetState TableEntry) (List TableEntry × Option TableEntry) := do
  let found ← schemaGetEntry loadEntries type name
  let visited ← schemaScan loadEntries type
  return (visited, found)

/-- In either order the calls return, and the lookup finds what the scan visits under the name. -/
def EntriesAgree (state : SetState TableEntry) : Prop :=
  ∃ visited found,
    (∃ final, scanThenGet loadEntries type name state = .ok (visited, found) final) ∧
    (∃ final, getThenScan loadEntries type name state = .ok (visited, found) final) ∧
    (∀ entry, found = some entry ↔ entry ∈ visited ∧ lower entry.name = lower name) ∧
    (¬ KeepsSet type → visited = [])

variable {loadEntries type} {state : SetState TableEntry}

/-- A type that is not supported behaves as an empty set. -/
theorem entriesAgree_of_unsupported (unsupported : catalogTypeIsSupported type = false) :
    EntriesAgree loadEntries type name state := by
  have scanned : schemaScan loadEntries type = pure [] := by
    rw [schemaScan, if_pos unsupported]
  have looked : schemaGetEntry loadEntries type name = pure none := by
    rw [schemaGetEntry, if_pos unsupported]
  refine ⟨[], none, ⟨state, ?_⟩, ⟨state, ?_⟩, fun entry => ⟨nofun, ?_⟩, fun _ => rfl⟩
  · rw [scanThenGet, scanned, looked]
    rfl
  · rw [getThenScan, scanned, looked]
    rfl
  · exact fun both => absurd both.1 List.not_mem_nil

/-- A type that has a set behaves as the set. -/
theorem schemaScan_of_keepsSet (keeps : KeepsSet type) :
    schemaScan loadEntries type = CatalogSet.scan loadEntries := by
  rcases keeps with rfl | rfl
  · rfl
  · rfl

theorem schemaGetEntry_of_keepsSet (keeps : KeepsSet type) :
    schemaGetEntry loadEntries type name = CatalogSet.getEntry loadEntries name := by
  rcases keeps with rfl | rfl
  · rfl
  · rfl

/-- An index is supported, and has no set. -/
theorem not_entriesAgree_indexEntry : ¬ EntriesAgree loadEntries .indexEntry name state := by
  rintro ⟨visited, found, ⟨final, returned⟩, _⟩
  exact nomatch returned

end Calls

section Listing

variable {loader : Loader APITable TableEntry} {world : World} {kept : Option (List TableEntry)}
  (succeeds : kept = none → ∃ listing, loader.listed world.remote = .ok listing)

include succeeds

theorem entriesAgree_of_keepsSet {type : CatalogType} (keeps : KeepsSet type) (name : Text) :
    EntriesAgree loader.loadEntries type name ⟨world, .ofListing kept⟩ := by
  have again : some (loader.view world.remote kept) = none →
      ∃ listing, loader.listed (world.asked loader kept).remote = .ok listing := nofun
  let final : SetState TableEntry :=
    ⟨world.asked loader kept, .ofListing (some (loader.view world.remote kept))⟩
  refine ⟨firstOfEachName (loader.view world.remote kept),
    firstNamed (loader.view world.remote kept) name, ⟨final, ?_⟩, ⟨final, ?_⟩,
    fun entry => firstNamed_iff, fun without => absurd keeps without⟩
  · rw [scanThenGet, schemaScan_of_keepsSet keeps, schemaGetEntry_of_keepsSet name keeps,
      bind_of_ok _ (scan_ofListing succeeds), bind_of_ok _ (getEntry_ofListing again name)]
    rfl
  · rw [getThenScan, schemaScan_of_keepsSet keeps, schemaGetEntry_of_keepsSet name keeps,
      bind_of_ok _ (getEntry_ofListing succeeds name), bind_of_ok _ (scan_ofListing again)]
    rfl

end Listing

/-- `Scan` and `GetEntry` agree in a schema whose listing can be loaded for every type but that of
indexes. -/
theorem entriesAgree_iff {libraries : Libraries} {dbPath schemaName : Text}
    {credentials : Credentials} {schemaInternal : Bool} {world : World}
    {kept : Option (List TableEntry)}
    (succeeds : kept = none → ∃ listing,
      (tableLoader libraries dbPath credentials schemaName schemaInternal).listed world.remote =
        .ok listing) (type : CatalogType) (name : Text) :
    EntriesAgree (tableLoader libraries dbPath credentials schemaName schemaInternal).loadEntries
        type name ⟨world, .ofListing kept⟩ ↔ type ≠ .indexEntry := by
  cases type with
  | tableEntry => exact iff_of_true (entriesAgree_of_keepsSet succeeds (Or.inl rfl) name) nofun
  | viewEntry => exact iff_of_true (entriesAgree_of_keepsSet succeeds (Or.inr rfl) name) nofun
  | indexEntry =>
    exact iff_of_false (not_entriesAgree_indexEntry name) fun differ => differ rfl
  | schemaEntry | other => exact iff_of_true (entriesAgree_of_unsupported name rfl) nofun

/-- Every reply lists `t`, `T` and `u`. -/
def threeTables : World := ⟨fun _ => .body threeTablesBody, []⟩

def threeTablesLoader : Loader APITable TableEntry :=
  tableLoader tableReplies "uc".toList ⟨[], [], []⟩ "s".toList false

theorem listed_threeTables :
    ∃ listing, threeTablesLoader.listed threeTables.remote = .ok listing := by
  have decoded : ∃ items, decodeTables tableReplies "uc".toList "s".toList threeTablesBody =
      .ok items ∧ ∃ listing, items.mapM threeTablesLoader.entryOf = .ok listing := by
    rw [decodeTables, yyjsonRead_tableReplies, readReply_threeTables]
    exact ⟨_, rfl, _, rfl⟩
  obtain ⟨items, read, listing, made⟩ := decoded
  have replied : threeTablesLoader.reply threeTables.remote =
      threeTablesLoader.decode threeTablesBody := Loader.reply_of_body rfl
  have decodes (body : Text) : threeTablesLoader.decode body =
      Outcome.ofExcept (decodeTables tableReplies "uc".toList "s".toList body) := rfl
  rw [decodes, read] at replied
  exact ⟨listing, (Outcome.bind_eq_ok _ _ _).mpr ⟨items, replied, made⟩⟩

/-- In a schema that lists `t`, `T` and `u`, under a name of the first two and under `U`. -/
theorem entriesAgree_iff_threeTables :
    EntriesAgree threeTablesLoader.loadEntries .tableEntry "T".toList
        ⟨threeTables, .ofListing none⟩ ∧
      EntriesAgree threeTablesLoader.loadEntries .tableEntry "U".toList
        ⟨threeTables, .ofListing none⟩ :=
  ⟨(entriesAgree_iff (fun _ => listed_threeTables) .tableEntry "T".toList).mpr nofun,
    (entriesAgree_iff (fun _ => listed_threeTables) .tableEntry "U".toList).mpr nofun⟩

/-- Both calls raise for indexes. -/
theorem entriesAgree_indexEntry :
    ¬ ∀ (libraries : Libraries) (dbPath schemaName : Text) (credentials : Credentials)
      (schemaInternal : Bool) (world : World) (kept : Option (List TableEntry)),
      (kept = none → ∃ listing, (tableLoader libraries dbPath credentials schemaName
        schemaInternal).listed world.remote = .ok listing) →
      ∀ type name, EntriesAgree (tableLoader libraries dbPath credentials schemaName
        schemaInternal).loadEntries type name ⟨world, .ofListing kept⟩ := by
  intro agree
  exact not_entriesAgree_indexEntry [] (agree tableReplies "uc".toList "s".toList ⟨[], [], []⟩
    false threeTables none (fun _ => listed_threeTables) .indexEntry [])

end UcCatalog
