/-
This file is about loads that fail. A set raises its flag before it loads and
never lowers it on the way out of an exception, so the load that failed counts
as done: what it had created stays, and later calls answer from that without
another request. No failing load leaves a set as it was.
-/

import UcCatalog.Operations

namespace UcCatalog

open Stateful

section Loader

variable {Item Entry : Type} [CatalogEntry Entry]

/-- The call raises and leaves the set as it was, and the next call asks the server again. -/
def FailureLeavesCache (loader : Loader Item Entry) (call : Call) (state : SetState Entry) : Prop :=
  ∃ exception final, call.run loader.loadEntries state = .error (.raised exception) final ∧
    final.set = state.set ∧
      ∀ next : Call, (after (next.run loader.loadEntries final)).world =
        final.world.logged loader.request

/-- The call raises, the set counts as loaded with the entries created so far, and every next
call answers from these and asks nothing. -/
def FailureIsKept (loader : Loader Item Entry) (call : Call) (state : SetState Entry) : Prop :=
  ∃ exception final created, call.run loader.loadEntries state = .error (.raised exception) final ∧
    final.set = ⟨insertEntries state.set.entries created, true⟩ ∧
      ∀ next : Call, next.run loader.loadEntries final =
        .ok (next.answer final.set.entries) final

/-- A failing load is kept. -/
theorem failureIsKept {loader : Loader Item Entry} (call : Call) {state : SetState Entry}
    {exception : Exception} (unloaded : state.set.isLoaded = false)
    (failed : loader.listed state.world.remote = .error (.raised exception)) :
    FailureIsKept loader call state := by
  obtain ⟨created, _, stopped⟩ := Loader.loadEntries_of_error state.flagged failed
  have raised : call.run loader.loadEntries state = _ := call.run_of_unloaded unloaded
  rw [stopped] at raised
  exact ⟨exception, _, created, raised, rfl, fun next => next.run_of_loaded rfl⟩

theorem not_failureLeavesCache {loader : Loader Item Entry} {call : Call} {state : SetState Entry}
    (unloaded : state.set.isLoaded = false) (kept : FailureIsKept loader call state) :
    ¬ FailureLeavesCache loader call state := by
  obtain ⟨_, final, created, raised, set, _⟩ := kept
  rintro ⟨_, other, otherRaised, same, _⟩
  cases raised.symm.trans otherRaised
  have flags := congrArg CatalogSet.isLoaded (set.symm.trans same)
  exact nomatch flags.trans unloaded

end Loader

/-- No load that fails leaves its set as it was, neither of the schemas of a catalog nor of the
tables of a schema. -/
theorem failedLoad_leaves_nothing (libraries : Libraries) (catalog : Catalog) (call : Call) :
    (∀ (state : SetState SchemaEntry) (exception : Exception), state.set.isLoaded = false →
      (schemaLoader libraries catalog.name catalog.credentials).listed state.world.remote =
        .error (.raised exception) →
      ¬ FailureLeavesCache (schemaLoader libraries catalog.name catalog.credentials) call state) ∧
    ∀ (schema : SchemaEntry) (state : SetState TableEntry) (exception : Exception),
      state.set.isLoaded = false →
      (tableLoader libraries catalog.internalName catalog.credentials schema.name
        schema.internal).listed state.world.remote = .error (.raised exception) →
      ¬ FailureLeavesCache (tableLoader libraries catalog.internalName catalog.credentials
        schema.name schema.internal) call state :=
  ⟨fun _ _ unloaded failed => not_failureLeavesCache unloaded (failureIsKept call unloaded failed),
    fun _ _ _ unloaded failed =>
      not_failureLeavesCache unloaded (failureIsKept call unloaded failed)⟩

/-- A reply with two tables, of which the second has a column of an unknown type. -/
def unknownColumnReply : Json :=
  let table := fun (name type : Text) => Json.obj [("name".toList, .str name),
    ("table_type".toList, .str "MANAGED".toList), ("table_id".toList, .str name),
    ("columns".toList, .arr [.obj [("name".toList, .str "x".toList),
      ("type_text".toList, .str type), ("type_precision".toList, .uint 0),
      ("type_scale".toList, .uint 0), ("position".toList, .uint 0)]])]
  .obj [("tables".toList, .arr [table "a".toList "int".toList, table "b".toList "color".toList])]

def unknownColumnLibraries : Libraries where
  castUInt8 := castPlainNumeral
  addColumn columns column := .ok (columns ++ [column])
  yyjsonRead _ := some unknownColumnReply

theorem failedLoad_leaves_nothing_secondTable :
    ¬ FailureLeavesCache
      (schemaLoader unknownColumnLibraries "uc".toList ⟨[], [], []⟩) .scan
      ⟨⟨fun _ => .failed "timeout".toList, []⟩, .new SchemaEntry⟩ ∧
    ¬ FailureLeavesCache
      (tableLoader unknownColumnLibraries "uc".toList ⟨[], [], []⟩ "s".toList false)
      (.getEntry "b".toList) ⟨⟨fun _ => .body [], []⟩, .new TableEntry⟩ :=
  ⟨(failedLoad_leaves_nothing unknownColumnLibraries
      (attach "uc".toList "uc".toList ⟨[], [], []⟩) .scan).1 _ _ rfl rfl,
    (failedLoad_leaves_nothing unknownColumnLibraries
      (attach "uc".toList "uc".toList ⟨[], [], []⟩) (.getEntry "b".toList)).2
      ⟨"s".toList, false, none, .new TableEntry⟩ _ _ rfl rfl⟩

/-- A schema listing that times out leaves a set that answers, and answers with nothing. -/
theorem failedLoad_timeout :
    ¬ ∀ (libraries : Libraries) (catalog : Catalog) (call : Call) (state : SetState SchemaEntry)
      (exception : Exception), state.set.isLoaded = false →
      (schemaLoader libraries catalog.name catalog.credentials).listed state.world.remote =
        .error (.raised exception) →
      FailureLeavesCache (schemaLoader libraries catalog.name catalog.credentials) call state := by
  intro leaves
  have kept : FailureIsKept (schemaLoader unknownColumnLibraries "uc".toList ⟨[], [], []⟩)
      (.getEntry "s".toList) ⟨⟨fun _ => .failed "timeout".toList, []⟩, .new SchemaEntry⟩ :=
    failureIsKept _ rfl rfl
  exact not_failureLeavesCache rfl kept
    (leaves unknownColumnLibraries (attach "uc".toList "uc".toList ⟨[], [], []⟩)
      (.getEntry "s".toList) _ _ rfl rfl)

end UcCatalog
