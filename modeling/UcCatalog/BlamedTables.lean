/-
This file says what stops a load of the tables of a schema when the reply decodes.
The load takes the tables in the order of the reply and the columns of each in
order, and stops at the first thing that is wrong: the text of a column's type, a
column that the list refuses, or a table without a name behind its columns. What it
raises is about that, and the tables before are those the schema has from then on.
-/

import UcCatalog.FailedLoad
import UcCatalog.LoadAttempts
import UcCatalog.TypeRejections

namespace UcCatalog

open Stateful

/-! ### The first item that no entry is made of -/

section Attempts

variable {Entry Item : Type}

/-- A loop that stops has made an entry of every item before the one it stops at. -/
theorem attemptEach_eq_stopped (entryOf : Item → Outcome Entry) (items : List Item)
    (created : List Entry) (fault : Fault) :
    attemptEach entryOf items = ⟨created, some fault⟩ ↔
      ∃ done item more, items = done ++ item :: more ∧ done.mapM entryOf = .ok created ∧
        entryOf item = .error fault := by
  induction items generalizing created with
  | nil =>
    refine ⟨fun stopped => ?_, ?_⟩
    · cases congrArg Attempt.fault stopped
    · rintro ⟨done, item, more, same, _⟩
      exact absurd same.symm (List.append_ne_nil_of_right_ne_nil _ (List.cons_ne_nil _ _))
  | cons head items inductionHypothesis =>
    rw [attemptEach]
    cases first : entryOf head with
    | error stop =>
      refine ⟨?_, ?_⟩
      · rintro ⟨⟩
        exact ⟨[], head, items, rfl, rfl, first⟩
      · rintro ⟨done, item, more, same, built, failed⟩
        cases done with
        | nil =>
          cases same
          cases built
          cases first.symm.trans failed
          rfl
        | cons other done =>
          obtain ⟨rfl, _⟩ := List.cons.inj same
          obtain ⟨_, returned⟩ := returns_of_mem built List.mem_cons_self
          cases first.symm.trans returned
    | ok entry =>
      refine ⟨?_, ?_⟩
      · intro stopped
        cases rest : attemptEach entryOf items with
        | mk others ending =>
          have whole : (⟨entry :: others, ending⟩ : Attempt Entry) = ⟨created, some fault⟩ := by
            rw [← stopped]
            exact congrArg (Attempt.following entry) rest.symm
          cases whole
          obtain ⟨done, item, more, rfl, built, failed⟩ := (inductionHypothesis others).mp rest
          refine ⟨head :: done, item, more, rfl, ?_, failed⟩
          rw [List.mapM_cons, first, built]
          rfl
      · rintro ⟨done, item, more, same, built, failed⟩
        cases done with
        | nil =>
          cases same
          cases first.symm.trans failed
        | cons other done =>
          obtain ⟨rfl, rfl⟩ := List.cons.inj same
          rw [List.mapM_cons] at built
          obtain ⟨made, returned, onward⟩ := (Outcome.bind_eq_ok _ _ _).mp built
          obtain ⟨others, builtRest, whole⟩ := (Outcome.bind_eq_ok _ _ _).mp onward
          cases first.symm.trans returned
          cases whole
          have rest := (inductionHypothesis others).mpr ⟨done, item, more, rfl, builtRest, failed⟩
          exact congrArg (Attempt.following entry) rest

variable [CatalogEntry Entry] {loader : Loader Item Entry}

/-- A call whose load stops leaves what the load has created, and no later call loads. -/
theorem call_stops_iff {state : SetState Entry} {items : List Item}
    (unloaded : state.set.isLoaded = false)
    (replied : loader.reply state.world.remote = .ok items) (call : Call) (fault : Fault)
    (final : SetState Entry) :
    call.run loader.loadEntries state = .error fault final ↔
      ∃ done item more created, items = done ++ item :: more ∧
        done.mapM loader.entryOf = .ok created ∧ loader.entryOf item = .error fault ∧
        final = ⟨state.world.logged loader.request,
          ⟨insertEntries state.set.entries created, true⟩⟩ := by
  have attempted :
      loader.attempt state.flagged.world.remote = attemptEach loader.entryOf items := by
    rw [Loader.attempt, show state.flagged.world = state.world from rfl, replied]
  have run := @Call.run_of_unloaded _ loader.loadEntries state call unloaded
  rw [loader.loadEntries_eq state.flagged, attempted] at run
  cases ends : attemptEach loader.entryOf items with
  | mk others ending =>
    rw [ends] at run
    cases ending with
    | none =>
      rw [run]
      refine ⟨?_, ?_⟩
      · rintro ⟨⟩
      · rintro ⟨done, item, more, created, same, built, failed, _⟩
        have stopped := (attemptEach_eq_stopped loader.entryOf items created fault).mpr
          ⟨done, item, more, same, built, failed⟩
        cases ends.symm.trans stopped
    | some stop =>
      rw [run]
      refine ⟨?_, ?_⟩
      · rintro ⟨⟩
        obtain ⟨done, item, more, same, built, failed⟩ :=
          (attemptEach_eq_stopped loader.entryOf items others fault).mp ends
        exact ⟨done, item, more, others, same, built, failed, rfl⟩
      · rintro ⟨done, item, more, created, same, built, failed, rfl⟩
        have stopped := (attemptEach_eq_stopped loader.entryOf items created fault).mpr
          ⟨done, item, more, same, built, failed⟩
        cases ends.symm.trans stopped
        rfl

end Attempts

/-! ### What is wrong with a table -/

/-- Why no entry is made of a table, and what comes of it. The columns before the one to blame are
added. -/
inductive Blame (libraries : Libraries) (table : APITable) : Fault → Prop
  | rejected (done more : List APIColumnDefinition) (coldef : APIColumnDefinition)
      (columns : List ColumnDefinition) (exception : Exception)
      (place : table.columns = done ++ coldef :: more)
      (added : addColumns libraries [] done = .ok columns)
      (rejects : Rejects libraries.castUInt8 coldef.typeText exception) :
      Blame libraries table (.raised exception)
  | overrun (done more : List APIColumnDefinition) (coldef : APIColumnDefinition)
      (columns : List ColumnDefinition) (place : table.columns = done ++ coldef :: more)
      (added : addColumns libraries [] done = .ok columns)
      (overruns : Overruns libraries.castUInt8 coldef.typeText) :
      Blame libraries table (.undefined .readPastEnd)
  | refused (done more : List APIColumnDefinition) (coldef : APIColumnDefinition)
      (columns : List ColumnDefinition) (type : LogicalType) (ignored : Text)
      (exception : Exception) (place : table.columns = done ++ coldef :: more)
      (added : addColumns libraries [] done = .ok columns)
      (read : Reads libraries.castUInt8 coldef.typeText type ignored)
      (refuses : libraries.addColumn columns ⟨coldef.name, type⟩ = .error exception) :
      Blame libraries table (.raised exception)
  | unnamed (columns : List ColumnDefinition)
      (added : addColumns libraries [] table.columns = .ok columns) (empty : table.name = []) :
      Blame libraries table (.raised emptyName)

section Tables

variable {libraries : Libraries}

/-- One column in the loop. -/
def addColumnOf (libraries : Libraries) (columns : List ColumnDefinition)
    (coldef : APIColumnDefinition) : Outcome (List ColumnDefinition) :=
  createColumnDefinition libraries coldef >>= fun column =>
    Outcome.ofExcept (libraries.addColumn columns column)

theorem addColumns_cons (columns : List ColumnDefinition) (coldef : APIColumnDefinition)
    (coldefs : List APIColumnDefinition) :
    addColumns libraries columns (coldef :: coldefs) =
      addColumnOf libraries columns coldef >>= fun columns =>
        addColumns libraries columns coldefs := by
  rw [addColumns, addColumnOf]
  cases createColumnDefinition libraries coldef <;> rfl

/-- The loop over the columns stops at the first one that is not added. -/
theorem addColumns_eq_error (start : List ColumnDefinition) (coldefs : List APIColumnDefinition)
    (fault : Fault) :
    addColumns libraries start coldefs = .error fault ↔
      ∃ done coldef more columns, coldefs = done ++ coldef :: more ∧
        addColumns libraries start done = .ok columns ∧
        addColumnOf libraries columns coldef = .error fault := by
  induction coldefs generalizing start with
  | nil =>
    refine ⟨fun failed => ?_, ?_⟩
    · cases failed
    · rintro ⟨done, coldef, more, columns, same, _⟩
      exact absurd same.symm (List.append_ne_nil_of_right_ne_nil _ (List.cons_ne_nil _ _))
  | cons head coldefs inductionHypothesis =>
    rw [addColumns_cons, Outcome.bind_eq_error]
    refine ⟨?_, ?_⟩
    · rintro (failed | ⟨next, added, failed⟩)
      · exact ⟨[], head, coldefs, start, rfl, rfl, failed⟩
      · obtain ⟨done, coldef, more, columns, rfl, addedRest, stopped⟩ :=
          (inductionHypothesis next).mp failed
        refine ⟨head :: done, coldef, more, columns, rfl, ?_, stopped⟩
        rw [addColumns_cons, added]
        exact addedRest
    · rintro ⟨done, coldef, more, columns, same, added, stopped⟩
      cases done with
      | nil =>
        cases same
        cases added
        exact Or.inl stopped
      | cons other done =>
        obtain ⟨rfl, rfl⟩ := List.cons.inj same
        rw [addColumns_cons] at added
        obtain ⟨next, addedFirst, addedRest⟩ := (Outcome.bind_eq_ok _ _ _).mp added
        exact Or.inr ⟨next, addedFirst, (inductionHypothesis next).mpr
          ⟨done, coldef, more, columns, rfl, addedRest, stopped⟩⟩

variable (numbersOnly : CastsNumbersOnly libraries.castUInt8)

include numbersOnly

/-- A column is not added by its type, or because the list refuses it. -/
theorem addColumnOf_eq_error (columns : List ColumnDefinition) (coldef : APIColumnDefinition)
    (fault : Fault) :
    addColumnOf libraries columns coldef = .error fault ↔
      (∃ exception, fault = .raised exception ∧
        Rejects libraries.castUInt8 coldef.typeText exception) ∨
      (fault = .undefined .readPastEnd ∧ Overruns libraries.castUInt8 coldef.typeText) ∨
      ∃ type ignored exception, fault = .raised exception ∧
        Reads libraries.castUInt8 coldef.typeText type ignored ∧
        libraries.addColumn columns ⟨coldef.name, type⟩ = .error exception := by
  rw [addColumnOf, createColumnDefinition]
  cases ends : typeToLogicalType libraries.castUInt8 coldef.typeText with
  | error other =>
    have parsed := @settled_typeToLogicalType libraries.castUInt8 coldef.typeText
    refine ⟨?_, ?_⟩
    · rintro ⟨⟩
      rcases parsed.error ends with ⟨exception, rfl⟩ | rfl
      · exact Or.inl ⟨exception, rfl, rejects_of_raised numbersOnly _ exception ends⟩
      · exact Or.inr (Or.inl ⟨rfl, overruns_of_undefined numbersOnly _ ends⟩)
    · rintro (⟨exception, rfl, rejects⟩ | ⟨rfl, overruns⟩ | ⟨type, _, _, _, read, _⟩)
      · cases ends.symm.trans rejects.raised
        rfl
      · cases ends.symm.trans overruns.undefined
        rfl
      · cases ends.symm.trans read.returned
  | ok type =>
    obtain ⟨ignored, read⟩ := exists_reads numbersOnly _ type ends
    show Outcome.ofExcept (libraries.addColumn columns ⟨coldef.name, type⟩) = _ ↔ _
    refine ⟨fun refused => ?_, ?_⟩
    · cases refuses : libraries.addColumn columns ⟨coldef.name, type⟩ with
      | ok added =>
        rw [refuses] at refused
        cases refused
      | error exception =>
        rw [refuses] at refused
        cases refused
        exact Or.inr (Or.inr ⟨type, ignored, exception, rfl, read, refuses⟩)
    · rintro (⟨exception, rfl, rejects⟩ | ⟨rfl, overruns⟩ | ⟨other, _, _, rfl, read, refuses⟩)
      · cases ends.symm.trans rejects.raised
      · cases ends.symm.trans overruns.undefined
      · cases ends.symm.trans read.returned
        rw [refuses]
        rfl

/-- No entry is made of a table exactly when there is something to blame. -/
theorem entryOf_eq_error (dbPath : Text) (credentials : Credentials) (schemaName : Text)
    (schemaInternal : Bool) (table : APITable) (fault : Fault) :
    (tableLoader libraries dbPath credentials schemaName schemaInternal).entryOf table =
      .error fault ↔ Blame libraries table fault := by
  have made : (tableLoader libraries dbPath credentials schemaName schemaInternal).entryOf table =
      addColumns libraries [] table.columns >>= fun columns =>
        if table.name = [] then .error (.raised emptyName)
        else .ok (adoptInSchema schemaInternal ⟨table.name, columns, some table, false⟩) := by
    rw [Loader.entryOf]
    show (buildTableEntry libraries table >>= fun entry =>
      if (adoptInSchema schemaInternal entry).name = [] then _ else _) = _
    rw [buildTableEntry]
    cases addColumns libraries [] table.columns with
    | error fault => rfl
    | ok columns =>
      show (if (adoptInSchema schemaInternal ⟨table.name, columns, some table, false⟩).name = []
        then _ else _) = _
      rw [adoptInSchema_name]
      rfl
  rw [made, Outcome.bind_eq_error, addColumns_eq_error]
  refine ⟨?_, ?_⟩
  · rintro (⟨done, coldef, more, columns, place, added, stopped⟩ | ⟨columns, added, late⟩)
    · rcases (addColumnOf_eq_error numbersOnly columns coldef fault).mp stopped with
        ⟨exception, rfl, rejects⟩ | ⟨rfl, overruns⟩ |
          ⟨type, ignored, exception, rfl, read, refuses⟩
      · exact .rejected done more coldef columns exception place added rejects
      · exact .overrun done more coldef columns place added overruns
      · exact .refused done more coldef columns type ignored exception place added read refuses
    · split_ifs at late with empty
      cases late
      exact .unnamed columns added empty
  · intro blame
    cases blame with
    | rejected done more coldef columns exception place added rejects =>
      exact Or.inl ⟨done, coldef, more, columns, place, added,
        (addColumnOf_eq_error numbersOnly columns coldef _).mpr (Or.inl ⟨exception, rfl, rejects⟩)⟩
    | overrun done more coldef columns place added overruns =>
      exact Or.inl ⟨done, coldef, more, columns, place, added,
        (addColumnOf_eq_error numbersOnly columns coldef _).mpr (Or.inr (Or.inl ⟨rfl, overruns⟩))⟩
    | refused done more coldef columns type ignored exception place added read refuses =>
      exact Or.inl ⟨done, coldef, more, columns, place, added,
        (addColumnOf_eq_error numbersOnly columns coldef _).mpr
          (Or.inr (Or.inr ⟨type, ignored, exception, rfl, read, refuses⟩))⟩
    | unnamed columns added empty => exact Or.inr ⟨columns, added, if_pos empty⟩

variable (dbPath : Text) (credentials : Credentials) (schema : SchemaEntry)
  (state : SetState TableEntry) (tables : List APITable)

/-- A call that has to load fails exactly at the first table to blame, with what comes of it, and
the schema has from then on the tables before that one. -/
theorem failedListing_blames (unloaded : state.set.isLoaded = false)
    (replied : (tableLoader libraries dbPath credentials schema.name schema.internal).reply
      state.world.remote = .ok tables) (call : Call) (fault : Fault) (final : SetState TableEntry) :
    let loader := tableLoader libraries dbPath credentials schema.name schema.internal
    (call.run loader.loadEntries state = .error fault final ↔
      ∃ done table more created, tables = done ++ table :: more ∧
        done.mapM loader.entryOf = .ok created ∧ Blame libraries table fault ∧
        final = ⟨state.world.logged loader.request,
          ⟨insertEntries state.set.entries created, true⟩⟩) ∧
    (call.run loader.loadEntries state = .error fault final →
      ∀ next : Call, next.run loader.loadEntries final =
        .ok (next.answer final.set.entries) final) := by
  intro loader
  have stops := call_stops_iff unloaded replied call fault final
  refine ⟨?_, fun failed next => ?_⟩
  · rw [stops]
    simp only [entryOf_eq_error numbersOnly]
    rfl
  · obtain ⟨done, table, more, created, _, _, _, rfl⟩ := stops.mp failed
    exact next.run_of_loaded rfl

end Tables

/-- Of two tables the second one is to blame for the text of a type, and the schema goes on with
the first. -/
theorem failedListing_blames_secondTable :
    let loader := tableLoader unknownColumnLibraries "uc".toList ⟨[], [], []⟩ "s".toList false
    ∃ table final, Blame unknownColumnLibraries table
        (.raised (unknownTypeException "color".toList)) ∧
      ∀ next : Call, next.run loader.loadEntries final =
        .ok (next.answer final.set.entries) final := by
  intro loader
  obtain ⟨stops, goesOn⟩ := @failedListing_blames unknownColumnLibraries
    castPlainNumeral_numbersOnly "uc".toList ⟨[], [], []⟩ ⟨"s".toList, false, none, .new TableEntry⟩
    ⟨⟨fun _ => .body [], []⟩, .new TableEntry⟩ _ rfl rfl .scan
    (.raised (unknownTypeException "color".toList)) _
  obtain ⟨_, table, _, _, _, _, blame, _⟩ := stops.mp rfl
  exact ⟨table, _, blame, goesOn rfl⟩

end UcCatalog
