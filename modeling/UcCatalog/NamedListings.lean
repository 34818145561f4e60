/-
This file decides on which listings a bad name is reported as one.

A name is looked at in two places. The decoders read it, of a table with a
reader that raises and of a schema with an accessor that does not, and two layers
below `CreateEntry` tests it for emptiness. The decoder of schemas leaves an
absent name empty, and assigns the null pointer it gets for a name that is no
string, so a bad name of a schema is never reported as an `IOException`. The
decoder of tables raises for both, but takes an empty string for a name. What
the second test sees is the C string of a name, which is empty also when the name
begins with a zero.
-/

import UcCatalog.Catalog
import UcCatalog.TableReplies
import UcCatalog.TypeBounds

namespace UcCatalog

open Stateful

/-! ### Names -/

/-- The name is absent, not a string, or the empty string. -/
def BadName (element : Json) : Prop :=
  ¬ ∃ text, objGet element "name".toList = some (.str text) ∧ text ≠ []

/-- The name is a string that does not end before its first character. -/
def HasName (element : Json) : Prop :=
  ∃ text, objGet element "name".toList = some (.str text) ∧ cString text ≠ []

def schemasOf (root : Option Json) : Option Json := objGet root "schemas".toList

/-- What a load of these elements should make of their names. -/
structure ReportsBadNames (elements : List Json) (ending : Outcome Unit) : Prop where
  reported : (∃ element ∈ elements, BadName element) →
    ∃ message, ending = .error (.raised ⟨.ioException, message⟩)
  noNull : ending ≠ .error (.undefined .nullString)
  noEmptyName : ending ≠ .error (.raised emptyName)

theorem HasName.not_badName {element : Json} (named : HasName element) : ¬ BadName element := by
  obtain ⟨text, found, nonempty⟩ := named
  refine fun bad => bad ⟨text, found, fun empty => nonempty ?_⟩
  rw [empty]
  rfl

theorem not_hasName_iff (element : Json) :
    ¬ HasName element ↔
      ∀ text, objGet element "name".toList = some (.str text) → cString text = [] := by
  unfold HasName
  simp only [not_exists, not_and, not_not, ne_eq]

/-- Where no name is bad and the load does not stop at a name, there is nothing to report. -/
theorem reportsBadNames_of_fault {elements : List Json} {ending : Outcome Unit}
    (good : ∀ element ∈ elements, ¬ BadName element)
    (noNull : ending ≠ .error (.undefined .nullString))
    (noEmptyName : ending ≠ .error (.raised emptyName)) : ReportsBadNames elements ending :=
  ⟨fun ⟨element, member, bad⟩ => absurd bad (good element member), noNull, noEmptyName⟩

/-! ### Schemas -/

section Schemas

variable (libraries : Libraries) (credentials : Credentials) (catalog : Text)

theorem parseSchema_of_hasName {element : Json} (named : HasName element) :
    ∃ item, parseSchema catalog element = .ok item ∧ item.schemaName ≠ [] := by
  obtain ⟨text, found, nonempty⟩ := named
  refine ⟨⟨cString text, catalog⟩, ?_, nonempty⟩
  rw [parseSchema, found]
  rfl

/-- Of a schema without a name, the name is a null pointer or the empty string. -/
theorem parseSchema_of_not_hasName {element : Json} (unnamed : ¬ HasName element) :
    parseSchema catalog element = .error (.undefined .nullString) ∨
      parseSchema catalog element = .ok ⟨[], catalog⟩ := by
  unfold parseSchema
  cases found : objGet element "name".toList with
  | none => exact Or.inr rfl
  | some name =>
    cases name with
    | str text =>
      have empty := (not_hasName_iff element).mp unnamed text found
      refine Or.inr ?_
      show Except.ok _ = _
      rw [empty]
    | null | bool | uint | sint | real | arr | obj => exact Or.inl rfl

/-- What a load makes of a schema in the listing. -/
def loadedSchema (element : Json) : Outcome SchemaEntry :=
  parseSchema catalog element >>= (schemaLoader libraries catalog credentials).entryOf

theorem schemaEntryOf_eq (item : APISchema) :
    (schemaLoader libraries catalog credentials).entryOf item =
      if item.schemaName = [] then .error (.raised emptyName)
      else buildSchemaEntry item := rfl

theorem loadedSchema_of_hasName {element : Json} (named : HasName element) :
    ∃ entry, loadedSchema libraries credentials catalog element = .ok entry := by
  obtain ⟨item, parsed, nonempty⟩ := parseSchema_of_hasName catalog named
  obtain ⟨entry, built⟩ : ∃ entry, buildSchemaEntry item = .ok entry := ⟨_, rfl⟩
  refine ⟨entry, (Outcome.bind_eq_ok _ _ _).mpr ⟨item, parsed, ?_⟩⟩
  rw [schemaEntryOf_eq, if_neg nonempty, built]

theorem loadedSchema_of_not_hasName {element : Json} (unnamed : ¬ HasName element) :
    loadedSchema libraries credentials catalog element = .error (.undefined .nullString) ∨
      loadedSchema libraries credentials catalog element = .error (.raised emptyName) := by
  unfold loadedSchema
  rcases parseSchema_of_not_hasName catalog unnamed with null | empty
  · exact Or.inl (by rw [null]; rfl)
  · exact Or.inr (by rw [empty]; rfl)

theorem loadedSchema_fault {element : Json} {fault : Fault}
    (failed : loadedSchema libraries credentials catalog element = .error fault) :
    fault = .undefined .nullString ∨ fault = .raised emptyName := by
  by_cases named : HasName element
  · obtain ⟨entry, loaded⟩ := loadedSchema_of_hasName libraries credentials catalog named
    exact nomatch failed.symm.trans loaded
  · rcases loadedSchema_of_not_hasName libraries credentials catalog named with null | empty
    · exact Or.inl (Except.error.inj (failed.symm.trans null))
    · exact Or.inr (Except.error.inj (failed.symm.trans empty))

/-- The entries of a reply: the decoder goes over all elements before any entry is made. -/
def listedSchemas (elements : List Json) : Outcome (List SchemaEntry) :=
  elements.mapM (parseSchema catalog) >>= fun items =>
    items.mapM (schemaLoader libraries catalog credentials).entryOf

/-- A listing of schemas fails at a null pointer or at an empty name, and at nothing else. -/
theorem listedSchemas_fault {elements : List Json} {fault : Fault}
    (failed : listedSchemas libraries credentials catalog elements = .error fault) :
    fault = .undefined .nullString ∨ fault = .raised emptyName := by
  rcases (mapM_mapM_eq_error _ _ _ _).mp failed with undecoded | ⟨_, stopped⟩
  · obtain ⟨_, element, _, _, _, here⟩ := (mapM_eq_error _ _ _).mp undecoded
    exact loadedSchema_fault libraries credentials catalog
      ((Outcome.bind_eq_error _ _ _).mpr (Or.inl here))
  · obtain ⟨_, element, _, _, _, here⟩ := (mapM_eq_error _ _ _).mp stopped
    exact loadedSchema_fault libraries credentials catalog here

theorem listedSchemas_returns_iff (elements : List Json) :
    (∃ created, listedSchemas libraries credentials catalog elements = .ok created) ↔
      ∀ element ∈ elements, HasName element := by
  constructor
  · rintro ⟨created, listed⟩ element member
    obtain ⟨items, decoded, built⟩ := (Outcome.bind_eq_ok _ _ _).mp listed
    rw [mapM_bind_of_ok decoded] at built
    obtain ⟨entry, loaded⟩ := returns_of_mem built member
    by_contra unnamed
    rcases loadedSchema_of_not_hasName libraries credentials catalog unnamed with null | empty
    · exact nomatch loaded.symm.trans null
    · exact nomatch loaded.symm.trans empty
  · intro named
    obtain ⟨items, decoded⟩ := returns_of_all fun element member => by
      obtain ⟨item, parsed, _⟩ := parseSchema_of_hasName catalog (named element member)
      exact ⟨item, parsed⟩
    obtain ⟨created, loaded⟩ := returns_of_all fun element member =>
      loadedSchema_of_hasName libraries credentials catalog (named element member)
    refine ⟨created, (Outcome.bind_eq_ok _ _ _).mpr ⟨items, decoded, ?_⟩⟩
    rw [mapM_bind_of_ok decoded]
    exact loaded

/-- A load of schemas reports bad names just when there are none, even in the C strings. -/
theorem schemas_reportBadNames_iff {state : SetState SchemaEntry} {body : Text}
    (replied : state.world.remote (getRequestOf (schemasUrl credentials catalog)
      credentials.token) = .body body) :
    ReportsBadNames (arrForeach (schemasOf (libraries.yyjsonRead body)))
        (outcome ((schemaLoader libraries catalog credentials).loadEntries state)) ↔
      ∀ element ∈ arrForeach (schemasOf (libraries.yyjsonRead body)), HasName element := by
  have listed : (schemaLoader libraries catalog credentials).listed state.world.remote =
      listedSchemas libraries credentials catalog
        (arrForeach (schemasOf (libraries.yyjsonRead body))) := by
    rw [Loader.listed, Loader.reply_of_body replied]
    rfl
  have fails := Loader.loadEntries_fails_iff (schemaLoader libraries catalog credentials) state
  rw [listed] at fails
  rw [← listedSchemas_returns_iff libraries credentials catalog]
  constructor
  · intro reports
    cases ended : listedSchemas libraries credentials catalog
        (arrForeach (schemasOf (libraries.yyjsonRead body))) with
    | ok created => exact ⟨created, rfl⟩
    | error fault =>
      have stopped := (fails fault).mpr ended
      rcases listedSchemas_fault libraries credentials catalog ended with rfl | rfl
      · exact absurd stopped reports.noNull
      · exact absurd stopped reports.noEmptyName
  · rintro ⟨created, returned⟩
    have named := (listedSchemas_returns_iff libraries credentials catalog _).mp ⟨created, returned⟩
    have never (fault : Fault) : outcome ((schemaLoader libraries catalog credentials).loadEntries
        state) ≠ .error fault := by
      intro failed
      cases returned.symm.trans ((fails fault).mp failed)
    exact reportsBadNames_of_fault (fun element member => (named element member).not_badName)
      (never _) (never _)

end Schemas

/-! ### Tables -/

/-- The exceptions the libraries raise: none is about the network or an internal error. -/
structure Libraries.RaisesDocumented (libraries : Libraries) : Prop where
  castUInt8 : ∀ text exception, libraries.castUInt8 text = .error exception →
    exception.type ∈ [.conversionException, .invalidInputException]
  addColumn : ∀ columns column exception,
    libraries.addColumn columns column = .error exception → exception.type = .catalogException

/-- An exception that is neither an `IOException` nor that of an empty name. -/
def IsForeign (exception : Exception) : Prop :=
  exception.type ≠ .ioException ∧ exception ≠ emptyName

theorem isForeign_of_type {exception : Exception} (notIoException : exception.type ≠ .ioException)
    (notInternal : exception.type ≠ .internalException) : IsForeign exception :=
  ⟨notIoException, fun same => notInternal (congrArg Exception.type same)⟩

theorem OwnException.isForeign {exception : Exception} (own : OwnException exception) :
    IsForeign exception := by
  rcases own with notImplemented | ⟨prec, scale, raised⟩
  · exact isForeign_of_type (by rw [notImplemented]; decide) (by rw [notImplemented]; decide)
  · unfold LogicalType.ofDecimal at raised
    split at raised
    · exact nomatch raised
    · cases raised
      refine ⟨nofun, fun same => ?_⟩
      have first := congrArg (fun exception => exception.message.head?) same
      exact nomatch first

section Tables

variable {libraries : Libraries} (documented : libraries.RaisesDocumented)

include documented

theorem settledBy_addColumns (done : List ColumnDefinition) (coldefs : List APIColumnDefinition) :
    SettledBy IsForeign (addColumns libraries done coldefs) := by
  have cast : ∀ text exception, libraries.castUInt8 text = .error exception →
      IsForeign exception := by
    intro text exception raised
    have kind := documented.castUInt8 text exception raised
    refine isForeign_of_type (fun io => ?_) fun internal => ?_
    · rw [io] at kind
      exact absurd kind (by decide)
    · rw [internal] at kind
      exact absurd kind (by decide)
  induction coldefs generalizing done with
  | nil => exact .ok done
  | cons coldef coldefs inductionHypothesis =>
    have parsed := settledBy_typeToLogicalType (fun _ => OwnException.isForeign) cast
      coldef.typeText
    refine (parsed.bind fun type => .ok _).bind fun column =>
      (SettledBy.ofExcept fun exception raised => ?_).bind fun columns =>
        inductionHypothesis columns
    have kind := documented.addColumn done column exception raised
    exact isForeign_of_type (by rw [kind]; decide) (by rw [kind]; decide)

omit documented

variable (libraries) (credentials : Credentials) (catalog schemaName : Text)

/-- The columns of a table can be added: their types are accepted, and so are their names. -/
def ColumnsAccepted (element : Json) : Prop :=
  ∃ data columns, parseTable catalog schemaName element = .ok data ∧
    addColumns libraries [] data.columns = .ok columns

/-- The load comes to a table without a name: it has made an entry of every table before it, and
its columns can be added. -/
def ReachesUnnamed (elements : List Json) : Prop :=
  ∃ done element more, elements = done ++ element :: more ∧
    (∀ earlier ∈ done, ColumnsAccepted libraries catalog schemaName earlier ∧ HasName earlier) ∧
    ColumnsAccepted libraries catalog schemaName element ∧ ¬ HasName element

variable (schemaInternal : Bool)

/-- What a load makes of a table in the listing. -/
def loadedTable (element : Json) : Outcome TableEntry :=
  Outcome.ofExcept (parseTable catalog schemaName element) >>=
    (tableLoader libraries catalog credentials schemaName schemaInternal).entryOf

variable {catalog schemaName} {element : Json} {data : APITable}

omit libraries credentials schemaInternal in
theorem hasName_iff_of_parsed (parsed : parseTable catalog schemaName element = .ok data) :
    HasName element ↔ data.name ≠ [] := by
  obtain ⟨text, present, same⟩ := tryGetStr_eq_ok (parsedAs_of_parseTable parsed).name
  rw [same]
  constructor
  · rintro ⟨other, found, nonempty⟩
    cases present.symm.trans found
    exact nonempty
  · exact fun nonempty => ⟨text, present, nonempty⟩

theorem loadedTable_of_parsed (parsed : parseTable catalog schemaName element = .ok data) :
    loadedTable libraries credentials catalog schemaName schemaInternal element =
      addColumns libraries [] data.columns >>= fun columns =>
        if data.name = [] then .error (.raised emptyName)
        else .ok (adoptInSchema schemaInternal ⟨data.name, columns, some data, false⟩) := by
  rw [loadedTable, parsed]
  show (tableLoader libraries catalog credentials schemaName schemaInternal).entryOf data = _
  rw [Loader.entryOf]
  show (buildTableEntry libraries data >>= fun entry =>
    if (adoptInSchema schemaInternal entry).name = [] then _ else _) = _
  rw [buildTableEntry]
  cases addColumns libraries [] data.columns with
  | error fault => rfl
  | ok columns =>
    show (if (adoptInSchema schemaInternal ⟨data.name, columns, some data, false⟩).name = [] then _
      else _) = _
    rw [adoptInSchema_name]
    rfl

theorem loadedTable_returns (accepted : ColumnsAccepted libraries catalog schemaName element)
    (named : HasName element) :
    ∃ entry, loadedTable libraries credentials catalog schemaName schemaInternal element =
      .ok entry := by
  obtain ⟨data, columns, parsed, added⟩ := accepted
  rw [loadedTable_of_parsed libraries credentials schemaInternal parsed, added]
  exact ⟨_, if_neg ((hasName_iff_of_parsed parsed).mp named)⟩

theorem loadedTable_emptyName (accepted : ColumnsAccepted libraries catalog schemaName element)
    (unnamed : ¬ HasName element) :
    loadedTable libraries credentials catalog schemaName schemaInternal element =
      .error (.raised emptyName) := by
  obtain ⟨data, columns, parsed, added⟩ := accepted
  rw [loadedTable_of_parsed libraries credentials schemaInternal parsed, added]
  exact if_pos (not_not.mp fun nonempty => unnamed ((hasName_iff_of_parsed parsed).mpr nonempty))

theorem accepted_of_loadedTable {entry : TableEntry}
    (loaded : loadedTable libraries credentials catalog schemaName schemaInternal element =
      .ok entry) :
    ColumnsAccepted libraries catalog schemaName element ∧ HasName element := by
  obtain ⟨data, read, _⟩ := (Outcome.bind_eq_ok _ _ _).mp loaded
  have parsed := (Outcome.ofExcept_eq_ok _ _).mp read
  rw [loadedTable_of_parsed libraries credentials schemaInternal parsed] at loaded
  obtain ⟨columns, added, made⟩ := (Outcome.bind_eq_ok _ _ _).mp loaded
  split at made
  · exact nomatch made
  · next nonempty =>
    exact ⟨⟨data, columns, parsed, added⟩, (hasName_iff_of_parsed parsed).mpr nonempty⟩

include documented in
/-- A table that is parsed fails to load by its columns, or by its empty name. -/
theorem loadedTable_fault {fault : Fault}
    (parsed : parseTable catalog schemaName element = .ok data)
    (failed : loadedTable libraries credentials catalog schemaName schemaInternal element =
      .error fault) :
    (∃ exception, fault = .raised exception ∧ IsForeign exception) ∨
      fault = .undefined .readPastEnd ∨
      fault = .raised emptyName ∧ ColumnsAccepted libraries catalog schemaName element ∧
        ¬ HasName element := by
  rw [loadedTable_of_parsed libraries credentials schemaInternal parsed] at failed
  rcases (Outcome.bind_eq_error _ _ _).mp failed with early | ⟨columns, added, late⟩
  · rcases settledBy_addColumns documented [] data.columns fault early with foreign | past
    · exact Or.inl foreign
    · exact Or.inr (Or.inl past)
  · split at late
    · next empty =>
      refine Or.inr (Or.inr ⟨(Except.error.inj late).symm, ⟨data, columns, parsed, added⟩, ?_⟩)
      exact fun named => (hasName_iff_of_parsed parsed).mp named empty
    · exact nomatch late

/-- The listing of a reply that decodes is what the load makes of its tables, one by one. -/
theorem listed_eq_loadedTables {remote : Request → CurlResult} {body : Text}
    (replied : remote (getRequestOf (tablesUrl credentials catalog schemaName)
      credentials.token) = .body body)
    (present : FieldsPresent (libraries.yyjsonRead body)) :
    (tableLoader libraries catalog credentials schemaName schemaInternal).listed remote =
      (arrForeach (tablesOf (libraries.yyjsonRead body))).mapM
        (loadedTable libraries credentials catalog schemaName schemaInternal) := by
  obtain ⟨items, decoded⟩ :=
    (decodeTables_returns_iff libraries catalog schemaName body).mpr present
  have read : (arrForeach (tablesOf (libraries.yyjsonRead body))).mapM (fun element =>
      Outcome.ofExcept (parseTable catalog schemaName element)) = .ok items := by
    rw [← ofExcept_mapM]
    exact (Outcome.ofExcept_eq_ok _ _).mpr decoded
  have replay : (tableLoader libraries catalog credentials schemaName schemaInternal).decode body =
      .ok items := (Outcome.ofExcept_eq_ok _ _).mpr decoded
  rw [Loader.listed, Loader.reply_of_body replied, replay]
  exact mapM_bind_of_ok read _

/-- A load whose reply decodes fails as its first table does that is not loaded. -/
theorem tables_fail_iff {state : SetState TableEntry} {body : Text}
    (replied : state.world.remote (getRequestOf (tablesUrl credentials catalog schemaName)
      credentials.token) = .body body)
    (present : FieldsPresent (libraries.yyjsonRead body)) (fault : Fault) :
    outcome ((tableLoader libraries catalog credentials schemaName
        schemaInternal).loadEntries state) = .error fault ↔
      ∃ done element more, arrForeach (tablesOf (libraries.yyjsonRead body)) =
          done ++ element :: more ∧
        (∀ earlier ∈ done, ∃ entry, loadedTable libraries credentials catalog schemaName
          schemaInternal earlier = .ok entry) ∧
        loadedTable libraries credentials catalog schemaName schemaInternal element =
          .error fault := by
  rw [Loader.loadEntries_fails_iff,
    listed_eq_loadedTables libraries credentials schemaInternal replied present, mapM_eq_error]

include documented in
/-- A load whose reply decodes stops at the columns of a table, or at its empty name. -/
theorem tables_stop {state : SetState TableEntry} {body : Text}
    (replied : state.world.remote (getRequestOf (tablesUrl credentials catalog schemaName)
      credentials.token) = .body body)
    (present : FieldsPresent (libraries.yyjsonRead body)) {fault : Fault}
    (failed : outcome ((tableLoader libraries catalog credentials schemaName
      schemaInternal).loadEntries state) = .error fault) :
    (∃ exception, fault = .raised exception ∧ IsForeign exception) ∨
      fault = .undefined .readPastEnd ∨
      fault = .raised emptyName ∧ ReachesUnnamed libraries catalog schemaName
        (arrForeach (tablesOf (libraries.yyjsonRead body))) := by
  obtain ⟨done, element, more, parts, before, here⟩ :=
    (tables_fail_iff libraries credentials schemaInternal replied present fault).mp failed
  have member : element ∈ arrForeach (tablesOf (libraries.yyjsonRead body)) := by
    rw [parts]
    exact List.mem_append_right _ List.mem_cons_self
  obtain ⟨data, parsed⟩ :=
    (parseTable_returns_iff catalog schemaName element).mpr (present element member)
  rcases loadedTable_fault libraries documented credentials schemaInternal parsed here with
    foreign | past | ⟨empty, accepted, unnamed⟩
  · exact Or.inl foreign
  · exact Or.inr (Or.inl past)
  · refine Or.inr (Or.inr ⟨empty, done, element, more, parts, fun earlier inDone => ?_,
      accepted, unnamed⟩)
    obtain ⟨entry, loaded⟩ := before earlier inDone
    exact accepted_of_loadedTable libraries credentials schemaInternal loaded

/-- A load whose reply does not decode raises an `IOException`, whatever the names are. -/
theorem tables_report_of_undecoded {state : SetState TableEntry} {body : Text}
    (replied : state.world.remote (getRequestOf (tablesUrl credentials catalog schemaName)
      credentials.token) = .body body)
    (absent : ¬ FieldsPresent (libraries.yyjsonRead body)) (elements : List Json) :
    ReportsBadNames elements (outcome ((tableLoader libraries catalog credentials schemaName
      schemaInternal).loadEntries state)) := by
  cases decoded : decodeTables libraries catalog schemaName body with
  | ok items => exact absurd ((decodeTables_returns_iff _ _ _ _).mp ⟨items, decoded⟩) absent
  | error exception =>
    have kind := decodeTables_raisesIoException libraries catalog schemaName body exception decoded
    have failed : outcome ((tableLoader libraries catalog credentials schemaName
        schemaInternal).loadEntries state) = .error (.raised exception) := by
      rw [Loader.loadEntries_fails_iff, Loader.listed, Loader.reply_of_body replied]
      show (Outcome.ofExcept (decodeTables libraries catalog schemaName body) >>= _) = _
      rw [decoded]
      rfl
    rw [failed]
    refine ⟨fun _ => ⟨exception.message, by rw [← kind]⟩, fun same => ?_, fun same => ?_⟩
    · cases same
    · cases same
      cases kind

include documented in
/-- A load of tables reports bad names where the decoder raises, and else where there are none and
it comes to no name whose C string is empty. -/
theorem tables_reportBadNames_iff {state : SetState TableEntry} {body : Text}
    (replied : state.world.remote (getRequestOf (tablesUrl credentials catalog schemaName)
      credentials.token) = .body body) :
    ReportsBadNames (arrForeach (tablesOf (libraries.yyjsonRead body)))
        (outcome ((tableLoader libraries catalog credentials schemaName
          schemaInternal).loadEntries state)) ↔
      ¬ FieldsPresent (libraries.yyjsonRead body) ∨
        (∀ element ∈ arrForeach (tablesOf (libraries.yyjsonRead body)), ¬ BadName element) ∧
          ¬ ReachesUnnamed libraries catalog schemaName
            (arrForeach (tablesOf (libraries.yyjsonRead body))) := by
  by_cases present : FieldsPresent (libraries.yyjsonRead body)
  · have stops {fault : Fault} := @tables_stop libraries documented credentials catalog schemaName
      schemaInternal state body replied present fault
    rw [or_iff_right (not_not.mpr present)]
    constructor
    · intro reports
      refine ⟨fun element member bad => ?_, ?_⟩
      · obtain ⟨message, failed⟩ := reports.reported ⟨element, member, bad⟩
        rcases stops failed with ⟨exception, same, foreign⟩ | past | ⟨empty, _⟩
        · cases same
          exact foreign.1 rfl
        · exact nomatch past
        · exact nomatch empty
      · rintro ⟨done, element, more, parts, before, accepted, unnamed⟩
        refine reports.noEmptyName ?_
        refine (tables_fail_iff libraries credentials schemaInternal replied present _).mpr
          ⟨done, element, more, parts, fun earlier inDone => ?_, ?_⟩
        · exact loadedTable_returns libraries credentials schemaInternal (before earlier inDone).1
            (before earlier inDone).2
        · exact loadedTable_emptyName libraries credentials schemaInternal accepted unnamed
    · rintro ⟨good, reachesNone⟩
      refine reportsBadNames_of_fault good (fun failed => ?_) fun failed => ?_
      · rcases stops failed with ⟨_, same, _⟩ | past | ⟨empty, _⟩
        · exact nomatch same
        · exact nomatch past
        · exact nomatch empty
      · rcases stops failed with ⟨_, same, foreign⟩ | past | ⟨_, reaches⟩
        · cases same
          exact foreign.2 rfl
        · exact nomatch past
        · exact reachesNone reaches
  · exact iff_of_true
      (tables_report_of_undecoded libraries credentials schemaInternal replied present _)
      (Or.inl present)

end Tables

/-! ### Both listings -/

section Listings

variable {libraries : Libraries} (credentials : Credentials)

/-- A load of schemas reports bad names exactly when every schema of the reply has a name, and a
load of tables exactly when its reply is not decoded, or has no bad name and the load comes to
none whose C string is empty. -/
theorem listings_reportBadNames_iff (documented : libraries.RaisesDocumented) :
    (∀ (catalog body : Text) (state : SetState SchemaEntry),
      state.world.remote (getRequestOf (schemasUrl credentials catalog) credentials.token) =
        .body body →
      (ReportsBadNames (arrForeach (schemasOf (libraries.yyjsonRead body)))
          (outcome ((schemaLoader libraries catalog credentials).loadEntries state)) ↔
        ∀ element ∈ arrForeach (schemasOf (libraries.yyjsonRead body)), HasName element)) ∧
    ∀ (catalog schemaName : Text) (schemaInternal : Bool) (body : Text)
      (state : SetState TableEntry),
      state.world.remote (getRequestOf (tablesUrl credentials catalog schemaName)
        credentials.token) = .body body →
      (ReportsBadNames (arrForeach (tablesOf (libraries.yyjsonRead body)))
          (outcome ((tableLoader libraries catalog credentials schemaName
            schemaInternal).loadEntries state)) ↔
        ¬ FieldsPresent (libraries.yyjsonRead body) ∨
          (∀ element ∈ arrForeach (tablesOf (libraries.yyjsonRead body)), ¬ BadName element) ∧
            ¬ ReachesUnnamed libraries catalog schemaName
              (arrForeach (tablesOf (libraries.yyjsonRead body)))) :=
  ⟨fun catalog _ _ replied => schemas_reportBadNames_iff libraries credentials catalog replied,
    fun _ _ schemaInternal _ _ replied =>
      tables_reportBadNames_iff libraries documented credentials schemaInternal replied⟩

end Listings

def namedSchemaBody : Text := "\x7b\"schemas\":[\x7b\"name\":\"s\"\x7d]\x7d".toList

def unnamedSchemaBody : Text := "\x7b\"schemas\":[\x7b\x7d]\x7d".toList

def unnamedTableBody : Text := "\x7b\"tables\":[\x7b\x7d]\x7d".toList

def unnamedLibraries : Libraries where
  castUInt8 := castPlainNumeral
  addColumn columns column := .ok (columns ++ [column])
  yyjsonRead body :=
    if body = namedSchemaBody then
      some (.obj [("schemas".toList, .arr [.obj [("name".toList, .str "s".toList)]])])
    else if body = unnamedSchemaBody then some (.obj [("schemas".toList, .arr [.obj []])])
    else if body = unnamedTableBody then some (.obj [("tables".toList, .arr [.obj []])])
    else none

theorem unnamedLibraries_documented : unnamedLibraries.RaisesDocumented where
  castUInt8 := by
    intro text exception raised
    have cast : castPlainNumeral text = .error exception := raised
    unfold castPlainNumeral at cast
    split at cast
    · exact nomatch cast
    · cases cast
      exact .tail _ (.head _)
  addColumn := nofun

theorem listings_reportBadNames_iff_named :
    ReportsBadNames [.obj [("name".toList, .str "s".toList)]]
        (outcome ((schemaLoader unnamedLibraries "uc".toList ⟨[], [], []⟩).loadEntries
          ⟨⟨fun _ => .body namedSchemaBody, []⟩, .new SchemaEntry⟩)) ∧
      ReportsBadNames [.obj []]
        (outcome ((tableLoader unnamedLibraries "uc".toList ⟨[], [], []⟩ "s".toList
          false).loadEntries ⟨⟨fun _ => .body unnamedTableBody, []⟩, .new TableEntry⟩)) := by
  have both := listings_reportBadNames_iff ⟨[], [], []⟩ unnamedLibraries_documented
  refine ⟨(both.1 "uc".toList namedSchemaBody ⟨⟨_, []⟩, _⟩ rfl).mpr fun element member => ?_,
    (both.2 "uc".toList "s".toList false unnamedTableBody ⟨⟨_, []⟩, _⟩ rfl).mpr
      (Or.inl fun present => ?_)⟩
  · cases List.mem_singleton.mp member
    exact ⟨"s".toList, rfl, by decide⟩
  · obtain ⟨text, found⟩ := (present (.obj []) (.head _)).1.name
    exact nomatch found

/-- A schema without a name is not reported as such. -/
theorem listings_reportBadNames_unnamed :
    ¬ ∀ (libraries : Libraries), libraries.RaisesDocumented →
      ∀ (credentials : Credentials) (catalog body : Text) (state : SetState SchemaEntry),
        state.world.remote (getRequestOf (schemasUrl credentials catalog) credentials.token) =
          .body body →
        ReportsBadNames (arrForeach (schemasOf (libraries.yyjsonRead body)))
          (outcome ((schemaLoader libraries catalog credentials).loadEntries state)) := by
  intro always
  have reports := always unnamedLibraries unnamedLibraries_documented ⟨[], [], []⟩ "uc".toList
    unnamedSchemaBody ⟨⟨fun _ => .body unnamedSchemaBody, []⟩, .new SchemaEntry⟩ rfl
  exact reports.noEmptyName rfl

end UcCatalog
