/-
This file is the order of the columns of a table. A column has a position in the
reply, which is decoded and kept with the data of the table, and which nothing
reads: the loader adds the columns in the order of the reply. Of two replies that
list the columns of a table differently, each gives its own order.

The columns of an entry and the definitions it is built from correspond one to
one, and definitions with different names are told apart by their columns, so the
order of the definitions can be read off an entry.
-/

import UcCatalog.NamedListings
import UcCatalog.RemoteServer

namespace UcCatalog

open Stateful

/-! ### Two replies -/

/-- The tables differ at most in the order of their columns. -/
structure PermutesColumns (table permuted : Json) : Prop where
  fields : ∀ field ≠ "columns".toList, objGet table field = objGet permuted field
  columns : (arrForeach (columnsOf table)).Perm (arrForeach (columnsOf permuted))

/-- A table that can be loaded, with the definitions of its columns. -/
structure LoadableTable (libraries : Libraries) (table : Json)
    (coldefs : List APIColumnDefinition) : Prop where
  fields : TableFields table
  named : HasName table
  columns : (arrForeach (columnsOf table)).mapM parseColumnDefinition = .ok coldefs
  accepted : ∀ coldef ∈ coldefs,
    ∃ type, typeToLogicalType libraries.castUInt8 coldef.typeText = .ok type
  names : coldefs.Pairwise fun one other => lower one.name ≠ lower other.name

/-- The columns are those of the definitions in ascending position. -/
def InPositionOrder (libraries : Libraries) (columns : List ColumnDefinition)
    (coldefs : List APIColumnDefinition) : Prop :=
  ∃ sorted, sorted.Perm coldefs ∧
    sorted.Pairwise (fun one other => one.position < other.position) ∧
    List.Forall₂ (Describes libraries) columns sorted

/-- Objects with the same members but for the order of the array of columns. -/
theorem permutesColumns_of_members (before behind : List (Text × Json))
    {columns permuted : List Json}
    (first : before.lookup "columns".toList = none) (same : columns.Perm permuted) :
    PermutesColumns (.obj (before ++ ("columns".toList, .arr columns) :: behind))
      (.obj (before ++ ("columns".toList, .arr permuted) :: behind)) where
  fields := by
    intro field other
    show List.lookup _ _ = List.lookup _ _
    rw [List.lookup_append, List.lookup_append, List.lookup_cons, List.lookup_cons,
      beq_false_of_ne other]
  columns := by
    have found (listed : List Json) :
        columnsOf (.obj (before ++ ("columns".toList, .arr listed) :: behind)) =
          some (.arr listed) := by
      show List.lookup _ _ = _
      rw [List.lookup_append, first, List.lookup_cons_self]
      rfl
    rw [found, found]
    exact same

/-- Permuted elements are traversed to permuted values. -/
theorem mapM_perm {Error First Second : Type} {child : First → Except Error Second}
    {list other : List First} {values : List Second} (returned : list.mapM child = .ok values)
    (permuted : list.Perm other) :
    ∃ others, other.mapM child = .ok others ∧ values.Perm others := by
  have pairs := (mapM_eq_ok child list values).mp returned
  obtain ⟨others, otherPairs, same⟩ := List.perm_comp_forall₂ permuted.symm pairs
  exact ⟨others, (mapM_eq_ok child other others).mpr otherPairs, same.symm⟩

theorem HasText.of_same {json other : Json} {field : String}
    (same : objGet json field.toList = objGet other field.toList) (present : HasText json field) :
    HasText other field := by
  obtain ⟨text, found⟩ := present
  exact ⟨text, same ▸ found⟩

/-- A table whose columns are permuted is as loadable as before. -/
theorem LoadableTable.permuted {libraries : Libraries} {table permuted : Json}
    {coldefs : List APIColumnDefinition} (loadable : LoadableTable libraries table coldefs)
    (permutes : PermutesColumns table permuted) :
    ∃ permutedColdefs, LoadableTable libraries permuted permutedColdefs ∧
      coldefs.Perm permutedColdefs := by
  obtain ⟨permutedColdefs, parsed, same⟩ := mapM_perm loadable.columns permutes.columns
  have name := permutes.fields "name".toList (by decide)
  refine ⟨permutedColdefs, ⟨⟨?_, ?_, ?_⟩, ?_, parsed, ?_, ?_⟩, same⟩
  · exact loadable.fields.name.of_same name
  · exact loadable.fields.tableType.of_same (permutes.fields _ (by decide))
  · exact loadable.fields.tableId.of_same (permutes.fields _ (by decide))
  · obtain ⟨text, found, nonempty⟩ := loadable.named
    exact ⟨text, name ▸ found, nonempty⟩
  · exact fun coldef member => loadable.accepted coldef (same.mem_iff.mpr member)
  · exact (same.pairwise_iff fun differ => Ne.symm differ).mp loadable.names

/-! ### The order of the columns -/

section Order

variable {libraries : Libraries} {columns : List ColumnDefinition}
  {coldefs permutedColdefs : List APIColumnDefinition}

theorem names_of_describes (described : List.Forall₂ (Describes libraries) columns coldefs) :
    columns.map ColumnDefinition.name = coldefs.map APIColumnDefinition.name :=
  map_eq_map_of_related (described.imp fun _ _ describes => describes.1)

/-- Where a key tells the members apart, lists of members with the same keys are the same. -/
theorem eq_of_map_eq {Element Key : Type} {key : Element → Key} {members : List Element}
    (apart : (members.map key).Nodup) {one other : List Element} (inside : one ⊆ members)
    (otherInside : other ⊆ members) (same : one.map key = other.map key) : one = other := by
  induction one generalizing other with
  | nil => exact (List.map_eq_nil_iff.mp same.symm).symm
  | cons head rest inductionHypothesis =>
    cases other with
    | nil => exact absurd same (List.cons_ne_nil _ _)
    | cons otherHead otherRest =>
      obtain ⟨sameKey, sameKeys⟩ := List.cons.inj same
      have sameHead : head = otherHead := List.inj_on_of_nodup_map apart
        (inside List.mem_cons_self) (otherInside List.mem_cons_self) sameKey
      have sameRest := inductionHypothesis
        (fun element member => inside (List.mem_cons_of_mem _ member))
        (fun element member => otherInside (List.mem_cons_of_mem _ member)) sameKeys
      rw [sameHead, sameRest]

/-- Columns are those of one order of their definitions only. -/
theorem describes_unique
    (names : coldefs.Pairwise fun one other => lower one.name ≠ lower other.name)
    (permuted : coldefs.Perm permutedColdefs)
    (described : List.Forall₂ (Describes libraries) columns coldefs)
    (otherDescribed : List.Forall₂ (Describes libraries) columns permutedColdefs) :
    coldefs = permutedColdefs := by
  have apart : (coldefs.map APIColumnDefinition.name).Nodup :=
    List.pairwise_map.mpr (names.imp fun differ same => differ (congrArg lower same))
  refine eq_of_map_eq apart (List.Subset.refl _) permuted.symm.subset ?_
  rw [← names_of_describes described, names_of_describes otherDescribed]

theorem Describes.unique {column other : ColumnDefinition} {coldef : APIColumnDefinition}
    (describes : Describes libraries column coldef)
    (otherDescribes : Describes libraries other coldef) : column = other := by
  cases column
  cases other
  congr
  · exact describes.1.trans otherDescribes.1.symm
  · exact Except.ok.inj (describes.2.symm.trans otherDescribes.2)

theorem columns_unique {otherColumns : List ColumnDefinition}
    (described : List.Forall₂ (Describes libraries) columns coldefs)
    (otherDescribed : List.Forall₂ (Describes libraries) otherColumns coldefs) :
    columns = otherColumns := by
  induction described generalizing otherColumns with
  | nil => exact (List.forall₂_nil_right_iff.mp otherDescribed).symm
  | cons describes _ inductionHypothesis =>
    cases otherDescribed with
    | cons otherDescribes others =>
      rw [describes.unique otherDescribes, inductionHypothesis others]

/-- The columns of two entries of a table follow the replies they are loaded from. -/
structure FollowsReply (libraries : Libraries) (coldefs permutedColdefs : List APIColumnDefinition)
    (entry permutedEntry : TableEntry) : Prop where
  described : List.Forall₂ (Describes libraries) entry.columns coldefs
  permutedDescribed : List.Forall₂ (Describes libraries) permutedEntry.columns permutedColdefs
  permuted : entry.columns.Perm permutedEntry.columns
  same_iff : entry.columns = permutedEntry.columns ↔ coldefs = permutedColdefs
  ascending_iff : InPositionOrder libraries entry.columns coldefs ↔
    coldefs.Pairwise fun one other => one.position < other.position
  /-- The position decides the order exactly where both replies have it already. -/
  ordered_iff : entry.columns = permutedEntry.columns ∧
      InPositionOrder libraries entry.columns coldefs ↔
    (coldefs.Pairwise fun one other => one.position < other.position) ∧
      permutedColdefs.Pairwise fun one other => one.position < other.position

theorem followsReply {entry permutedEntry : TableEntry}
    (names : coldefs.Pairwise fun one other => lower one.name ≠ lower other.name)
    (permuted : coldefs.Perm permutedColdefs)
    (described : List.Forall₂ (Describes libraries) entry.columns coldefs)
    (permutedDescribed :
      List.Forall₂ (Describes libraries) permutedEntry.columns permutedColdefs) :
    FollowsReply libraries coldefs permutedColdefs entry permutedEntry := by
  have permutedColumns : entry.columns.Perm permutedEntry.columns := by
    obtain ⟨columns, paired, same⟩ := List.perm_comp_forall₂ permuted.symm described.flip
    rw [columns_unique permutedDescribed paired.flip]
    exact same.symm
  have same_iff : entry.columns = permutedEntry.columns ↔ coldefs = permutedColdefs := by
    constructor
    · intro same
      rw [← same] at permutedDescribed
      exact describes_unique names permuted described permutedDescribed
    · intro same
      rw [← same] at permutedDescribed
      exact columns_unique described permutedDescribed
  have ascending_iff : InPositionOrder libraries entry.columns coldefs ↔
      coldefs.Pairwise fun one other => one.position < other.position := by
    refine ⟨?_, fun ascending => ⟨coldefs, .refl _, ascending, described⟩⟩
    rintro ⟨sorted, same, ascending, sortedDescribed⟩
    rw [describes_unique names same.symm described sortedDescribed]
    exact ascending
  refine ⟨described, permutedDescribed, permutedColumns, same_iff, ascending_iff, ?_⟩
  rw [same_iff, ascending_iff]
  constructor
  · rintro ⟨same, ascending⟩
    exact ⟨ascending, same ▸ ascending⟩
  · -- of two lists that are permutations of each other one order is ascending
    rintro ⟨ascending, permutedAscending⟩
    refine ⟨permuted.eq_of_pairwise (fun one other _ _ before behind => ?_) ascending
      permutedAscending, ascending⟩
    exact absurd (UInt64.lt_trans before behind) (UInt64.lt_irrefl _)

end Order

/-! ### Loading the replies -/

section Loading

variable {libraries : Libraries} (adds : libraries.AddsFresh) (credentials : Credentials)
  (catalog schemaName : Text) (schemaInternal : Bool)

include adds

/-- A loadable table is loaded with its columns in the order of their definitions. -/
theorem loadedTable_of_loadable {table : Json} {coldefs : List APIColumnDefinition}
    (loadable : LoadableTable libraries table coldefs) :
    ∃ entry, loadedTable libraries credentials catalog schemaName schemaInternal table =
      .ok entry ∧ List.Forall₂ (Describes libraries) entry.columns coldefs := by
  have columnFields : ∀ column ∈ arrForeach (columnsOf table), ColumnFields column :=
    fun column member => (parseColumnDefinition_returns_iff column).mp
      (returns_of_mem loadable.columns member)
  obtain ⟨data, parsed⟩ := (parseTable_returns_iff catalog schemaName table).mpr
    ⟨loadable.fields, columnFields⟩
  have sameColumns : data.columns = coldefs :=
    Except.ok.inj ((parsedAs_of_parseTable parsed).columns.symm.trans loadable.columns)
  obtain ⟨made, added, described⟩ := addColumns_returns adds [] loadable.accepted
    (fun _ _ _ member => absurd member List.not_mem_nil) loadable.names
  have named := (hasName_iff_of_parsed parsed).mp loadable.named
  rw [loadedTable_of_parsed libraries credentials schemaInternal parsed, sameColumns, added]
  refine ⟨_, if_neg named, ?_⟩
  rw [adoptInSchema_columns]
  exact described

variable {state permutedState : SetState TableEntry} {body permutedBody : Text}

omit adds in
/-- Where every table of a reply is loaded, the reply stands for their entries. -/
theorem listed_of_loaded {remote : Request → CurlResult}
    (replied : remote (getRequestOf (tablesUrl credentials catalog schemaName)
      credentials.token) = .body body)
    {elements : List Json} {entries : List TableEntry}
    (reads : tablesOf (libraries.yyjsonRead body) = some (.arr elements))
    (loaded : elements.mapM (loadedTable libraries credentials catalog schemaName schemaInternal) =
      .ok entries) :
    (tableLoader libraries catalog credentials schemaName schemaInternal).listed remote =
      .ok entries := by
  have present : FieldsPresent (libraries.yyjsonRead body) := by
    unfold FieldsPresent
    rw [reads]
    intro table member
    obtain ⟨entry, made⟩ := returns_of_mem loaded member
    obtain ⟨data, read, _⟩ := (Outcome.bind_eq_ok _ _ _).mp made
    exact (parseTable_returns_iff catalog schemaName table).mp
      ⟨data, (Outcome.ofExcept_eq_ok _ _).mp read⟩
  rw [listed_eq_loadedTables libraries credentials schemaInternal replied present, reads]
  exact loaded

/-- Two replies that differ in the order of the columns of one table both load, and give every
table the same entry but this one, whose columns each time follow the reply. -/
theorem columns_followReply
    (replied : state.world.remote (getRequestOf (tablesUrl credentials catalog schemaName)
      credentials.token) = .body body)
    (permutedReplied : permutedState.world.remote (getRequestOf (tablesUrl credentials catalog
      schemaName) credentials.token) = .body permutedBody)
    {before behind : List Json} {table permuted : Json} {coldefs : List APIColumnDefinition}
    (reads : tablesOf (libraries.yyjsonRead body) = some (.arr (before ++ table :: behind)))
    (permutedReads : tablesOf (libraries.yyjsonRead permutedBody) =
      some (.arr (before ++ permuted :: behind)))
    (loadable : LoadableTable libraries table coldefs)
    (permutes : PermutesColumns table permuted)
    (others : ∀ element ∈ before ++ behind, ∃ entry,
      loadedTable libraries credentials catalog schemaName schemaInternal element = .ok entry) :
    ∃ front entry permutedEntry rear permutedColdefs,
      (arrForeach (columnsOf permuted)).mapM parseColumnDefinition = .ok permutedColdefs ∧
      (tableLoader libraries catalog credentials schemaName schemaInternal).loadEntries state =
        .ok () ((state.requested (tableLoader libraries catalog credentials schemaName
          schemaInternal)).withEntries
            (insertEntries state.set.entries (front ++ entry :: rear))) ∧
      (tableLoader libraries catalog credentials schemaName
          schemaInternal).loadEntries permutedState =
        .ok () ((permutedState.requested (tableLoader libraries catalog credentials schemaName
          schemaInternal)).withEntries
            (insertEntries permutedState.set.entries (front ++ permutedEntry :: rear))) ∧
      FollowsReply libraries coldefs permutedColdefs entry permutedEntry := by
  obtain ⟨permutedColdefs, permutedLoadable, same⟩ := loadable.permuted permutes
  obtain ⟨entry, loaded, described⟩ :=
    loadedTable_of_loadable adds credentials catalog schemaName schemaInternal loadable
  obtain ⟨permutedEntry, permutedLoaded, permutedDescribed⟩ :=
    loadedTable_of_loadable adds credentials catalog schemaName schemaInternal permutedLoadable
  obtain ⟨front, inFront⟩ := returns_of_all fun element (member : element ∈ before) =>
    others element (List.mem_append_left _ member)
  obtain ⟨rear, inRear⟩ := returns_of_all fun element (member : element ∈ behind) =>
    others element (List.mem_append_right _ member)
  have around {element : Json} {made : TableEntry}
      (this : loadedTable libraries credentials catalog schemaName schemaInternal element =
        .ok made) :
      (before ++ element :: behind).mapM (loadedTable libraries credentials catalog schemaName
        schemaInternal) = .ok (front ++ made :: rear) := by
    rw [mapM_eq_ok] at inFront inRear ⊢
    exact List.rel_append inFront (.cons this inRear)
  refine ⟨front, entry, permutedEntry, rear, permutedColdefs, permutedLoadable.columns, ?_, ?_,
    followsReply loadable.names same described permutedDescribed⟩
  · exact Loader.loadEntries_of_ok state (listed_of_loaded credentials catalog schemaName
      schemaInternal replied reads (around loaded))
  · exact Loader.loadEntries_of_ok permutedState (listed_of_loaded credentials catalog schemaName
      schemaInternal permutedReplied permutedReads (around permutedLoaded))

end Loading

/-! ### A table with two columns -/

def columnText (name position : Text) : Text :=
  ["\x7b\"name\":\"".toList, name, "\",\"type_text\":\"int\",".toList,
    "\"type_precision\":0,\"type_scale\":0,".toList, "\"position\":".toList, position,
    "\x7d".toList].flatten

def columnJson (name : Text) (position : UInt64) : Json :=
  .obj [("name".toList, .str name), ("type_text".toList, .str "int".toList),
    ("type_precision".toList, .uint 0), ("type_scale".toList, .uint 0),
    ("position".toList, .uint position)]

def columnDefinition (name : Text) (position : UInt64) : APIColumnDefinition :=
  ⟨name, "int".toList, 0, 0, position⟩

def twoColumnsBody (one other : Text) : Text :=
  ["\x7b\"tables\":[\x7b\"name\":\"t\",".toList, "\"table_type\":\"MANAGED\",".toList,
    "\"table_id\":\"1\",\"columns\":[".toList, one, ",".toList, other,
    "]\x7d]\x7d".toList].flatten

def twoColumnsTable (one other : Json) : Json :=
  .obj [("name".toList, .str "t".toList), ("table_type".toList, .str "MANAGED".toList),
    ("table_id".toList, .str "1".toList), ("columns".toList, .arr [one, other])]

/-- The columns in the order of their positions, and the other way round. -/
def inOrderBody : Text :=
  twoColumnsBody (columnText "x".toList "0".toList) (columnText "y".toList "1".toList)

def swappedBody : Text :=
  twoColumnsBody (columnText "y".toList "1".toList) (columnText "x".toList "0".toList)

def inOrderTable : Json := twoColumnsTable (columnJson "x".toList 0) (columnJson "y".toList 1)

def swappedTable : Json := twoColumnsTable (columnJson "y".toList 1) (columnJson "x".toList 0)

def twoColumnsLibraries : Libraries where
  castUInt8 := castPlainNumeral
  addColumn columns column := .ok (columns ++ [column])
  yyjsonRead body :=
    if body = inOrderBody then some (.obj [("tables".toList, .arr [inOrderTable])])
    else if body = swappedBody then some (.obj [("tables".toList, .arr [swappedTable])])
    else none

theorem tablesOf_inOrder :
    tablesOf (twoColumnsLibraries.yyjsonRead inOrderBody) = some (.arr [inOrderTable]) := by
  have read : twoColumnsLibraries.yyjsonRead inOrderBody =
      some (.obj [("tables".toList, .arr [inOrderTable])]) := by
    simp only [twoColumnsLibraries, if_true]
  rw [read]
  rfl

theorem tablesOf_swapped :
    tablesOf (twoColumnsLibraries.yyjsonRead swappedBody) = some (.arr [swappedTable]) := by
  have different : swappedBody ≠ inOrderBody := by decide +kernel
  have read : twoColumnsLibraries.yyjsonRead swappedBody =
      some (.obj [("tables".toList, .arr [swappedTable])]) := by
    simp only [twoColumnsLibraries, if_neg different, if_true]
  rw [read]
  rfl

theorem twoColumnsLibraries_addsFresh : twoColumnsLibraries.AddsFresh := fun _ _ _ => rfl

theorem inOrderTable_loadable : LoadableTable twoColumnsLibraries inOrderTable
    [columnDefinition "x".toList 0, columnDefinition "y".toList 1] where
  fields := ⟨⟨_, rfl⟩, ⟨_, rfl⟩, ⟨_, rfl⟩⟩
  named := ⟨"t".toList, rfl, by decide⟩
  columns := rfl
  accepted := by
    intro coldef member
    refine ⟨.integer, ?_⟩
    rcases List.mem_cons.mp member with rfl | inRest
    · rfl
    · cases List.mem_singleton.mp inRest
      rfl
  names := by decide

theorem swappedTable_permutes : PermutesColumns inOrderTable swappedTable :=
  permutesColumns_of_members [("name".toList, .str "t".toList),
    ("table_type".toList, .str "MANAGED".toList), ("table_id".toList, .str "1".toList)] []
    rfl (.swap _ _ _)

theorem columns_followReply_swapped :
    let loader := tableLoader twoColumnsLibraries "uc".toList ⟨[], [], []⟩ "s".toList false
    let state : SetState TableEntry := ⟨⟨fun _ => .body inOrderBody, []⟩, .new TableEntry⟩
    let swapped : SetState TableEntry := ⟨⟨fun _ => .body swappedBody, []⟩, .new TableEntry⟩
    ∃ front entry swappedEntry rear swappedColdefs,
      (arrForeach (columnsOf swappedTable)).mapM parseColumnDefinition = .ok swappedColdefs ∧
      loader.loadEntries state = .ok () ((state.requested loader).withEntries
        (insertEntries state.set.entries (front ++ entry :: rear))) ∧
      loader.loadEntries swapped = .ok () ((swapped.requested loader).withEntries
        (insertEntries swapped.set.entries (front ++ swappedEntry :: rear))) ∧
      FollowsReply twoColumnsLibraries
        [columnDefinition "x".toList 0, columnDefinition "y".toList 1] swappedColdefs entry
        swappedEntry := by
  intro loader state swapped
  have none : ∀ element ∈ ([] : List Json) ++ [], ∃ entry, loadedTable twoColumnsLibraries
      ⟨[], [], []⟩ "uc".toList "s".toList false element = .ok entry :=
    fun _ member => absurd member List.not_mem_nil
  exact columns_followReply twoColumnsLibraries_addsFresh ⟨[], [], []⟩ "uc".toList "s".toList false
    rfl rfl tablesOf_inOrder tablesOf_swapped inOrderTable_loadable swappedTable_permutes none

/-- Swapping the columns in the reply swaps them in the entry. -/
theorem columns_swapped :
    ¬ ∀ libraries : Libraries, libraries.AddsFresh →
      ∀ (credentials : Credentials) (catalog schemaName : Text) (schemaInternal : Bool)
        (remote permutedRemote : Request → CurlResult) (body permutedBody : Text)
        (table permuted : Json) (coldefs : List APIColumnDefinition)
        (entry permutedEntry : TableEntry),
        remote (getRequestOf (tablesUrl credentials catalog schemaName) credentials.token) =
          .body body →
        permutedRemote (getRequestOf (tablesUrl credentials catalog schemaName)
          credentials.token) = .body permutedBody →
        tablesOf (libraries.yyjsonRead body) = some (.arr [table]) →
        tablesOf (libraries.yyjsonRead permutedBody) = some (.arr [permuted]) →
        LoadableTable libraries table coldefs →
        coldefs.Pairwise (fun one other => one.position ≠ other.position) →
        PermutesColumns table permuted →
        (tableLoader libraries catalog credentials schemaName schemaInternal).listed remote =
          .ok [entry] →
        (tableLoader libraries catalog credentials schemaName
          schemaInternal).listed permutedRemote = .ok [permutedEntry] →
        entry.columns = permutedEntry.columns ∧
          InPositionOrder libraries permutedEntry.columns coldefs := by
  intro always
  obtain ⟨permutedColdefs, permutedLoadable, same⟩ :=
    inOrderTable_loadable.permuted swappedTable_permutes
  obtain ⟨entry, loaded, described⟩ := loadedTable_of_loadable twoColumnsLibraries_addsFresh
    ⟨[], [], []⟩ "uc".toList "s".toList false inOrderTable_loadable
  obtain ⟨permutedEntry, permutedLoaded, permutedDescribed⟩ := loadedTable_of_loadable
    twoColumnsLibraries_addsFresh ⟨[], [], []⟩ "uc".toList "s".toList false permutedLoadable
  have single {element : Json} {made : TableEntry}
      (this : loadedTable twoColumnsLibraries ⟨[], [], []⟩ "uc".toList "s".toList false element =
        .ok made) : [element].mapM (loadedTable twoColumnsLibraries ⟨[], [], []⟩ "uc".toList
          "s".toList false) = .ok [made] :=
    (mapM_eq_ok _ _ _).mpr (.cons this .nil)
  let loader := tableLoader twoColumnsLibraries "uc".toList ⟨[], [], []⟩ "s".toList false
  have listed : loader.listed (fun _ => .body inOrderBody) = .ok [entry] :=
    listed_of_loaded ⟨[], [], []⟩ "uc".toList "s".toList false rfl tablesOf_inOrder (single loaded)
  have permutedListed : loader.listed (fun _ => .body swappedBody) = .ok [permutedEntry] :=
    listed_of_loaded ⟨[], [], []⟩ "uc".toList "s".toList false rfl tablesOf_swapped
      (single permutedLoaded)
  have sameColumns := (always twoColumnsLibraries twoColumnsLibraries_addsFresh _ _ _ _ _ _ _ _ _ _
    _ _ _ rfl rfl tablesOf_inOrder tablesOf_swapped inOrderTable_loadable (by decide)
    swappedTable_permutes listed permutedListed).1
  have swapped : permutedColdefs =
      [columnDefinition "y".toList 1, columnDefinition "x".toList 0] :=
    Except.ok.inj (permutedLoadable.columns.symm.trans rfl)
  have names := congrArg (List.map APIColumnDefinition.name)
    ((followsReply inOrderTable_loadable.names same described permutedDescribed).same_iff.mp
      sameColumns)
  rw [swapped] at names
  exact absurd names (by decide)

end UcCatalog
