/-
This file is the Unity Catalog server a catalog is attached to, as far as the
extension relies on it: what it holds, how it describes that in its replies, and
that it answers a request for the names the URL of the request carries. How a
URL is read is left to the server (`catalogName`, `schemaName`), since the
extension puts names into it as they are.

The extension reads a name up to its first zero, and a type likewise. What a load
makes of the server's reply is therefore decided by what is left of the names and
the types (`RemoteTable.Loadable`): the load succeeds exactly when every schema is
left with a name, or every table is loadable, and then the listing has what is
left of the names, in the server's order.
-/

import UcCatalog.CachedTables
import UcCatalog.Snapshot

namespace UcCatalog

open Stateful

/-! ### What a server holds -/

structure RemoteColumn where
  name : Text
  typeText : Text

structure RemoteTable where
  name : Text
  columns : List RemoteColumn

/-- The names of the children of one parent: none is empty, and no two are equal ignoring case. -/
structure Named (names : List Text) : Prop where
  nonempty : ∀ name ∈ names, name ≠ []
  apart : names.Pairwise fun one other => lower one ≠ lower other

structure Server (libraries : Libraries) where
  /-- The names of the schemas of a catalog. -/
  schemas : Text → List Text
  /-- The tables of a schema of a catalog. -/
  tables : Text → Text → List RemoteTable
  /-- The `catalog_name` a URL carries. -/
  catalogName : Text → Text
  /-- The `schema_name` a URL carries. -/
  schemaName : Text → Text
  schemasNamed : ∀ catalog, Named (schemas catalog)
  tablesNamed : ∀ catalog schema, Named ((tables catalog schema).map RemoteTable.name)
  columnsNamed : ∀ catalog schema, ∀ table ∈ tables catalog schema,
    Named (table.columns.map RemoteColumn.name)
  accepted : ∀ catalog schema, ∀ table ∈ tables catalog schema, ∀ column ∈ table.columns,
    ∃ type, typeToLogicalType libraries.castUInt8 column.typeText = .ok type
  /-- There are tables in the schemas of a catalog only. -/
  closed : ∀ catalog schema, schema ∉ schemas catalog → tables catalog schema = []

/-! ### Well-formed replies -/

structure DescribesColumn (json : Json) (column : RemoteColumn) : Prop where
  name : objGet json "name".toList = some (.str column.name)
  typeText : objGet json "type_text".toList = some (.str column.typeText)
  numbers : ∀ field ∈ ["type_precision", "type_scale", "position"],
    ∃ number, objGet json field.toList = some number ∧ number.IsNumber

structure DescribesTable (json : Json) (table : RemoteTable) : Prop where
  name : objGet json "name".toList = some (.str table.name)
  texts : ∀ field ∈ ["table_type", "table_id"],
    ∃ text, objGet json field.toList = some (.str text)
  columns : List.Forall₂ DescribesColumn (arrForeach (objGet json "columns".toList)) table.columns

def DescribesSchema (json : Json) (schema : Text) : Prop :=
  objGet json "name".toList = some (.str schema)

/-- The server answers the requests for listings by what it holds under the names they carry. -/
structure Server.Answers {libraries : Libraries} (server : Server libraries)
    (credentials : Credentials) (remote : Request → CurlResult) : Prop where
  schemas : ∀ catalog, ∃ body,
    let request := getRequestOf (schemasUrl credentials catalog) credentials.token
    remote request = .body body ∧ List.Forall₂ DescribesSchema
      (arrForeach (objGet (libraries.yyjsonRead body) "schemas".toList))
      (server.schemas (server.catalogName request.url))
  tables : ∀ catalog schema, ∃ body,
    let request := getRequestOf (tablesUrl credentials catalog schema) credentials.token
    remote request = .body body ∧ List.Forall₂ DescribesTable
      (arrForeach (objGet (libraries.yyjsonRead body) "tables".toList))
      (server.tables (server.catalogName request.url) (server.schemaName request.url))

/-- `AddColumn` appends a column unless there is one whose name is equal ignoring case. -/
def Libraries.AddsFresh (libraries : Libraries) : Prop :=
  ∀ columns column, (∀ other ∈ columns, lower other.name ≠ lower column.name) →
    libraries.addColumn columns column = .ok (columns ++ [column])

/-- `AddColumn` raises on a column if there is one whose name is equal ignoring case. -/
def Libraries.RejectsRepeated (libraries : Libraries) : Prop :=
  ∀ columns column, (∃ other ∈ columns, lower other.name = lower column.name) →
    ∃ exception, libraries.addColumn columns column = .error exception

/-! ### Decoding -/

section Decoding

/-- A column as the extension reads it. -/
def RemoteColumn.read (column : RemoteColumn) : RemoteColumn :=
  ⟨cString column.name, cString column.typeText⟩

/-- The column a definition is read from. -/
def APIColumnDefinition.remote (coldef : APIColumnDefinition) : RemoteColumn :=
  ⟨coldef.name, coldef.typeText⟩

theorem parseColumnDefinition_of_describes {json : Json} {column : RemoteColumn}
    (describes : DescribesColumn json column) :
    ∃ coldef, parseColumnDefinition json = .ok coldef ∧ coldef.remote = column.read := by
  have number {field : String} (member : field ∈ ["type_precision", "type_scale", "position"]) :
      ∃ value, tryGetNumFromObject json field.toList = .ok value := by
    obtain ⟨number, present, isNumber⟩ := describes.numbers field member
    exact tryGetNum_returns present isNumber
  obtain ⟨precision, gotPrecision⟩ := number (.head _)
  obtain ⟨scale, gotScale⟩ := number (.tail _ (.head _))
  obtain ⟨position, gotPosition⟩ := number (.tail _ (.tail _ (.head _)))
  refine ⟨⟨cString column.name, cString column.typeText, precision, scale, position⟩, ?_, rfl⟩
  rw [parseColumnDefinition, tryGetStr_cString describes.name,
    tryGetStr_cString describes.typeText, gotPrecision, gotScale, gotPosition]
  rfl

/-- What is read of a table. -/
structure ReadAs (data : APITable) (table : RemoteTable) : Prop where
  name : data.name = cString table.name
  columns : data.columns.map APIColumnDefinition.remote = table.columns.map RemoteColumn.read

theorem parseTable_of_describes {json : Json} {table : RemoteTable}
    (describes : DescribesTable json table) (catalog schema : Text) :
    ∃ data, parseTable catalog schema json = .ok data ∧ ReadAs data table := by
  have text {field : String} (member : field ∈ ["table_type", "table_id"]) :
      ∃ value, tryGetStrFromObject json field.toList true = .ok value := by
    obtain ⟨text, present⟩ := describes.texts field member
    exact tryGetStr_returns present
  obtain ⟨tableType, gotType⟩ := text (.head _)
  obtain ⟨tableId, gotId⟩ := text (.tail _ (.head _))
  obtain ⟨format, gotFormat⟩ := tryGetStr_optional json "data_source_format".toList
  obtain ⟨location, gotLocation⟩ := tryGetStr_optional json "storage_location".toList
  obtain ⟨columns, parsed, same⟩ := mapM_related describes.columns
    fun element column _ describesColumn => parseColumnDefinition_of_describes describesColumn
  refine ⟨⟨tableId, cString table.name, catalog, schema, tableType, format, location, columns⟩,
    ?_, rfl, map_eq_map_of_related same⟩
  rw [parseTable, tryGetStr_cString describes.name, gotType, gotFormat, gotLocation, gotId, parsed]
  rfl

theorem parseSchema_of_describes {json : Json} {schema : Text}
    (describes : DescribesSchema json schema) (catalog : Text) :
    parseSchema catalog json =
      .ok { schemaName := cString schema, catalogName := catalog } := by
  rw [parseSchema, describes]
  rfl

end Decoding

/-! ### Building tables -/

section Building

variable {libraries : Libraries}

/-- Columns of accepted types whose names differ ignoring case are all added, in order. -/
theorem addColumns_returns (adds : libraries.AddsFresh) {coldefs : List APIColumnDefinition}
    (done : List ColumnDefinition)
    (accepted : ∀ coldef ∈ coldefs,
      ∃ type, typeToLogicalType libraries.castUInt8 coldef.typeText = .ok type)
    (fresh : ∀ coldef ∈ coldefs, ∀ column ∈ done, lower column.name ≠ lower coldef.name)
    (apart : coldefs.Pairwise fun one other => lower one.name ≠ lower other.name) :
    ∃ made, addColumns libraries done coldefs = .ok (done ++ made) ∧
      List.Forall₂ (Describes libraries) made coldefs := by
  induction coldefs generalizing done with
  | nil => exact ⟨[], by rw [List.append_nil]; rfl, .nil⟩
  | cons coldef coldefs inductionHypothesis =>
    obtain ⟨type, parsed⟩ := accepted coldef List.mem_cons_self
    obtain ⟨differ, apartRest⟩ := List.pairwise_cons.mp apart
    have added := adds done ⟨coldef.name, type⟩ (fresh coldef List.mem_cons_self)
    obtain ⟨made, others, described⟩ := inductionHypothesis (done ++ [⟨coldef.name, type⟩])
      (fun other member => accepted other (List.mem_cons_of_mem _ member))
      (fun other member column inDone => by
        rcases List.mem_append.mp inDone with before | new
        · exact fresh other (List.mem_cons_of_mem _ member) column before
        · rw [List.mem_singleton.mp new]
          exact differ other member)
      apartRest
    refine ⟨⟨coldef.name, type⟩ :: made, ?_, .cons ⟨rfl, parsed⟩ described⟩
    rw [addColumns, createColumnDefinition, parsed]
    show (Outcome.ofExcept (libraries.addColumn done ⟨coldef.name, type⟩) >>= _) = _
    rw [added, List.append_cons done _ made]
    exact others

/-- A column that is added is fresh. -/
theorem Libraries.AddsFresh.of_added (adds : libraries.AddsFresh)
    (rejects : libraries.RejectsRepeated) {columns added : List ColumnDefinition}
    {column : ColumnDefinition} (returned : libraries.addColumn columns column = .ok added) :
    (∀ other ∈ columns, lower other.name ≠ lower column.name) ∧ added = columns ++ [column] := by
  have fresh : ∀ other ∈ columns, lower other.name ≠ lower column.name := by
    intro other member same
    obtain ⟨exception, raised⟩ := rejects columns column ⟨other, member, same⟩
    exact nomatch returned.symm.trans raised
  exact ⟨fresh, (Except.ok.inj ((adds columns column fresh).symm.trans returned)).symm⟩

/-- Only such columns are added. -/
theorem of_addColumns (adds : libraries.AddsFresh) (rejects : libraries.RejectsRepeated)
    {coldefs : List APIColumnDefinition} {done columns : List ColumnDefinition}
    (returned : addColumns libraries done coldefs = .ok columns) :
    (∀ coldef ∈ coldefs,
        ∃ type, typeToLogicalType libraries.castUInt8 coldef.typeText = .ok type) ∧
      (∀ coldef ∈ coldefs, ∀ column ∈ done, lower column.name ≠ lower coldef.name) ∧
      coldefs.Pairwise fun one other => lower one.name ≠ lower other.name := by
  induction coldefs generalizing done with
  | nil => exact ⟨nofun, nofun, .nil⟩
  | cons coldef coldefs inductionHypothesis =>
    rw [addColumns] at returned
    obtain ⟨column, created, next⟩ := (Outcome.bind_eq_ok _ _ _).mp returned
    obtain ⟨type, parsed, same⟩ := (Outcome.bind_eq_ok _ _ _).mp created
    cases same
    obtain ⟨added, gotAdded, others⟩ := (Outcome.bind_eq_ok _ _ _).mp next
    obtain ⟨fresh, rfl⟩ := adds.of_added rejects ((Outcome.ofExcept_eq_ok _ _).mp gotAdded)
    obtain ⟨acceptedRest, freshRest, apartRest⟩ := inductionHypothesis others
    refine ⟨fun other member => ?_, fun other member column inDone => ?_,
      List.pairwise_cons.mpr ⟨fun other member => ?_, apartRest⟩⟩
    · rcases List.mem_cons.mp member with rfl | inRest
      · exact ⟨type, parsed⟩
      · exact acceptedRest other inRest
    · rcases List.mem_cons.mp member with rfl | inRest
      · exact fresh column inDone
      · exact freshRest other inRest column (List.mem_append_left _ inDone)
    · exact freshRest other member ⟨coldef.name, type⟩
        (List.mem_append_right _ (List.mem_singleton_self _))

/-- What is left of the names and the types of a table can be loaded: the table has a name, the
types are accepted, and no two columns have names that are equal ignoring case. -/
structure RemoteTable.Loadable (libraries : Libraries) (table : RemoteTable) : Prop where
  named : cString table.name ≠ []
  accepted : ∀ column ∈ table.columns,
    ∃ type, typeToLogicalType libraries.castUInt8 (cString column.typeText) = .ok type
  apart : table.columns.Pairwise fun one other =>
    lower (cString one.name) ≠ lower (cString other.name)

variable {attachment : Attachment} {item : SchemaItem} {data : APITable} {table : RemoteTable}

theorem entryOf_name {entry : TableEntry}
    (built : (attachment.tableLoader item).entryOf data = .ok entry) : entry.name = data.name := by
  obtain ⟨fresh, made, rfl, _⟩ := Loader.entryOf_eq_ok built
  obtain ⟨columns, _, same⟩ := (Outcome.bind_eq_ok _ _ _).mp made
  cases same
  exact adoptInSchema_name _ _

/-- An entry is made of what is read of the loadable tables. -/
theorem entryOf_returns_iff (adds : attachment.libraries.AddsFresh)
    (rejects : attachment.libraries.RejectsRepeated) (read : ReadAs data table) :
    (∃ entry, (attachment.tableLoader item).entryOf data = .ok entry) ↔
      table.Loadable attachment.libraries := by
  have accepted_iff : (∀ coldef ∈ data.columns, ∃ type,
      typeToLogicalType attachment.libraries.castUInt8 coldef.typeText = .ok type) ↔
        ∀ column ∈ table.columns, ∃ type,
          typeToLogicalType attachment.libraries.castUInt8 (cString column.typeText) =
            .ok type := by
    have moved := congrArg (fun columns => ∀ column ∈ columns, ∃ type, typeToLogicalType
      attachment.libraries.castUInt8 (RemoteColumn.typeText column) = .ok type) read.columns
    rw [List.forall_mem_map, List.forall_mem_map] at moved
    exact iff_of_eq moved
  have apart_iff : (data.columns.Pairwise fun one other => lower one.name ≠ lower other.name) ↔
      table.columns.Pairwise fun one other =>
        lower (cString one.name) ≠ lower (cString other.name) := by
    have moved := congrArg (List.Pairwise fun one other =>
      lower (RemoteColumn.name one) ≠ lower (RemoteColumn.name other)) read.columns
    rw [List.pairwise_map, List.pairwise_map] at moved
    exact iff_of_eq moved
  constructor
  · rintro ⟨entry, built⟩
    obtain ⟨fresh, made, adopted, named⟩ := Loader.entryOf_eq_ok built
    obtain ⟨columns, added, _⟩ := (Outcome.bind_eq_ok _ _ _).mp made
    obtain ⟨accepted, _, apart⟩ := of_addColumns adds rejects added
    refine ⟨?_, accepted_iff.mp accepted, apart_iff.mp apart⟩
    rw [← read.name, ← entryOf_name built]
    exact named
  · intro loadable
    obtain ⟨columns, added, _⟩ := addColumns_returns adds [] (accepted_iff.mpr loadable.accepted)
      (fun _ _ _ member => absurd member List.not_mem_nil) (apart_iff.mpr loadable.apart)
    have made : buildTableEntry attachment.libraries data =
        .ok ⟨data.name, columns, some data, false⟩ := by
      rw [buildTableEntry, added]
      rfl
    refine ⟨_, Loader.entryOf_of_build made ?_⟩
    show (adoptInSchema item.internal _).name ≠ []
    rw [adoptInSchema_name]
    exact read.name ▸ loadable.named

theorem schemaEntryOf_name {schema : APISchema} {entry : SchemaEntry}
    (built : attachment.schemaLoader.entryOf schema = .ok entry) :
    entry.name = schema.schemaName := by
  obtain ⟨fresh, made, rfl, _⟩ := Loader.entryOf_eq_ok built
  cases made
  rfl

/-- An entry is made of every schema with a name. -/
theorem schemaEntryOf_returns_iff (schema : APISchema) :
    (∃ entry, attachment.schemaLoader.entryOf schema = .ok entry) ↔ schema.schemaName ≠ [] := by
  constructor
  · rintro ⟨entry, built⟩
    obtain ⟨_, _, _, named⟩ := Loader.entryOf_eq_ok built
    rw [← schemaEntryOf_name built]
    exact named
  · exact fun named => ⟨_, Loader.entryOf_of_build rfl named⟩

end Building

/-! ### Loading -/

section Listings

/-- The catalog whose schemas an attached catalog lists. -/
def Server.listedCatalog (server : Server libraries) (credentials : Credentials)
    (name : Text) : Text :=
  server.catalogName (getRequestOf (schemasUrl credentials name) credentials.token).url

/-- The tables an attached catalog lists for a schema. -/
def Server.listedTables (server : Server libraries) (credentials : Credentials)
    (path schema : Text) : List RemoteTable :=
  let url := (getRequestOf (tablesUrl credentials path schema) credentials.token).url
  server.tables (server.catalogName url) (server.schemaName url)

/-- Of names that are equal ignoring case the first. -/
def firstNames (names : List Text) : List Text := FoldedMap.firstOccurrences id lower names

/-- The names of the schemas an attached catalog lists. -/
def Server.visited (server : Server libraries) (credentials : Credentials) (name : Text) :
    List Text :=
  firstNames ((server.schemas (server.listedCatalog credentials name)).map cString)

/-- The names of the tables an attached catalog lists for a schema. -/
def Server.listedNames (server : Server libraries) (credentials : Credentials)
    (path schema : Text) : List Text :=
  firstNames ((server.listedTables credentials path schema).map fun table => cString table.name)

theorem firstOfEachName_names {Entry : Type} [CatalogEntry Entry] (listing : List Entry) :
    (firstOfEachName listing).map CatalogEntry.name =
      firstNames (listing.map CatalogEntry.name) :=
  (FoldedMap.firstOccurrences_map CatalogEntry.name CatalogEntry.name (fun _ => rfl) listing).symm

theorem firstNames_of_apart {names : List Text}
    (apart : names.Pairwise fun one other => lower one ≠ lower other) :
    firstNames names = names :=
  FoldedMap.firstOccurrences_eq_self id apart

variable {attachment : Attachment} {server : Server attachment.libraries}
  {remote : Request → CurlResult}
  (answers : server.Answers attachment.credentials remote)

include answers

theorem schemas_replied :
    ∃ items, attachment.schemaLoader.reply remote = .ok items ∧
      List.Forall₂ (fun item schema => item.schemaName = cString schema) items
        (server.schemas (server.listedCatalog attachment.credentials attachment.name)) := by
  obtain ⟨body, replied, described⟩ := answers.schemas attachment.name
  have decoded : ∃ items, decodeSchemas attachment.libraries attachment.name body = .ok items ∧
      List.Forall₂ (fun item schema => item.schemaName = cString schema) items
        (server.schemas (server.listedCatalog attachment.credentials attachment.name)) :=
    mapM_related described fun element schema _ describes =>
      ⟨_, parseSchema_of_describes describes attachment.name, rfl⟩
  obtain ⟨items, parsed, read⟩ := decoded
  exact ⟨items, (Loader.reply_of_body replied).trans parsed, read⟩

/-- A listing of schemas loads if every schema is left with a name. -/
theorem schemas_listed_iff :
    (∃ created, attachment.schemaLoader.listed remote = .ok created) ↔
      ∀ schema ∈ server.schemas (server.listedCatalog attachment.credentials attachment.name),
        cString schema ≠ [] := by
  obtain ⟨items, replied, read⟩ := schemas_replied answers
  rw [Loader.listed_of_reply replied]
  refine mapM_returns_iff (read.imp fun item schema same => ?_)
  rw [schemaEntryOf_returns_iff, same]

/-- It has what is left of their names. -/
theorem schemas_listed {created : List SchemaEntry}
    (listed : attachment.schemaLoader.listed remote = .ok created) :
    created.map SchemaEntry.name =
      (server.schemas (server.listedCatalog attachment.credentials attachment.name)).map
        cString := by
  obtain ⟨items, replied, read⟩ := schemas_replied answers
  rw [Loader.listed_of_reply replied] at listed
  exact map_eq_of_returned
    (read.imp fun item schema same entry built => (schemaEntryOf_name built).trans same) listed

theorem tables_replied (item : SchemaItem) :
    ∃ items, (attachment.tableLoader item).reply remote = .ok items ∧
      List.Forall₂ ReadAs items
        (server.listedTables attachment.credentials attachment.path item.name) := by
  obtain ⟨body, replied, described⟩ := answers.tables attachment.path item.name
  have decoded : ∃ items, decodeTables attachment.libraries attachment.path item.name body =
      .ok items ∧ List.Forall₂ ReadAs items
        (server.listedTables attachment.credentials attachment.path item.name) :=
    mapM_related described fun element table _ describes =>
      parseTable_of_describes describes attachment.path item.name
  obtain ⟨items, parsed, read⟩ := decoded
  refine ⟨items, (Loader.reply_of_body replied).trans ?_, read⟩
  exact (Outcome.ofExcept_eq_ok _ _).mpr parsed

/-- A listing of tables loads if every table is loadable. -/
theorem tables_listed_iff (adds : attachment.libraries.AddsFresh)
    (rejects : attachment.libraries.RejectsRepeated) (item : SchemaItem) :
    (∃ created, (attachment.tableLoader item).listed remote = .ok created) ↔
      ∀ table ∈ server.listedTables attachment.credentials attachment.path item.name,
        table.Loadable attachment.libraries := by
  obtain ⟨items, replied, read⟩ := tables_replied answers item
  rw [Loader.listed_of_reply replied]
  exact mapM_returns_iff (read.imp fun data table => entryOf_returns_iff adds rejects)

/-- It has what is left of their names. -/
theorem tables_listed {item : SchemaItem} {created : List TableEntry}
    (listed : (attachment.tableLoader item).listed remote = .ok created) :
    created.map TableEntry.name =
      (server.listedTables attachment.credentials attachment.path item.name).map
        fun table => cString table.name := by
  obtain ⟨items, replied, read⟩ := tables_replied answers item
  rw [Loader.listed_of_reply replied] at listed
  exact map_eq_of_returned
    (read.imp fun data table isRead entry built => (entryOf_name built).trans isRead.name) listed

end Listings

end UcCatalog
