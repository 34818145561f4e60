/-
This file is the round trip of a table listing: whatever tables a reply
describes, `UCAPI::GetTables` returns exactly those, in order.

A record holds what the decoder reads of a table, with texts that have no zero
in them. A JSON value encodes a record when it is an object with the fields of
the record, in any order and next to any members under keys the decoder does not
read. Only a field that is there is encoded, and the columns of a table without
columns may be left out. The proof goes field by field, since under every key
the decoder reads there is one value.
-/

import UcCatalog.Api
import UcCatalog.Members

namespace UcCatalog

open Stateful

/-! ### Records -/

/-- A text without a zero. -/
structure PlainText where
  text : Text
  plain : terminator ∉ text

structure ColumnRecord where
  name : PlainText
  typeText : PlainText
  precision : UInt64
  scale : UInt64
  position : UInt64

structure TableRecord where
  name : PlainText
  tableType : PlainText
  tableId : PlainText
  dataSourceFormat : Option PlainText
  storageLocation : Option PlainText
  columns : List ColumnRecord

/-- What `ParseColumnDefinition` should make of a column. -/
def ColumnRecord.definition (record : ColumnRecord) : APIColumnDefinition where
  name := record.name.text
  typeText := record.typeText.text
  precision := record.precision
  scale := record.scale
  position := record.position

/-- The text of an optional field: empty if there is none. -/
def optionalText : Option PlainText → Text
  | some plain => plain.text
  | none => []

/-- What `UCAPI::GetTables` should make of a table. -/
def TableRecord.table (catalog schema : Text) (record : TableRecord) : APITable where
  tableId := record.tableId.text
  name := record.name.text
  catalogName := catalog
  schemaName := schema
  tableType := record.tableType.text
  dataSourceFormat := optionalText record.dataSourceFormat
  storageLocation := optionalText record.storageLocation
  columns := record.columns.map ColumnRecord.definition

/-! ### Their encoding -/

def PlainText.json (plain : PlainText) : Json := .str plain.text

/-- An object that has these fields and nothing else under their keys. -/
def EncodesObject (fields : List (Text × Option Json)) (json : Json) : Prop :=
  ∃ members, json = .obj members ∧ Members.Holds fields members

def ColumnRecord.fields (record : ColumnRecord) : List (Text × Option Json) :=
  [("name".toList, some record.name.json), ("type_text".toList, some record.typeText.json),
    ("type_precision".toList, some (.uint record.precision)),
    ("type_scale".toList, some (.uint record.scale)),
    ("position".toList, some (.uint record.position))]

def EncodesColumn (json : Json) (record : ColumnRecord) : Prop := EncodesObject record.fields json

def TableRecord.fields (record : TableRecord) (columns : Option Json) :
    List (Text × Option Json) :=
  [("name".toList, some record.name.json), ("table_type".toList, some record.tableType.json),
    ("data_source_format".toList, record.dataSourceFormat.map PlainText.json),
    ("storage_location".toList, record.storageLocation.map PlainText.json),
    ("table_id".toList, some record.tableId.json), ("columns".toList, columns)]

/-- The value under `columns`: an array of the columns, or none when there are none. -/
def EncodesColumns (columns : Option Json) (records : List ColumnRecord) : Prop :=
  columns = none ∧ records = [] ∨
    ∃ elements, columns = some (.arr elements) ∧ List.Forall₂ EncodesColumn elements records

def EncodesTable (json : Json) (record : TableRecord) : Prop :=
  ∃ columns, EncodesColumns columns record.columns ∧ EncodesObject (record.fields columns) json

/-- A reply whose array of tables encodes the records. -/
def EncodesTables (root : Json) (records : List TableRecord) : Prop :=
  ∃ elements, List.Forall₂ EncodesTable elements records ∧
    EncodesObject [("tables".toList, some (.arr elements))] root

/-! ### Decoding them -/

theorem EncodesObject.objGet {fields : List (Text × Option Json)} {json : Json}
    (encodes : EncodesObject fields json) (distinct : (fields.map Prod.fst).Nodup) {key : Text}
    {content : Option Json} (field : (key, content) ∈ fields) :
    UcCatalog.objGet json key = content := by
  obtain ⟨members, rfl, holds⟩ := encodes
  exact holds.lookup distinct field

theorem parseColumnDefinition_of_encodes {json : Json} {record : ColumnRecord}
    (encodes : EncodesColumn json record) :
    parseColumnDefinition json = .ok record.definition := by
  have distinct : (record.fields.map Prod.fst).Nodup := by
    show ["name".toList, "type_text".toList, "type_precision".toList, "type_scale".toList,
      "position".toList].Nodup
    decide
  have name := encodes.objGet distinct (.head _)
  have typeText := encodes.objGet distinct (.tail _ (.head _))
  have precision := encodes.objGet distinct (.tail _ (.tail _ (.head _)))
  have scale := encodes.objGet distinct (.tail _ (.tail _ (.tail _ (.head _))))
  have position := encodes.objGet distinct (.tail _ (.tail _ (.tail _ (.tail _ (.head _)))))
  rw [parseColumnDefinition, tryGetStr_of_str name record.name.plain,
    tryGetStr_of_str typeText record.typeText.plain, tryGetNum_of_uint precision,
    tryGetNum_of_uint scale, tryGetNum_of_uint position]
  rfl

/-- An optional field is read as its text, and as the empty string if it is not there. -/
theorem tryGetStr_optionalText {json : Json} {field : Text} (optional : Option PlainText)
    (found : objGet json field = optional.map PlainText.json) :
    tryGetStrFromObject json field false = .ok (optionalText optional) := by
  cases optional with
  | none => exact tryGetStr_of_none found
  | some plain => exact tryGetStr_of_str found plain.plain

theorem parseColumns_of_encodes {columns : Option Json} {records : List ColumnRecord}
    (encodes : EncodesColumns columns records) :
    (arrForeach columns).mapM parseColumnDefinition =
      .ok (records.map ColumnRecord.definition) := by
  rcases encodes with ⟨rfl, rfl⟩ | ⟨elements, rfl, encoded⟩
  · rfl
  · rw [mapM_eq_ok, List.forall₂_map_right_iff]
    exact encoded.imp fun _ _ => parseColumnDefinition_of_encodes

theorem parseTable_of_encodes (catalog schema : Text) {json : Json} {record : TableRecord}
    (encodes : EncodesTable json record) :
    parseTable catalog schema json = .ok (record.table catalog schema) := by
  obtain ⟨columns, encodesColumns, object⟩ := encodes
  have distinct : ((record.fields columns).map Prod.fst).Nodup := by
    show ["name".toList, "table_type".toList, "data_source_format".toList,
      "storage_location".toList, "table_id".toList, "columns".toList].Nodup
    decide
  have name := object.objGet distinct (.head _)
  have tableType := object.objGet distinct (.tail _ (.head _))
  have format := object.objGet distinct (.tail _ (.tail _ (.head _)))
  have location := object.objGet distinct (.tail _ (.tail _ (.tail _ (.head _))))
  have tableId := object.objGet distinct (.tail _ (.tail _ (.tail _ (.tail _ (.head _)))))
  have found := object.objGet distinct (.tail _ (.tail _ (.tail _ (.tail _ (.tail _ (.head _))))))
  rw [parseTable, tryGetStr_of_str name record.name.plain,
    tryGetStr_of_str tableType record.tableType.plain, tryGetStr_optionalText _ format,
    tryGetStr_optionalText _ location, tryGetStr_of_str tableId record.tableId.plain, found,
    parseColumns_of_encodes encodesColumns]
  rfl

section Replies

variable {libraries : Libraries} {credentials : Credentials} {world : World}
  {catalog schema body : Text} {root : Json} {records : List TableRecord}

theorem decodeTables_of_encodes (parsed : libraries.yyjsonRead body = some root)
    (encodes : EncodesTables root records) :
    decodeTables libraries catalog schema body =
      .ok (records.map (TableRecord.table catalog schema)) := by
  obtain ⟨elements, encoded, object⟩ := encodes
  have found := object.objGet (List.nodup_cons.mpr ⟨List.not_mem_nil, .nil⟩) (.head _)
  rw [decodeTables, parsed, found]
  show elements.mapM _ = _
  rw [mapM_eq_ok, List.forall₂_map_right_iff]
  exact encoded.imp fun _ _ => parseTable_of_encodes catalog schema

/-- A reply that describes tables is read as exactly those tables. -/
theorem getTables_of_encodes
    (replied : world.remote (getRequestOf (tablesUrl credentials catalog schema)
      credentials.token) = .body body)
    (parsed : libraries.yyjsonRead body = some root) (encodes : EncodesTables root records) :
    getTables libraries catalog schema credentials world =
      .ok (records.map (TableRecord.table catalog schema))
        (world.logged (getRequestOf (tablesUrl credentials catalog schema)
          credentials.token)) := by
  rw [getTables_of_body libraries replied, decodeTables_of_encodes parsed encodes]
  rfl

end Replies

/-- A table with a column and a storage location, and a table that has neither. -/
def twoRecords : List TableRecord :=
  [{ name := ⟨"t".toList, by decide⟩
     tableType := ⟨"EXTERNAL".toList, by decide⟩
     tableId := ⟨"1".toList, by decide⟩
     dataSourceFormat := some ⟨"DELTA".toList, by decide⟩
     storageLocation := some ⟨"s3://b/t".toList, by decide⟩
     columns := [⟨⟨"x".toList, by decide⟩, ⟨"int".toList, by decide⟩, 0, 0, 1⟩] },
   { name := ⟨"u".toList, by decide⟩
     tableType := ⟨"MANAGED".toList, by decide⟩
     tableId := ⟨"2".toList, by decide⟩
     dataSourceFormat := none
     storageLocation := none
     columns := [] }]

/-- Their members are not in the order of the fields, and some belong to no field. -/
def twoRecordsBody : Text :=
  ["\x7b\"tables\":[", "\x7b\"table_type\":\"EXTERNAL\",", "\"name\":\"t\",", "\"owner\":\"o\",",
    "\"data_source_format\":\"DELTA\",", "\"storage_location\":\"s3://b/t\",",
    "\"table_id\":\"1\",", "\"columns\":[\x7b\"name\":\"x\",", "\"nullable\":true,",
    "\"type_text\":\"int\",", "\"type_precision\":0,", "\"type_scale\":0,",
    "\"position\":1\x7d]\x7d,",
    "\x7b\"name\":\"u\",", "\"table_type\":\"MANAGED\",", "\"table_id\":\"2\"\x7d]\x7d"].flatMap
    String.toList

/-- The members of the column of the first table. -/
def columnMembers : List (Text × Json) :=
  [("name".toList, .str "x".toList), ("nullable".toList, .bool true),
    ("type_text".toList, .str "int".toList), ("type_precision".toList, .uint 0),
    ("type_scale".toList, .uint 0), ("position".toList, .uint 1)]

def firstMembers : List (Text × Json) :=
  [("table_type".toList, .str "EXTERNAL".toList), ("name".toList, .str "t".toList),
    ("owner".toList, .str "o".toList), ("data_source_format".toList, .str "DELTA".toList),
    ("storage_location".toList, .str "s3://b/t".toList), ("table_id".toList, .str "1".toList),
    ("columns".toList, .arr [.obj columnMembers])]

def secondMembers : List (Text × Json) :=
  [("name".toList, .str "u".toList), ("table_type".toList, .str "MANAGED".toList),
    ("table_id".toList, .str "2".toList)]

def twoRecordsReply : Json :=
  .obj [("tables".toList, .arr [.obj firstMembers, .obj secondMembers])]

theorem twoRecordsReply_encodes : EncodesTables twoRecordsReply twoRecords := by
  refine ⟨[.obj firstMembers, .obj secondMembers], .cons ?_ (.cons ?_ .nil), _, rfl, .refl _⟩
  · refine ⟨some (.arr [.obj columnMembers]), Or.inr ⟨_, rfl, ?_⟩, firstMembers, rfl, .swap _ _ _⟩
    exact .cons ⟨columnMembers, rfl, .refl _⟩ .nil
  · exact ⟨none, Or.inl ⟨rfl, rfl⟩, secondMembers, rfl, .refl _⟩

def twoRecordsLibraries : Libraries where
  castUInt8 := castPlainNumeral
  addColumn columns column := .ok (columns ++ [column])
  yyjsonRead body := if body = twoRecordsBody then some twoRecordsReply else none

theorem getTables_of_encodes_two :
    let world : World := ⟨fun _ => .body twoRecordsBody, []⟩
    getTables twoRecordsLibraries "uc".toList "s".toList ⟨[], [], []⟩ world =
      .ok (twoRecords.map (TableRecord.table "uc".toList "s".toList))
        (world.logged (getRequestOf (tablesUrl ⟨[], [], []⟩ "uc".toList "s".toList) [])) := by
  intro world
  have parsed : twoRecordsLibraries.yyjsonRead twoRecordsBody = some twoRecordsReply := by
    simp only [twoRecordsLibraries, if_true]
  exact getTables_of_encodes rfl parsed twoRecordsReply_encodes

end UcCatalog
