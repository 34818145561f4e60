/-
This file is `UCAPI`: the requests the extension sends to the Unity Catalog
server and the decoders of their replies.

The server is a function from a request to what curl makes of it. It is a part
of the state, next to the log of the requests sent so far, so that a run can
change it between two calls. Three things are taken from DuckDB and yyjson as
they are (`Libraries`): the cast the type parser uses, the insertion of a column
into a column list, and the JSON reader. The accessors of yyjson are written
out: each of them yields nothing on a missing value and on one of another type.
-/

import Mathlib.Data.List.TakeWhile
import UcCatalog.Stateful
import UcCatalog.TypeParser

namespace UcCatalog

open Stateful

/-! ### JSON values -/

/-- A `yyjson_val`, as far as the accessors below tell values apart. -/
inductive Json where
  | null
  | bool (value : Bool)
  | uint (value : UInt64)
  | sint (value : Int64)
  | real
  | str (text : Text)
  | arr (elements : List Json)
  | obj (members : List (Text × Json))

/-- `yyjson_obj_get`: the first member of an object under a key. -/
def objGet (value : Option Json) (key : Text) : Option Json :=
  match value with
  | some (.obj members) => members.lookup key
  | _ => none

/-- The elements `yyjson_arr_foreach` visits. -/
def arrForeach : Option Json → List Json
  | some (.arr elements) => elements
  | _ => []

/-- `yyjson_get_str`: null unless the value is a string. -/
def getStr : Json → Option Text
  | .str text => some text
  | _ => none

/-- `yyjson_get_uint`: the 64 bits of an integer, and zero for other values. -/
def getUint : Json → UInt64
  | .uint value => value
  | .sint value => value.toUInt64
  | _ => 0

/-- A `std::string` made from a `const char *`: it ends at the first zero. -/
def cString (text : Text) : Text := text.takeWhile fun char => char ≠ terminator

theorem cString_of_not_mem {text : Text} (free : terminator ∉ text) : cString text = text := by
  rw [cString, List.takeWhile_eq_self_iff]
  intro char member
  exact decide_eq_true fun same => free (same ▸ member)

/-! ### What is taken from DuckDB and yyjson -/

/-- DuckDB's `ColumnDefinition`. -/
structure ColumnDefinition where
  name : Text
  type : LogicalType

/-- The library functions the extension calls and whose code is elsewhere. -/
structure Libraries where
  castUInt8 : CastUInt8
  /-- `ColumnList::AddColumn`. -/
  addColumn : List ColumnDefinition → ColumnDefinition → Except Exception (List ColumnDefinition)
  /-- `yyjson_read` and `yyjson_doc_get_root`: no value for invalid JSON. -/
  yyjsonRead : Text → Option Json

/-! ### Requests -/

/-- `UCCredentials`. -/
structure Credentials where
  endpoint : Text
  token : Text
  awsRegion : Text

/-- What curl is told to send. -/
structure Request where
  url : Text
  token : Text
  postFields : Option Text
  deriving DecidableEq

/-- What curl makes of a request. -/
inductive CurlResult where
  | initFailed
  | failed (error : Text)
  | body (readBuffer : Text)

/-- The server, and the requests sent to it so far. -/
structure World where
  remote : Request → CurlResult
  sent : List Request

/-- The outcome of a transfer, by what curl makes of it. -/
def CurlResult.outcome (url : Text) : CurlResult → Outcome Text
  | .initFailed => raise .internalException "Failed to initialize curl".toList
  | .failed error => raise .ioException
      ("Curl Request to '".toList ++ url ++ "' failed with error: '".toList ++ error ++ "'".toList)
  | .body readBuffer => .ok readBuffer

/-- The log after a transfer: nothing is sent without a handle. -/
def World.logged (world : World) (request : Request) : World :=
  match world.remote request with
  | .initFailed => world
  | _ => { world with sent := world.sent ++ [request] }

/-- The part `GetRequest` and `GetCredentialsRequest` share: the curl handle, the transfer and
its error. -/
def performRequest (url : Text) (request : Request) : EStateM Fault World Text := do
  let result := (← get).remote request
  modify fun world => world.logged request
  lift (result.outcome url)

theorem performRequest_of_ok {url body : Text} {request : Request} {world : World}
    (replied : (world.remote request).outcome url = .ok body) :
    performRequest url request world = .ok body (world.logged request) := by
  unfold performRequest
  simp only [run_bind, run_get, run_modify, run_lift, replied]

theorem performRequest_of_error {url : Text} {request : Request} {world : World} {fault : Fault}
    (failed : (world.remote request).outcome url = .error fault) :
    performRequest url request world = .error fault (world.logged request) := by
  unfold performRequest
  simp only [run_bind, run_get, run_modify, run_lift, failed]

section Sends

variable {Result : Type}

/-- The requests a call adds to the log. -/
def sentBy (call : EStateM Fault World Result) (world : World) : List Request :=
  (after (call world)).sent.drop world.sent.length

/-- Every request of a call is one of these. -/
def Sends (call : EStateM Fault World Result) (holds : Request → Prop) : Prop :=
  ∀ world, ∀ request ∈ sentBy call world, holds request

/-- A request that is answered ends as the decoder does on the body of the answer. -/
theorem performRequest_bind_of_body (url : Text) {request : Request}
    (decoder : Text → Outcome Result) {world : World} {body : Text}
    (replied : world.remote request = .body body) :
    (performRequest url request >>= fun body => lift (decoder body)) world =
      finish (decoder body) (world.logged request) := by
  have sent : performRequest url request world = .ok body (world.logged request) :=
    performRequest_of_ok (by rw [replied]; rfl)
  rw [bind_of_ok _ sent, run_lift]
  rfl

theorem after_performRequest_bind (url : Text) (request : Request)
    (decoder : Text → Outcome Result) (world : World) :
    after ((performRequest url request >>= fun body => lift (decoder body)) world) =
      world.logged request := by
  cases replied : (world.remote request).outcome url with
  | error fault =>
    rw [bind_of_error _ (performRequest_of_error replied)]
    rfl
  | ok body =>
    rw [bind_of_ok _ (performRequest_of_ok replied), run_lift]
    exact after_finish _ _

/-- A call that performs one request and decodes the reply sends that request. -/
theorem sends_performRequest_iff (url : Text) (request : Request)
    (decoder : Text → Outcome Result) (holds : Request → Prop) :
    Sends (performRequest url request >>= fun body => lift (decoder body)) holds ↔
      holds request := by
  constructor
  · intro sends
    refine sends ⟨fun _ => .body [], []⟩ request ?_
    rw [sentBy, after_performRequest_bind]
    exact List.mem_singleton_self request
  · intro isHeld world sent member
    rw [sentBy, after_performRequest_bind] at member
    suffices same : sent = request by rwa [same]
    unfold World.logged at member
    split at member
    · rw [List.drop_length] at member
      exact absurd member List.not_mem_nil
    · rw [List.drop_left] at member
      exact List.mem_singleton.mp member

end Sends

/-- The request `GetRequest` sends. -/
def getRequestOf (url token : Text) : Request where
  url := cString url
  token := cString token
  postFields := none

/-- `GetRequest`. -/
def getRequest (url token : Text) : EStateM Fault World Text :=
  performRequest url (getRequestOf url token)

/-- The body `GetCredentialsRequest` formats. -/
def credentialsBody (tableId : Text) : Text :=
  "\x7b\"table_id\" : \"".toList ++ tableId ++ "\", \"operation\" : \"READ\"\x7d".toList

/-- `GetCredentialsRequest`. -/
def getCredentialsRequest (url tableId token : Text) : EStateM Fault World Text :=
  performRequest url
    { url := cString url, token := cString token, postFields := some (credentialsBody tableId) }

/-! ### Fields of an object -/

/-- What `TemplatedTryGetYYJson` raises. -/
def invalidField (field : Text) : Exception :=
  ⟨.ioException, "Invalid field found while parsing field: ".toList ++ field⟩

/-- `TryGetStrFromObject`. -/
def tryGetStrFromObject (value : Option Json) (field : Text) (failOnMissing : Bool) :
    Except Exception Text :=
  match objGet value field with
  | some (.str text) => .ok (cString text)
  | _ => if failOnMissing then .error (invalidField field) else .ok []

/-- `TryGetNumFromObject`, always called with `fail_on_missing`. -/
def tryGetNumFromObject (value : Option Json) (field : Text) : Except Exception UInt64 :=
  match objGet value field with
  | some (.uint number) => .ok (getUint (.uint number))
  | some (.sint number) => .ok (getUint (.sint number))
  | some .real => .ok (getUint .real)
  | _ => .error (invalidField field)

def Json.IsNumber : Json → Prop
  | .uint _ | .sint _ | .real => True
  | _ => False

section Fields

variable {value : Option Json} {field : Text}

theorem tryGetStr_cString {text : Text} {failOnMissing : Bool}
    (present : objGet value field = some (.str text)) :
    tryGetStrFromObject value field failOnMissing = .ok (cString text) := by
  rw [tryGetStrFromObject, present]

theorem tryGetStr_of_str {text : Text} {failOnMissing : Bool}
    (present : objGet value field = some (.str text)) (plain : terminator ∉ text) :
    tryGetStrFromObject value field failOnMissing = .ok text := by
  rw [tryGetStr_cString present, cString_of_not_mem plain]

theorem tryGetStr_of_none (absent : objGet value field = none) :
    tryGetStrFromObject value field false = .ok [] := by
  rw [tryGetStrFromObject, absent]
  rfl

theorem tryGetStr_returns {text : Text} {failOnMissing : Bool}
    (present : objGet value field = some (.str text)) :
    ∃ found, tryGetStrFromObject value field failOnMissing = .ok found := by
  rw [tryGetStrFromObject, present]
  exact ⟨_, rfl⟩

theorem tryGetStr_optional (value : Option Json) (field : Text) :
    ∃ found, tryGetStrFromObject value field false = .ok found := by
  unfold tryGetStrFromObject
  split
  · exact ⟨_, rfl⟩
  · exact ⟨_, rfl⟩

theorem tryGetNum_of_uint {number : UInt64} (present : objGet value field = some (.uint number)) :
    tryGetNumFromObject value field = .ok number := by
  rw [tryGetNumFromObject, present]
  rfl

theorem tryGetNum_returns {number : Json} (present : objGet value field = some number)
    (isNumber : number.IsNumber) : ∃ found, tryGetNumFromObject value field = .ok found := by
  rw [tryGetNumFromObject, present]
  cases number with
  | uint | sint | real => exact ⟨_, rfl⟩
  | null | bool | str | arr | obj => exact isNumber.elim

end Fields

/-- A decoder that fails does so with an `IOException`. -/
def RaisesIoException {Result : Type} (outcome : Except Exception Result) : Prop :=
  ∀ exception, outcome = .error exception → exception.type = .ioException

section RaisesIoException

variable {First Second : Type}

theorem RaisesIoException.of_ok (value : First) : RaisesIoException (.ok value) := nofun

theorem RaisesIoException.bind {first : Except Exception First}
    {next : First → Except Exception Second} (raises : RaisesIoException first)
    (raisesNext : ∀ value, RaisesIoException (next value)) :
    RaisesIoException (first >>= next) := by
  intro exception failed
  rcases (Outcome.bind_eq_error first next exception).mp failed with early | ⟨value, _, late⟩
  · exact raises exception early
  · exact raisesNext value exception late

theorem RaisesIoException.mapM {child : First → Except Exception Second}
    (raises : ∀ element, RaisesIoException (child element)) (list : List First) :
    RaisesIoException (list.mapM child) := by
  intro exception failed
  obtain ⟨_, element, _, _, _, raised⟩ := (mapM_eq_error child list exception).mp failed
  exact raises element exception raised

theorem tryGetStr_raisesIoException (value : Option Json) (field : Text) (failOnMissing : Bool) :
    RaisesIoException (tryGetStrFromObject value field failOnMissing) := by
  unfold tryGetStrFromObject
  split
  · exact .of_ok _
  · split
    · rintro _ ⟨⟩
      rfl
    · exact .of_ok _

theorem tryGetNum_raisesIoException (value : Option Json) (field : Text) :
    RaisesIoException (tryGetNumFromObject value field) := by
  unfold tryGetNumFromObject
  split
  · exact .of_ok _
  · exact .of_ok _
  · exact .of_ok _
  · rintro _ ⟨⟩
    rfl

end RaisesIoException

/-! ### Replies -/

/-- `UCAPIColumnDefinition`. -/
structure APIColumnDefinition where
  name : Text
  typeText : Text
  precision : UInt64
  scale : UInt64
  position : UInt64

/-- `UCAPITable`, without the two fields that are never set or read. -/
structure APITable where
  tableId : Text
  name : Text
  catalogName : Text
  schemaName : Text
  tableType : Text
  dataSourceFormat : Text
  storageLocation : Text
  columns : List APIColumnDefinition

/-- `UCAPISchema`. -/
structure APISchema where
  schemaName : Text
  catalogName : Text

/-- `UCAPITableCredentials`. -/
structure APITableCredentials where
  keyId : Text
  secret : Text
  sessionToken : Text

/-- `ParseColumnDefinition`. -/
def parseColumnDefinition (columnDef : Json) : Except Exception APIColumnDefinition := do
  let name ← tryGetStrFromObject columnDef "name".toList true
  let typeText ← tryGetStrFromObject columnDef "type_text".toList true
  let precision ← tryGetNumFromObject columnDef "type_precision".toList
  let scale ← tryGetNumFromObject columnDef "type_scale".toList
  let position ← tryGetNumFromObject columnDef "position".toList
  return { name, typeText, precision, scale, position }

/-- One turn of the loop of `UCAPI::GetTables`. -/
def parseTable (catalog schema : Text) (table : Json) : Except Exception APITable := do
  let name ← tryGetStrFromObject table "name".toList true
  let tableType ← tryGetStrFromObject table "table_type".toList true
  let dataSourceFormat ← tryGetStrFromObject table "data_source_format".toList false
  let storageLocation ← tryGetStrFromObject table "storage_location".toList false
  let tableId ← tryGetStrFromObject table "table_id".toList true
  let columns ← (arrForeach (objGet table "columns".toList)).mapM parseColumnDefinition
  return { tableId, name, catalogName := catalog, schemaName := schema, tableType, dataSourceFormat,
           storageLocation, columns }

theorem parseColumnDefinition_raisesIoException (columnDef : Json) :
    RaisesIoException (parseColumnDefinition columnDef) :=
  (tryGetStr_raisesIoException _ _ _).bind fun _ =>
    (tryGetStr_raisesIoException _ _ _).bind fun _ =>
      (tryGetNum_raisesIoException _ _).bind fun _ =>
        (tryGetNum_raisesIoException _ _).bind fun _ =>
          (tryGetNum_raisesIoException _ _).bind fun _ => .of_ok _

theorem parseTable_raisesIoException (catalog schema : Text) (table : Json) :
    RaisesIoException (parseTable catalog schema table) :=
  (tryGetStr_raisesIoException _ _ _).bind fun _ =>
    (tryGetStr_raisesIoException _ _ _).bind fun _ =>
      (tryGetStr_raisesIoException _ _ _).bind fun _ =>
        (tryGetStr_raisesIoException _ _ _).bind fun _ =>
          (tryGetStr_raisesIoException _ _ _).bind fun _ =>
            (RaisesIoException.mapM parseColumnDefinition_raisesIoException _).bind fun _ =>
              .of_ok _

/-- The fields of a table are what the readers make of its members. -/
structure ParsedAs (catalog schema : Text) (table : Json) (data : APITable) : Prop where
  name : tryGetStrFromObject table "name".toList true = .ok data.name
  tableType : tryGetStrFromObject table "table_type".toList true = .ok data.tableType
  dataSourceFormat :
    tryGetStrFromObject table "data_source_format".toList false = .ok data.dataSourceFormat
  storageLocation :
    tryGetStrFromObject table "storage_location".toList false = .ok data.storageLocation
  tableId : tryGetStrFromObject table "table_id".toList true = .ok data.tableId
  columns : (arrForeach (objGet table "columns".toList)).mapM parseColumnDefinition =
    .ok data.columns
  catalogName : data.catalogName = catalog
  schemaName : data.schemaName = schema

theorem parsedAs_of_parseTable {catalog schema : Text} {table : Json} {data : APITable}
    (parsed : parseTable catalog schema table = .ok data) :
    ParsedAs catalog schema table data := by
  obtain ⟨name, readName, parsed⟩ := (Outcome.bind_eq_ok _ _ _).mp parsed
  obtain ⟨tableType, readType, parsed⟩ := (Outcome.bind_eq_ok _ _ _).mp parsed
  obtain ⟨format, readFormat, parsed⟩ := (Outcome.bind_eq_ok _ _ _).mp parsed
  obtain ⟨location, readLocation, parsed⟩ := (Outcome.bind_eq_ok _ _ _).mp parsed
  obtain ⟨tableId, readId, parsed⟩ := (Outcome.bind_eq_ok _ _ _).mp parsed
  obtain ⟨columns, readColumns, made⟩ := (Outcome.bind_eq_ok _ _ _).mp parsed
  cases made
  exact ⟨readName, readType, readFormat, readLocation, readId, readColumns, rfl, rfl⟩

/-- One turn of the loop of `UCAPI::GetSchemas`. The name is left empty when there is none, and
a name that is not a string is assigned as a null pointer. -/
def parseSchema (catalog : Text) (schema : Json) : Outcome APISchema :=
  match objGet schema "name".toList with
  | none => .ok { schemaName := [], catalogName := catalog }
  | some name =>
    match getStr name with
    | some text => .ok { schemaName := cString text, catalogName := catalog }
    | none => .error (.undefined .nullString)

/-! ### Calls of the API -/

section Libraries

variable (libraries : Libraries)

def tablesUrl (credentials : Credentials) (catalog schema : Text) : Text :=
  credentials.endpoint ++ "/api/2.1/unity-catalog/tables?catalog_name=".toList ++ catalog ++
    "&schema_name=".toList ++ schema

def schemasUrl (credentials : Credentials) (catalog : Text) : Text :=
  credentials.endpoint ++ "/api/2.1/unity-catalog/schemas?catalog_name=".toList ++ catalog

def credentialsUrl (credentials : Credentials) : Text :=
  credentials.endpoint ++ "/api/2.1/unity-catalog/temporary-table-credentials".toList

/-- The decoder of `UCAPI::GetTables`. -/
def decodeTables (catalog schema apiResult : Text) : Except Exception (List APITable) :=
  (arrForeach (objGet (libraries.yyjsonRead apiResult) "tables".toList)).mapM
    (parseTable catalog schema)

theorem decodeTables_raisesIoException (catalog schema apiResult : Text) :
    RaisesIoException (decodeTables libraries catalog schema apiResult) :=
  .mapM (parseTable_raisesIoException catalog schema) _

/-- `UCAPI::GetTables`. -/
def getTables (catalog schema : Text) (credentials : Credentials) :
    EStateM Fault World (List APITable) := do
  let apiResult ← getRequest (tablesUrl credentials catalog schema) credentials.token
  lift (Outcome.ofExcept (decodeTables libraries catalog schema apiResult))

theorem getTables_of_body {catalog schema body : Text} {credentials : Credentials} {world : World}
    (replied : world.remote (getRequestOf (tablesUrl credentials catalog schema)
      credentials.token) = .body body) :
    getTables libraries catalog schema credentials world =
      finish (Outcome.ofExcept (decodeTables libraries catalog schema body))
        (world.logged (getRequestOf (tablesUrl credentials catalog schema) credentials.token)) :=
  performRequest_bind_of_body _
    (fun body => Outcome.ofExcept (decodeTables libraries catalog schema body)) replied

/-- The decoder of `UCAPI::GetSchemas`. -/
def decodeSchemas (catalog apiResult : Text) : Outcome (List APISchema) :=
  (arrForeach (objGet (libraries.yyjsonRead apiResult) "schemas".toList)).mapM
    (parseSchema catalog)

/-- `UCAPI::GetSchemas`. -/
def getSchemas (catalog : Text) (credentials : Credentials) :
    EStateM Fault World (List APISchema) := do
  let apiResult ← getRequest (schemasUrl credentials catalog) credentials.token
  lift (decodeSchemas libraries catalog apiResult)

/-- The decoder of `UCAPI::GetTableCredentials`. The result keeps its empty strings when the
reply has no `aws_temp_credentials`. -/
def decodeTableCredentials (apiResult : Text) : Except Exception APITableCredentials :=
  match objGet (libraries.yyjsonRead apiResult) "aws_temp_credentials".toList with
  | none => .ok ⟨[], [], []⟩
  | some awsTempCredentials => do
    let keyId ← tryGetStrFromObject awsTempCredentials "access_key_id".toList true
    let secret ← tryGetStrFromObject awsTempCredentials "secret_access_key".toList true
    let sessionToken ← tryGetStrFromObject awsTempCredentials "session_token".toList true
    return { keyId, secret, sessionToken }

/-- `UCAPI::GetTableCredentials`. -/
def getTableCredentials (tableId : Text) (credentials : Credentials) :
    EStateM Fault World APITableCredentials := do
  let apiResult ← getCredentialsRequest (credentialsUrl credentials) tableId credentials.token
  lift (Outcome.ofExcept (decodeTableCredentials libraries apiResult))

end Libraries

/-- Libraries whose reader finds no JSON in any reply. -/
def silentLibraries : Libraries where
  castUInt8 := castPlainNumeral
  addColumn columns column := .ok (columns ++ [column])
  yyjsonRead _ := none

end UcCatalog
