/-
This file renames tokens. A catalog hands its token to curl and does nothing else
with it: when its token is another one, and the server takes that one as it took the
first, every operation ends as it did before, the same entries are cached, the same
secrets are installed for scans, and the requests that are sent differ in their
tokens only. So no answer, no message of an exception, no URL and no cached or stored
value has anything of a token in it.

Every member of a catalog is compared with itself on the renamed state (`Commutes`),
from the requests up to the operations.
-/

import Mathlib.Logic.Equiv.Basic
import UcCatalog.Operations
import UcCatalog.ScanFunction

namespace UcCatalog

open Stateful

/-! ### Renamings -/

/-- Other names for tokens. No token stays none, and what curl reads of a token, the text up to
the first terminator, is renamed with it. -/
structure TokenRenaming where
  rename : Equiv.Perm Text
  empty : rename [] = []
  read : ∀ token, cString (rename token) = rename (cString token)

/-! ### Two tokens in place of each other -/

/-- What stands behind the text that curl reads. -/
def behindCString (token : Text) : Text := token.dropWhile fun char => char ≠ terminator

theorem cString_append_behind (token : Text) : cString token ++ behindCString token = token :=
  List.takeWhile_append_dropWhile

theorem cString_noTerminator (token : Text) : terminator ∉ cString token := fun member =>
  of_decide_eq_true (@List.mem_takeWhile_imp _ (fun char => char ≠ terminator) _ _ member) rfl

theorem cString_cString (token : Text) : cString (cString token) = cString token :=
  cString_of_not_mem (cString_noTerminator token)

theorem behindCString_cString (token : Text) : behindCString (cString token) = [] := by
  have whole := cString_append_behind (cString token)
  rw [cString_cString] at whole
  exact List.append_cancel_left (whole.trans (List.append_nil _).symm)

/-- Another text in front of what curl does not read is what curl reads then. -/
theorem cString_append_of_plain {front : Text} (plain : terminator ∉ front) (token : Text) :
    cString (front ++ behindCString token) = front := by
  have reads : ∀ char ∈ front, decide (char ≠ terminator) = true := fun char member =>
    decide_eq_true fun same => plain (same ▸ member)
  have nothing : cString (behindCString token) = [] := by
    unfold cString behindCString
    rw [List.takeWhile_eq_nil_iff]
    exact fun inside => List.dropWhile_get_zero_not _ token inside
  rw [cString, List.takeWhile_append_of_pos reads]
  exact (congrArg (front ++ ·) nothing).trans (List.append_nil front)

/-- A token with one text for the other in what curl reads of it. -/
def swapTokens (first second token : Text) : Text :=
  Equiv.swap first second (cString token) ++ behindCString token

section Swap

variable {first second : Text} (plainFirst : terminator ∉ first) (plainSecond : terminator ∉ second)

include plainFirst plainSecond

theorem cString_swapTokens (token : Text) :
    cString (swapTokens first second token) = Equiv.swap first second (cString token) := by
  refine cString_append_of_plain ?_ token
  rw [Equiv.swap_apply_def]
  split_ifs
  · exact plainSecond
  · exact plainFirst
  · exact cString_noTerminator token

theorem swapTokens_swapTokens (token : Text) :
    swapTokens first second (swapTokens first second token) = token := by
  have read := cString_swapTokens plainFirst plainSecond token
  have behind : behindCString (swapTokens first second token) = behindCString token := by
    have whole := cString_append_behind (swapTokens first second token)
    rw [read] at whole
    exact List.append_cancel_left whole
  rw [swapTokens, read, behind, Equiv.swap_apply_self, cString_append_behind]

theorem cString_swapTokens_eq (token : Text) :
    cString (swapTokens first second token) = swapTokens first second (cString token) := by
  rw [cString_swapTokens plainFirst plainSecond, swapTokens, cString_cString,
    behindCString_cString, List.append_nil]

end Swap

/-- Two tokens in place of each other. -/
def TokenRenaming.swap (first second : { token : Text // terminator ∉ token ∧ token ≠ [] }) :
    TokenRenaming where
  rename := Function.Involutive.toPerm (swapTokens first second)
    (swapTokens_swapTokens first.2.1 second.2.1)
  empty := by
    show Equiv.swap first.1 second.1 [] ++ [] = []
    rw [Equiv.swap_apply_of_ne_of_ne first.2.2.symm second.2.2.symm]
    rfl
  read := cString_swapTokens_eq first.2.1 second.2.1

theorem TokenRenaming.rename_swap
    (first second : { token : Text // terminator ∉ token ∧ token ≠ [] }) :
    (TokenRenaming.swap first second).rename first.1 = second.1 := by
  have plain := cString_of_not_mem first.2.1
  have ends : behindCString first.1 = [] := plain ▸ behindCString_cString first.1
  show Equiv.swap first.1 second.1 (cString first.1) ++ behindCString first.1 = second.1
  rw [plain, ends, Equiv.swap_apply_left, List.append_nil]

/-! ### What is renamed -/

section Renaming

variable (tokens : TokenRenaming)

def Request.renamed (rename : Equiv.Perm Text) (request : Request) : Request :=
  { request with token := rename request.token }

/-- A server that takes the new tokens as the old ones were taken, and the log with new tokens. -/
def World.renamed (world : World) : World where
  remote request := world.remote (request.renamed tokens.rename.symm)
  sent := world.sent.map (Request.renamed tokens.rename)

def Credentials.renamed (credentials : Credentials) : Credentials :=
  { credentials with token := tokens.rename credentials.token }

def SetState.renamed {Entry : Type} (state : SetState Entry) : SetState Entry :=
  { state with world := state.world.renamed tokens }

def Loader.renamed {Item Entry : Type} (loader : Loader Item Entry) : Loader Item Entry :=
  { loader with token := tokens.rename loader.token }

def Catalog.renamed (catalog : Catalog) : Catalog :=
  { catalog with credentials := catalog.credentials.renamed tokens }

def CatalogState.renamed (state : CatalogState) : CatalogState :=
  { state with world := state.world.renamed tokens, catalog := state.catalog.renamed tokens }

/-- Scans see secrets with new tokens, too. -/
def ScanState.renamed {Secrets : Type} (rename : Secrets → Secrets) (state : ScanState Secrets) :
    ScanState Secrets where
  world := state.world.renamed tokens
  secrets := rename state.secrets

/-- The same operation, with a change to a server that takes the new tokens. -/
def Op.renamed : Op → Op
  | .serverChange remote =>
    .serverChange fun request => remote (request.renamed tokens.rename.symm)
  | op => op

/-! ### Requests -/

theorem Request.renamed_symm (rename : Equiv.Perm Text) (request : Request) :
    (request.renamed rename).renamed rename.symm = request := by
  unfold renamed
  rw [Equiv.symm_apply_apply]

variable {tokens}

theorem commutes_performRequest (url : Text) (request : Request) :
    Commutes (World.renamed tokens) (performRequest url request)
      (performRequest url (request.renamed tokens.rename)) := by
  refine .get_bind fun world => ?_
  have same : (world.renamed tokens).remote (request.renamed tokens.rename) =
      world.remote request :=
    congrArg world.remote (Request.renamed_symm tokens.rename request)
  rw [same]
  refine .bind (.modify fun world => ?_) fun _ => .lift _
  unfold World.logged World.renamed
  dsimp only
  rw [Request.renamed_symm]
  cases world.remote request with
  | initFailed => rfl
  | failed | body => simp only [List.map_append, List.map_singleton]

theorem commutes_getRequest (url token : Text) :
    Commutes (World.renamed tokens) (getRequest url token)
      (getRequest url (tokens.rename token)) := by
  have same : getRequestOf url (tokens.rename token) =
      (getRequestOf url token).renamed tokens.rename := by
    unfold getRequestOf Request.renamed
    rw [tokens.read]
  rw [getRequest, getRequest, same]
  exact commutes_performRequest url _

theorem commutes_getTableCredentials (libraries : Libraries) (tableId : Text)
    (credentials : Credentials) :
    Commutes (World.renamed tokens) (getTableCredentials libraries tableId credentials)
      (getTableCredentials libraries tableId (credentials.renamed tokens)) := by
  have same : credentialsRequest tableId (credentials.renamed tokens) =
      (credentialsRequest tableId credentials).renamed tokens.rename := by
    unfold credentialsRequest Credentials.renamed Request.renamed
    rw [tokens.read]
    rfl
  refine .bind ?_ fun _ => .lift _
  show Commutes _ _ (performRequest _ (credentialsRequest tableId (credentials.renamed tokens)))
  rw [same]
  exact commutes_performRequest _ _

/-! ### Sets of entries -/

section Set

variable {Item Entry : Type} [CatalogEntry Entry]

theorem commutes_createEntry (entry : Entry) :
    Commutes (SetState.renamed tokens) (createEntry entry) (createEntry entry) := by
  unfold createEntry
  split
  · exact .throw _
  · exact .bind (.modify fun _ => rfl) fun _ => .pure _

theorem commutes_loadEntries (loader : Loader Item Entry) :
    Commutes (SetState.renamed tokens) loader.loadEntries
      (loader.renamed tokens).loadEntries := by
  refine .bind (.zoom (.bind (commutes_getRequest loader.url loader.token) fun _ => .lift _)
    (fun _ => rfl) fun _ _ => rfl) fun items => ?_
  exact .forM (fun item => .bind (.lift (loader.build item)) fun _ =>
    .bind (commutes_createEntry _) fun _ => .pure _) items

variable {loadEntries otherLoad : EStateM Fault (SetState Entry) Unit}
variable (commutes : Commutes (SetState.renamed tokens) loadEntries otherLoad)

include commutes

omit [CatalogEntry Entry] in
theorem commutes_ensureLoaded :
    Commutes (SetState.renamed tokens) (ensureLoaded loadEntries) (ensureLoaded otherLoad) := by
  refine .get_bind fun state => ?_
  show Commutes _ _ (if state.set.isLoaded = false then _ else _)
  split
  · exact .bind (.modify fun _ => rfl) fun _ => commutes
  · exact .pure _

omit [CatalogEntry Entry] in
theorem commutes_getEntry (name : Text) :
    Commutes (SetState.renamed tokens) (CatalogSet.getEntry loadEntries name)
      (CatalogSet.getEntry otherLoad name) :=
  .bind (commutes_ensureLoaded commutes) fun _ => .get_bind fun _ => .pure _

omit [CatalogEntry Entry] in
theorem commutes_scan :
    Commutes (SetState.renamed tokens) (CatalogSet.scan loadEntries)
      (CatalogSet.scan otherLoad) :=
  .bind (commutes_ensureLoaded commutes) fun _ => .get_bind fun _ => .pure _

end Set

/-! ### Members of a schema -/

section Schema

variable {loadEntries otherLoad : EStateM Fault (SetState TableEntry) Unit}

theorem commutes_getCatalogSet (type : CatalogType) :
    Commutes (SetState.renamed tokens) (getCatalogSet type) (getCatalogSet type) := by
  cases type with
  | tableEntry | viewEntry => exact .pure _
  | indexEntry | schemaEntry | other => exact .throw _

theorem commutes_schemaGetEntry
    (commutes : Commutes (SetState.renamed tokens) loadEntries otherLoad)
    (type : CatalogType) (name : Text) :
    Commutes (SetState.renamed tokens) (schemaGetEntry loadEntries type name)
      (schemaGetEntry otherLoad type name) := by
  unfold schemaGetEntry
  split
  · exact .pure _
  · exact .bind (commutes_getCatalogSet type) fun _ => commutes_getEntry commutes name

theorem commutes_schemaScan (commutes : Commutes (SetState.renamed tokens) loadEntries otherLoad)
    (type : CatalogType) :
    Commutes (SetState.renamed tokens) (schemaScan loadEntries type)
      (schemaScan otherLoad type) := by
  unfold schemaScan
  split
  · exact .pure _
  · exact .bind (commutes_getCatalogSet type) fun _ => commutes_scan commutes

theorem commutes_schemaCreateView
    (commutes : Commutes (SetState.renamed tokens) loadEntries otherLoad)
    (schemaInternal hasTransaction : Bool) (info : CreateViewInfo) :
    Commutes (SetState.renamed tokens)
      (schemaCreateView loadEntries schemaInternal hasTransaction info)
      (schemaCreateView otherLoad schemaInternal hasTransaction info) := by
  have transaction : Commutes (SetState.renamed tokens) (getUCTransaction hasTransaction)
      (getUCTransaction hasTransaction) := by
    unfold getUCTransaction
    split
    · exact .pure _
    · exact .throw _
  have create : Commutes (SetState.renamed tokens)
      (getUCTransaction hasTransaction >>= fun _ => refreshTable schemaInternal info.viewName)
      (getUCTransaction hasTransaction >>= fun _ => refreshTable schemaInternal info.viewName) :=
    .bind transaction fun _ => .bind (.lift _) fun _ => commutes_createEntry _
  unfold schemaCreateView
  split
  · exact .throw _
  · show Commutes _ (if _ then _ else _) (if _ then _ else _)
    split
    · refine .bind (commutes_schemaGetEntry commutes _ _) fun found => ?_
      cases found with
      | none => exact create
      | some entry =>
        show Commutes _ (if _ then _ else _) (if _ then _ else _)
        split
        · exact .pure _
        · exact .throw _
    · exact create

theorem commutes_schemaCreateTable (onConflict : OnCreateConflict) :
    Commutes (SetState.renamed tokens) (schemaCreateTable onConflict)
      (schemaCreateTable onConflict) := by
  unfold schemaCreateTable
  split
  · exact .throw _
  · exact .throw _

theorem commutes_schemaAlter (isAlterTable : Bool) :
    Commutes (SetState.renamed tokens) (schemaAlter isAlterTable) (schemaAlter isAlterTable) := by
  unfold schemaAlter
  split
  · exact .throw _
  · exact .throw _

theorem commutes_schemaDropEntry (type : CatalogType) :
    Commutes (SetState.renamed tokens) (schemaDropEntry type) (schemaDropEntry type) :=
  .bind (commutes_getCatalogSet type) fun _ => .throw _

end Schema

/-! ### Operations -/

section Operations

variable {Value : Type} {libraries : Libraries}

theorem commutes_loadSchemas (catalog : Catalog) :
    Commutes (SetState.renamed tokens) (catalog.loadSchemas libraries)
      ((catalog.renamed tokens).loadSchemas libraries) :=
  commutes_loadEntries (schemaLoader libraries catalog.name catalog.credentials)

theorem commutes_loadTables (catalog : Catalog) (schema : SchemaEntry) :
    Commutes (SetState.renamed tokens) (catalog.loadTables libraries schema)
      ((catalog.renamed tokens).loadTables libraries schema) :=
  commutes_loadEntries (tableLoader libraries catalog.internalName catalog.credentials schema.name
    schema.internal)

theorem commutes_onSchemas {program other : EStateM Fault (SetState SchemaEntry) Value}
    (commutes : Commutes (SetState.renamed tokens) program other) :
    Commutes (CatalogState.renamed tokens) (onSchemas program) (onSchemas other) :=
  commutes.zoom (fun _ => rfl) fun _ _ => rfl

theorem commutes_onSchema (handle : SchemaHandle)
    {program other : SchemaEntry → EStateM Fault (SetState TableEntry) Value}
    (commutes : ∀ schema, Commutes (SetState.renamed tokens) (program schema) (other schema)) :
    Commutes (CatalogState.renamed tokens) (onSchema handle program) (onSchema handle other) := by
  refine .get_bind fun state => ?_
  have same : (state.renamed tokens).resolve handle = state.resolve handle := rfl
  rw [same]
  cases state.resolve handle with
  | none => exact .throw _
  | some schema => exact (commutes schema).zoom (fun _ => rfl) fun _ _ => rfl

theorem commutes_getSchemaNamed (schemaName : Text) (ifNotFound : OnEntryNotFound) :
    Commutes (CatalogState.renamed tokens) (getSchemaNamed libraries schemaName ifNotFound)
      (getSchemaNamed libraries schemaName ifNotFound) := by
  refine .get_bind fun state => .bind (commutes_onSchemas
    (commutes_getEntry (commutes_loadSchemas state.catalog) schemaName)) fun found => ?_
  cases found with
  | some schema => exact .get_bind fun _ => .pure _
  | none =>
    show Commutes _ (if _ then _ else _) (if _ then _ else _)
    split
    · exact .pure _
    · exact .throw _

theorem commutes_getSchema (schemaName : Text) (ifNotFound : OnEntryNotFound) :
    Commutes (CatalogState.renamed tokens) (getSchema libraries schemaName ifNotFound)
      (getSchema libraries schemaName ifNotFound) := by
  unfold getSchema
  split
  · refine .get_bind fun state => ?_
    show Commutes _ (if state.catalog.defaultSchema = [] then _ else _)
      (if state.catalog.defaultSchema = [] then _ else _)
    split
    · exact .throw _
    · show Commutes _ (if state.catalog.defaultSchema = defaultSchemaName then _ else _)
        (if state.catalog.defaultSchema = defaultSchemaName then _ else _)
      split
      · exact .throw _
      · exact commutes_getSchemaNamed _ _
  · exact commutes_getSchemaNamed _ _

theorem commutes_createSchema (onConflict : OnCreateConflict) :
    Commutes (CatalogState.renamed tokens) (createSchema onConflict) (createSchema onConflict) := by
  unfold createSchema
  split
  · exact .bind (commutes_onSchemas (.throw _)) fun _ => commutes_onSchemas (.throw _)
  · exact commutes_onSchemas (.throw _)

/-- An operation does on the renamed catalog what it does on the catalog. -/
theorem commutes_run (op : Op) :
    Commutes (CatalogState.renamed tokens) (op.run libraries)
      ((op.renamed tokens).run libraries) := by
  cases op with
  | getSchema schemaName ifNotFound => exact .bind (commutes_getSchema _ _) fun _ => .pure _
  | scanSchemas =>
    exact .bind (.get_bind fun state => .bind (commutes_onSchemas
      (commutes_scan (commutes_loadSchemas state.catalog))) fun _ => .get_bind fun _ => .pure _)
        fun _ => .pure _
  | createSchema onConflict => exact .bind (commutes_createSchema onConflict) fun _ => .pure _
  | dropSchema => exact .bind (commutes_onSchemas (.throw _)) fun _ => .pure _
  | clearCache => exact .bind (.modify fun _ => rfl) fun _ => .pure _
  | getEntry handle type name =>
    exact .get_bind fun state => .bind (commutes_onSchema handle fun schema =>
      commutes_schemaGetEntry (commutes_loadTables state.catalog schema) type name) fun _ => .pure _
  | scan handle type =>
    exact .get_bind fun state => .bind (commutes_onSchema handle fun schema =>
      commutes_schemaScan (commutes_loadTables state.catalog schema) type) fun _ => .pure _
  | createTable handle onConflict =>
    exact .bind (commutes_onSchema handle fun _ => commutes_schemaCreateTable onConflict)
      fun _ => .pure _
  | createView handle hasTransaction info =>
    exact .get_bind fun state => .bind (commutes_onSchema handle fun schema =>
      commutes_schemaCreateView (commutes_loadTables state.catalog schema) schema.internal
        hasTransaction info) fun _ => .pure _
  | createRejected handle kind => exact commutes_onSchema handle fun _ => .throw _
  | alter handle isAlterTable =>
    exact .bind (commutes_onSchema handle fun _ => commutes_schemaAlter isAlterTable)
      fun _ => .pure _
  | dropEntry handle type =>
    exact .bind (commutes_onSchema handle fun _ => commutes_schemaDropEntry type) fun _ => .pure _
  | serverChange remote => exact .bind (.modify fun _ => rfl) fun _ => .pure _

end Operations

/-! ### Scans -/

/-- Secrets with other tokens serve a scan alike: the secret it creates has no token, and the bind
of `delta_scan` reads none. -/
structure ScanLibraries.Ignores {Secrets BindData : Type}
    (scanLibraries : ScanLibraries Secrets BindData) (rename : Secrets → Secrets) : Prop where
  creates : ∀ secrets table given credentials,
    scanLibraries.manager.createSecret (rename secrets) (tableSecret table given credentials) =
      (scanLibraries.manager.createSecret secrets (tableSecret table given credentials)).map rename
  binds : ∀ secrets location,
    scanLibraries.bind (rename secrets) location = scanLibraries.bind secrets location

theorem ofExcept_map {First Second : Type} (change : First → Second)
    (result : Except Exception First) :
    Outcome.ofExcept (result.map change) = (Outcome.ofExcept result).map change := by
  cases result <;> rfl

/-- A scan ends as it does with the other token, and installs the same secret. -/
theorem commutes_getScanFunction {Secrets BindData : Type}
    {scanLibraries : ScanLibraries Secrets BindData} {rename : Secrets → Secrets}
    (ignores : scanLibraries.Ignores rename) (entry : TableEntry) (credentials : Credentials) :
    Commutes (ScanState.renamed tokens rename) (getScanFunction scanLibraries entry credentials)
      (getScanFunction scanLibraries entry (credentials.renamed tokens)) := by
  have inject (table : APITable) : Commutes (ScanState.renamed tokens rename)
      (injectSecret scanLibraries table credentials)
      (injectSecret scanLibraries table (credentials.renamed tokens)) := by
    refine .bind ((commutes_getTableCredentials _ _ credentials).zoom (fun _ => rfl)
      fun _ _ => rfl) fun given => .get_bind fun state => ?_
    have created := ignores.creates state.secrets table given credentials
    show Commutes _ _ (lift (Outcome.ofExcept (scanLibraries.manager.createSecret
      (rename state.secrets) (tableSecret table given credentials))) >>= _)
    rw [created, ofExcept_map]
    exact .lift_bind fun _ => .modify fun _ => rfl
  have bound (location : Text) : Commutes (ScanState.renamed tokens rename)
      (do lift (Outcome.ofExcept (scanLibraries.bind (← get).secrets location)))
      (do lift (Outcome.ofExcept (scanLibraries.bind (← get).secrets location))) := by
    refine .get_bind fun state => ?_
    show Commutes _ _ (lift (Outcome.ofExcept (scanLibraries.bind (rename state.secrets) location)))
    rw [ignores.binds]
    exact .lift _
  refine .bind (.lift _) fun _ => ?_
  cases entry.tableData with
  | none => exact .throw _
  | some table =>
    show Commutes _ (if _ then _ else _) (if _ then _ else _)
    split
    · exact .throw _
    · show Commutes _ (if _ then _ else _) (if _ then _ else _)
      split
      · exact .bind (inject table) fun _ => bound table.storageLocation
      · exact bound table.storageLocation

end Renaming

end UcCatalog
