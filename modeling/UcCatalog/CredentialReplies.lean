/-
This file decides on which replies to the request for credentials a scan does
what it should with the secret of its table: install the credentials of the
reply, or raise before it comes to the secret manager.

Inside `aws_temp_credentials` every string is mandatory, and one that is missing
raises. The object itself is not: without it the credentials stay the empty
strings they are constructed as, and `GetScanFunction` installs them over what
the table had. A string with a zero in it is installed up to there.
-/

import UcCatalog.InstalledSecrets
import UcCatalog.TableReplies

namespace UcCatalog

open Stateful

/-! ### The credentials of a reply -/

def awsTempCredentials (root : Option Json) : Option Json :=
  objGet root "aws_temp_credentials".toList

/-- The three strings of the object under `aws_temp_credentials`. -/
structure GivesCredentials (root : Option Json) (given : APITableCredentials) : Prop where
  keyId : objGet (awsTempCredentials root) "access_key_id".toList = some (.str given.keyId)
  secret : objGet (awsTempCredentials root) "secret_access_key".toList = some (.str given.secret)
  sessionToken : objGet (awsTempCredentials root) "session_token".toList =
    some (.str given.sessionToken)

/-- The credentials as C strings. -/
def APITableCredentials.cStrings (given : APITableCredentials) : APITableCredentials where
  keyId := cString given.keyId
  secret := cString given.secret
  sessionToken := cString given.sessionToken

/-- No string of the credentials has a zero in it. -/
structure APITableCredentials.Plain (given : APITableCredentials) : Prop where
  keyId : terminator ∉ given.keyId
  secret : terminator ∉ given.secret
  sessionToken : terminator ∉ given.sessionToken

theorem not_mem_of_cString {text : Text} (same : cString text = text) : terminator ∉ text := by
  intro member
  have kept := List.takeWhile_eq_self_iff.mp same terminator member
  exact of_decide_eq_true kept rfl

theorem APITableCredentials.cStrings_eq_iff (given : APITableCredentials) :
    given.cStrings = given ↔ given.Plain := by
  constructor
  · intro same
    exact ⟨not_mem_of_cString (congrArg keyId same), not_mem_of_cString (congrArg secret same),
      not_mem_of_cString (congrArg sessionToken same)⟩
  · intro plain
    rw [cStrings, cString_of_not_mem plain.keyId, cString_of_not_mem plain.secret,
      cString_of_not_mem plain.sessionToken]

theorem GivesCredentials.present {root : Option Json} {given : APITableCredentials}
    (gives : GivesCredentials root given) : awsTempCredentials root ≠ none := by
  intro absent
  have found := gives.keyId
  rw [absent] at found
  exact nomatch found

theorem GivesCredentials.unique {root : Option Json} {given other : APITableCredentials}
    (gives : GivesCredentials root given) (givesOther : GivesCredentials root other) :
    given = other := by
  obtain ⟨keyId, secret, sessionToken⟩ := given
  obtain ⟨otherKeyId, otherSecret, otherSessionToken⟩ := other
  cases gives.keyId.symm.trans givesOther.keyId
  cases gives.secret.symm.trans givesOther.secret
  cases gives.sessionToken.symm.trans givesOther.sessionToken
  rfl

/-! ### Decoding them -/

section Decoding

variable {libraries : Libraries} {body : Text}

theorem decodeTableCredentials_of_none
    (absent : awsTempCredentials (libraries.yyjsonRead body) = none) :
    decodeTableCredentials libraries body = .ok ⟨[], [], []⟩ := by
  rw [awsTempCredentials] at absent
  rw [decodeTableCredentials, absent]

theorem decodeTableCredentials_of_gives {given : APITableCredentials}
    (gives : GivesCredentials (libraries.yyjsonRead body) given) :
    decodeTableCredentials libraries body = .ok given.cStrings := by
  obtain ⟨object, found⟩ := Option.ne_none_iff_exists'.mp gives.present
  obtain ⟨keyId, secret, sessionToken⟩ := gives
  rw [found] at keyId secret sessionToken
  rw [awsTempCredentials] at found
  rw [decodeTableCredentials, found]
  simp only [tryGetStr_cString keyId, tryGetStr_cString secret, tryGetStr_cString sessionToken]
  rfl

/-- An object that lacks one of the strings is refused. -/
theorem decodeTableCredentials_of_lacking
    (present : awsTempCredentials (libraries.yyjsonRead body) ≠ none)
    (lacking : ∀ given, ¬ GivesCredentials (libraries.yyjsonRead body) given) :
    ∃ exception, decodeTableCredentials libraries body = .error exception := by
  cases decoded : decodeTableCredentials libraries body with
  | error exception => exact ⟨exception, rfl⟩
  | ok tableCredentials =>
    obtain ⟨object, found⟩ := Option.ne_none_iff_exists'.mp present
    have read := found
    rw [awsTempCredentials] at read
    rw [decodeTableCredentials, read] at decoded
    obtain ⟨_, gotKeyId, rest⟩ := (Outcome.bind_eq_ok _ _ _).mp decoded
    obtain ⟨_, gotSecret, rest⟩ := (Outcome.bind_eq_ok _ _ _).mp rest
    obtain ⟨_, gotToken, _⟩ := (Outcome.bind_eq_ok _ _ _).mp rest
    obtain ⟨keyId, hasKeyId, _⟩ := tryGetStr_eq_ok gotKeyId
    obtain ⟨secret, hasSecret, _⟩ := tryGetStr_eq_ok gotSecret
    obtain ⟨sessionToken, hasToken, _⟩ := tryGetStr_eq_ok gotToken
    rw [← found] at hasKeyId hasSecret hasToken
    exact absurd ⟨hasKeyId, hasSecret, hasToken⟩ (lacking ⟨keyId, secret, sessionToken⟩)

end Decoding

/-! ### What a scan does with the secret of its table -/

section Scan

variable {Secrets BindData : Type} (scanLibraries : ScanLibraries Secrets BindData)

/-- The call raises while it fetches credentials, and leaves the secrets as they were. -/
def RaisesBefore (entry : TableEntry) (table : APITable) (credentials : Credentials)
    (state : ScanState Secrets) : Prop :=
  ∃ fault final, getScanFunction scanLibraries entry credentials state = .error fault final ∧
    final.secrets = state.secrets ∧
    getTableCredentials scanLibraries.libraries table.tableId credentials state.world =
      .error fault final.world

/-- The call replaces the secret of the table by the credentials of the reply. -/
def InstallsGiven (entry : TableEntry) (table : APITable) (credentials : Credentials)
    (state : ScanState Secrets) (root : Option Json) : Prop :=
  ∃ given, GivesCredentials root given ∧
    scanLibraries.manager.createSecret state.secrets (tableSecret table given credentials) =
      .ok (after (getScanFunction scanLibraries entry credentials state)).secrets

/-- The secret of a table tells its credentials. -/
theorem tableSecret_injective {table : APITable} {credentials : Credentials}
    {one other : APITableCredentials}
    (same : tableSecret table one credentials = tableSecret table other credentials) :
    one = other := by
  obtain ⟨keyId, options⟩ := List.cons.inj (congrArg Secret.options same)
  obtain ⟨secret, options⟩ := List.cons.inj options
  obtain ⟨sessionToken, _⟩ := List.cons.inj options
  cases one
  cases other
  congr
  · exact (Prod.mk.inj keyId).2
  · exact (Prod.mk.inj secret).2
  · exact (Prod.mk.inj sessionToken).2

/-- Two secrets of one name that lead to the same secrets are the same. -/
theorem createSecret_injective {manager : SecretManager Secrets} (documented : manager.Documented)
    {secrets next : Secrets} {one other : Secret} (sameName : one.name = other.name)
    (created : manager.createSecret secrets one = .ok next)
    (createdOther : manager.createSecret secrets other = .ok next) : one = other := by
  obtain ⟨first, made, stored⟩ := documented.replaces secrets one
  obtain ⟨second, madeOther, storedOther⟩ := documented.replaces secrets other
  rw [Except.ok.inj (made.symm.trans created)] at stored
  rw [Except.ok.inj (madeOther.symm.trans createdOther)] at storedOther
  have kept : one ∈ manager.stored next := (stored one).mpr (Or.inl rfl)
  rcases (storedOther one).mp kept with same | ⟨_, differ⟩
  · exact same
  · exact absurd (congrArg lower sameName) differ

variable {scanLibraries}

/-- A scan sets the secret of its table from real credentials exactly when the reply has an object
under `aws_temp_credentials`, without a zero in its three strings if it has them. -/
theorem setsRealCredentials_iff (documented : scanLibraries.manager.Documented)
    (delta : scanLibraries.deltaScan = .ok ⟨⟩) {entry : TableEntry} {table : APITable}
    (present : entry.tableData = some table) (format : table.dataSourceFormat = "DELTA".toList)
    (distant : ¬ "file://".toList <+: table.storageLocation) {credentials : Credentials}
    {state : ScanState Secrets} {body : Text}
    (replied : state.world.remote (credentialsRequest table.tableId credentials) = .body body) :
    RaisesBefore scanLibraries entry table credentials state ∨
        InstallsGiven scanLibraries entry table credentials state
          (scanLibraries.libraries.yyjsonRead body) ↔
      awsTempCredentials (scanLibraries.libraries.yyjsonRead body) ≠ none ∧
        ∀ given, GivesCredentials (scanLibraries.libraries.yyjsonRead body) given →
          given.Plain := by
  -- What is decoded is installed.
  have installs {decodedCredentials : APITableCredentials}
      (decoded : decodeTableCredentials scanLibraries.libraries body = .ok decodedCredentials) :
      ¬ RaisesBefore scanLibraries entry table credentials state ∧
        scanLibraries.manager.createSecret state.secrets
          (tableSecret table decodedCredentials credentials) =
          .ok (after (getScanFunction scanLibraries entry credentials state)).secrets := by
    have grants : Grants scanLibraries state.world table.tableId credentials decodedCredentials :=
      ⟨body, replied, decoded⟩
    obtain ⟨next, created, _⟩ := documented.replaces state.secrets
      (tableSecret table decodedCredentials credentials)
    refine ⟨?_, ?_⟩
    · rintro ⟨fault, final, _, _, refused⟩
      exact nomatch refused.symm.trans (getTableCredentials_of_grants grants)
    · rw [after_getScanFunction delta present format distant grants created, created]
  constructor
  · intro sets
    refine ⟨fun absent => ?_, fun given gives => ?_⟩
    · rcases sets with raises | ⟨given, gives, _⟩
      · exact (installs (decodeTableCredentials_of_none absent)).1 raises
      · exact gives.present absent
    · obtain ⟨notBefore, created⟩ := installs (decodeTableCredentials_of_gives gives)
      obtain ⟨other, givesOther, createdOther⟩ := sets.resolve_left notBefore
      cases gives.unique givesOther
      rw [← given.cStrings_eq_iff]
      exact tableSecret_injective (createSecret_injective documented rfl created createdOther)
  · rintro ⟨inReply, plain⟩
    by_cases gives : ∃ given, GivesCredentials (scanLibraries.libraries.yyjsonRead body) given
    · obtain ⟨given, gives⟩ := gives
      have created := (installs (decodeTableCredentials_of_gives gives)).2
      rw [given.cStrings_eq_iff.mpr (plain given gives)] at created
      exact Or.inr ⟨given, gives, created⟩
    · obtain ⟨exception, undecoded⟩ :=
        decodeTableCredentials_of_lacking inReply (not_exists.mp gives)
      have refused := getTableCredentials_of_body scanLibraries.libraries replied
      rw [undecoded] at refused
      exact Or.inl ⟨_, _, getScanFunction_of_refused delta present format distant refused, rfl,
        refused⟩

end Scan

def grantBody : Text :=
  ["\x7b\"aws_temp_credentials\":\x7b", "\"access_key_id\":\"k\",", "\"secret_access_key\":\"s\",",
    "\"session_token\":\"t\"\x7d\x7d"].flatMap String.toList

def grantReply : Json :=
  .obj [("aws_temp_credentials".toList, .obj [("access_key_id".toList, .str "k".toList),
    ("secret_access_key".toList, .str "s".toList), ("session_token".toList, .str "t".toList)])]

def deniedBody : Text := "\x7b\"error_code\":\"DENIED\"\x7d".toList

/-- A server that grants credentials or denies them. -/
def grantOrDenyLibraries : ScanLibraries (List Secret) Unit where
  libraries :=
    { castUInt8 := castPlainNumeral
      addColumn := fun columns column => .ok (columns ++ [column])
      yyjsonRead := fun body =>
        if body = grantBody then some grantReply
        else if body = deniedBody then some (.obj [("error_code".toList, .str "DENIED".toList)])
        else none }
  manager := listManager
  deltaScan := .ok ⟨⟩
  bind _ _ := .ok ()

theorem setsRealCredentials_granted :
    let entry : TableEntry := ⟨"t".toList, [], some (twoTables false), false⟩
    let state : ScanState (List Secret) := ⟨⟨fun _ => .body grantBody, []⟩, []⟩
    RaisesBefore grantOrDenyLibraries entry (twoTables false) ⟨[], [], []⟩ state ∨
      InstallsGiven grantOrDenyLibraries entry (twoTables false) ⟨[], [], []⟩ state
        (grantOrDenyLibraries.libraries.yyjsonRead grantBody) := by
  intro entry state
  have read : grantOrDenyLibraries.libraries.yyjsonRead grantBody = some grantReply := by
    simp only [grantOrDenyLibraries, if_true]
  refine (setsRealCredentials_iff listManager_documented rfl rfl rfl (by decide) rfl).mpr
    ⟨?_, fun given gives => ?_⟩
  · rw [read]
    exact Option.some_ne_none _
  · rw [read] at gives
    have known : GivesCredentials (some grantReply) ⟨"k".toList, "s".toList, "t".toList⟩ :=
      ⟨rfl, rfl, rfl⟩
    cases gives.unique known
    exact ⟨by decide, by decide, by decide⟩

/-- A denied request costs the table the credentials it had. -/
theorem setsRealCredentials_denied :
    let table := twoTables false
    let entry : TableEntry := ⟨"t".toList, [], some table, false⟩
    let state : ScanState (List Secret) := ⟨⟨fun _ => .body deniedBody, []⟩,
      [tableSecret table ⟨"k".toList, "s".toList, "t".toList⟩ ⟨[], [], []⟩]⟩
    ¬ (RaisesBefore grantOrDenyLibraries entry table ⟨[], [], []⟩ state ∨
        InstallsGiven grantOrDenyLibraries entry table ⟨[], [], []⟩ state
          (grantOrDenyLibraries.libraries.yyjsonRead deniedBody)) ∧
      (after (getScanFunction grantOrDenyLibraries entry ⟨[], [], []⟩ state)).secrets =
        [tableSecret table ⟨[], [], []⟩ ⟨[], [], []⟩] := by
  intro table entry state
  refine ⟨?_, rfl⟩
  rintro (⟨fault, final, failed, _⟩ | ⟨given, gives, _⟩)
  · exact nomatch failed
  · exact gives.present rfl

end UcCatalog
