/-
This file proves that reads use the credentials of the right table. The scopes
of the secrets are plain prefixes, so the secret of one table can match paths of
another one. It is never selected for them: two locations in front of one path
are prefixes of each other, and a location that reaches beyond the one the path
is under would be under it as well (`under_of_prefixes`). With the names of the
secrets distinct, the secret of a table is the one its last call installed, and
that is the invariant of a run of calls (`InstalledLast`).
-/

import Mathlib.Data.List.MinMax
import UcCatalog.ScanFunction

namespace UcCatalog

open Stateful

/-! ### Paths under a location -/

/-- The path is the location, or goes on behind it at a slash. -/
def Under (path location : Text) : Prop :=
  ∃ rest, path = location ++ rest ∧
    (rest = [] ∨ rest.head? = some '/' ∨ location.getLast? = some '/')

theorem under_iff (path location : Text) :
    Under path location ↔ location <+: path ∧ (path.drop location.length = [] ∨
      (path.drop location.length).head? = some '/' ∨ location.getLast? = some '/') := by
  constructor
  · rintro ⟨rest, rfl, slash⟩
    rw [List.drop_left]
    exact ⟨List.prefix_append _ _, slash⟩
  · rintro ⟨⟨rest, rfl⟩, slash⟩
    rw [List.drop_left] at slash
    exact ⟨rest, rfl, slash⟩

instance (path location : Text) : Decidable (Under path location) :=
  decidable_of_iff _ (under_iff path location).symm

/-- A longer location in front of the same path is under the shorter one. -/
theorem under_of_prefixes {path location other : Text} (under : Under path location)
    (inFront : other <+: path) (longer : location.length ≤ other.length) :
    Under other location := by
  obtain ⟨rest, rfl, slash⟩ := under
  obtain ⟨middle, rfl⟩ :=
    List.prefix_of_prefix_length_le (List.prefix_append location rest) inFront longer
  obtain ⟨tail, same⟩ := inFront
  rw [List.append_assoc] at same
  have rest_eq := List.append_cancel_left same
  refine ⟨middle, rfl, ?_⟩
  rcases slash with empty | first | last
  · rw [empty] at rest_eq
    exact Or.inl (List.append_eq_nil_iff.mp rest_eq).1
  · cases middle with
    | nil => exact Or.inl rfl
    | cons char middle =>
      rw [← rest_eq] at first
      exact Or.inr (Or.inl first)
  · exact Or.inr (Or.inr last)

/-! ### The last call on a table -/

section LastCall

variable {Table Value : Type}

/-- The last call on the table was given the value. -/
def LastCall (calls : List (Table × Value)) (table : Table) (value : Value) : Prop :=
  ∃ before later, calls = before ++ (table, value) :: later ∧ ∀ call ∈ later, call.1 ≠ table

theorem lastCall_append (calls : List (Table × Value)) (called table : Table)
    (given value : Value) :
    LastCall (calls ++ [(called, given)]) table value ↔
      called = table ∧ given = value ∨ called ≠ table ∧ LastCall calls table value := by
  constructor
  · rintro ⟨before, later, same, others⟩
    rcases List.eq_nil_or_concat later with rfl | ⟨initial, call, rfl⟩
    · obtain ⟨_, lastSame⟩ := List.append_inj' same rfl
      obtain ⟨rfl, rfl⟩ := Prod.mk.inj (List.cons.inj lastSame).1
      exact Or.inl ⟨rfl, rfl⟩
    · rw [List.concat_eq_append, ← List.cons_append, ← List.append_assoc] at same
      obtain ⟨calls_eq, lastSame⟩ := List.append_inj' same rfl
      obtain rfl := (List.cons.inj lastSame).1
      refine Or.inr ⟨others (called, given) (by simp), before, initial, calls_eq, ?_⟩
      exact fun call member => others call (by simp [member])
  · rintro (⟨rfl, rfl⟩ | ⟨differ, before, later, rfl, others⟩)
    · exact ⟨calls, [], rfl, by simp⟩
    · refine ⟨before, later ++ [(called, given)], by simp, ?_⟩
      intro call member
      rcases List.mem_append.mp member with inLater | last
      · exact others call inLater
      · rw [List.mem_singleton.mp last]
        exact differ

theorem not_lastCall_nil (table : Table) (value : Value) : ¬ LastCall [] table value := by
  rintro ⟨before, later, same, _⟩
  exact List.append_ne_nil_of_right_ne_nil before (List.cons_ne_nil _ _) same.symm

theorem lastCall_unique {calls : List (Table × Value)} {table : Table} {value other : Value}
    (last : LastCall calls table value) (otherLast : LastCall calls table other) :
    value = other := by
  induction calls using List.reverseRecOn with
  | nil => exact absurd last (not_lastCall_nil table value)
  | append_singleton calls call inductionHypothesis =>
    rcases (lastCall_append _ _ _ _ _).mp last with ⟨_, rfl⟩ | ⟨differ, earlier⟩
    · rcases (lastCall_append _ _ _ _ _).mp otherLast with ⟨_, rfl⟩ | ⟨differ, _⟩
      · rfl
      · exact absurd ‹call.1 = table› differ
    · rcases (lastCall_append _ _ _ _ _).mp otherLast with ⟨same, _⟩ | ⟨_, otherEarlier⟩
      · exact absurd same differ
      · exact inductionHypothesis earlier otherEarlier

end LastCall

/-! ### Runs of calls -/

/-- A call of `GetScanFunction`: the entry it is made on with its data, the credentials of the
catalog, and what the server gives it. -/
structure ScanCall where
  entry : TableEntry
  data : APITable
  credentials : Credentials
  given : APITableCredentials

/-- The secret the call installs. -/
def ScanCall.secret (call : ScanCall) : Secret := tableSecret call.data call.given call.credentials

section Runs

variable {Table Secrets BindData : Type} (scanLibraries : ScanLibraries Secrets BindData)
variable (ids locations : Table → Text)

/-- Remote tables whose ids differ ignoring case and whose locations are not under each other. -/
structure RemoteTables : Prop where
  distant : ∀ table, ¬ "file://".toList <+: locations table
  ids : ∀ table other, lower (ids table) = lower (ids other) → table = other
  apart : ∀ table other, Under (locations other) (locations table) → table = other

/-- The call is on the table: its entry has the data of a delta table of that id and location. -/
structure ScanCall.On (call : ScanCall) (table : Table) : Prop where
  present : call.entry.tableData = some call.data
  format : call.data.dataSourceFormat = "DELTA".toList
  tableId : call.data.tableId = ids table
  storageLocation : call.data.storageLocation = locations table

/-- The secret manager after a sequence of calls, each on a table and each given credentials by
whatever server there is at the time. -/
inductive ScanRun (start : Secrets) : List (Table × ScanCall) → Secrets → Prop
  | start : ScanRun start [] start
  | call (calls : List (Table × ScanCall)) (secrets : Secrets) (world : World) (table : Table)
      (call : ScanCall) (run : ScanRun start calls secrets) (on : call.On ids locations table)
      (grants : Grants scanLibraries world call.data.tableId call.credentials call.given) :
      ScanRun start (calls ++ [(table, call)])
        (after (getScanFunction scanLibraries call.entry call.credentials
          ⟨world, secrets⟩)).secrets

/-- The s3 secrets are those of the last calls. -/
structure InstalledLast (calls : List (Table × ScanCall)) (secrets : Secrets) : Prop where
  on : ∀ table call, LastCall calls table call → call.On ids locations table
  known : ∀ secret ∈ scanLibraries.manager.stored secrets, secret.type = "s3".toList →
    ∃ table call, LastCall calls table call ∧ secret = call.secret
  installed : ∀ table call, LastCall calls table call →
    call.secret ∈ scanLibraries.manager.stored secrets

variable {scanLibraries ids locations}

theorem lower_secretName (tables : RemoteTables ids locations) {table other : Table}
    {call otherCall : ScanCall} (on : call.On ids locations table)
    (onOther : otherCall.On ids locations other)
    (same : lower call.secret.name = lower otherCall.secret.name) : table = other := by
  unfold lower ScanCall.secret tableSecret at same
  rw [List.map_append, List.map_append] at same
  have sameId := List.append_cancel_left same
  rw [on.tableId, onOther.tableId] at sameId
  exact tables.ids table other sameId

theorem installedLast_of_run (documented : scanLibraries.manager.Documented)
    (delta : scanLibraries.deltaScan = .ok ⟨⟩) (tables : RemoteTables ids locations)
    {start : Secrets}
    (clean : ∀ secret ∈ scanLibraries.manager.stored start, secret.type ≠ "s3".toList)
    {calls : List (Table × ScanCall)} {secrets : Secrets}
    (run : ScanRun scanLibraries ids locations start calls secrets) :
    InstalledLast scanLibraries ids locations calls secrets := by
  induction run with
  | start =>
    refine ⟨?_, fun secret member s3 => absurd s3 (clean secret member), ?_⟩
    · exact fun table call last => absurd last (not_lastCall_nil table call)
    · exact fun table call last => absurd last (not_lastCall_nil table call)
  | call calls secrets world table call run on grants inductionHypothesis =>
    obtain ⟨next, created, stored⟩ := documented.replaces secrets call.secret
    rw [after_getScanFunction delta on.present on.format
      (on.storageLocation ▸ tables.distant table) grants created]
    constructor
    · intro other otherCall last
      rcases (lastCall_append _ _ _ _ _).mp last with ⟨rfl, rfl⟩ | ⟨_, earlier⟩
      · exact on
      · exact inductionHypothesis.on other otherCall earlier
    · intro secret member s3
      rcases (stored secret).mp member with rfl | ⟨old, differ⟩
      · exact ⟨table, call, (lastCall_append _ _ _ _ _).mpr (Or.inl ⟨rfl, rfl⟩), rfl⟩
      · obtain ⟨other, otherCall, last, rfl⟩ := inductionHypothesis.known secret old s3
        refine ⟨other, otherCall, (lastCall_append _ _ _ _ _).mpr (Or.inr ⟨?_, last⟩), rfl⟩
        rintro rfl
        -- two calls on one table set the same name
        have earlier := inductionHypothesis.on table otherCall last
        refine differ (congrArg lower ?_)
        unfold ScanCall.secret tableSecret
        rw [earlier.tableId, on.tableId]
    · intro other otherCall last
      rcases (lastCall_append _ _ _ _ _).mp last with ⟨rfl, rfl⟩ | ⟨differ, earlier⟩
      · exact (stored _).mpr (Or.inl rfl)
      · refine (stored _).mpr (Or.inr ⟨inductionHypothesis.installed other otherCall earlier, ?_⟩)
        have onOther := inductionHypothesis.on other otherCall earlier
        exact fun same => differ (lower_secretName tables onOther on same).symm

/-- Under the location of a table that was scanned, the secret its last call installed is
selected. It holds what that call was given, and the region of the catalog it was made for. -/
theorem selectedSecret_is_last (documented : scanLibraries.manager.Documented)
    (delta : scanLibraries.deltaScan = .ok ⟨⟩) (tables : RemoteTables ids locations)
    (start : Secrets)
    (clean : ∀ secret ∈ scanLibraries.manager.stored start, secret.type ≠ "s3".toList)
    (calls : List (Table × ScanCall)) (secrets : Secrets)
    (run : ScanRun scanLibraries ids locations start calls secrets) (table : Table)
    (call : ScanCall) (last : LastCall calls table call) (path : Text)
    (under : Under path (locations table)) :
    ∃ secret, scanLibraries.manager.lookupSecret secrets path "s3".toList = some secret ∧
      secret.name = "__internal_uc_".toList ++ ids table ∧ secret.scope = [locations table] ∧
      secret.options = [("key_id".toList, call.given.keyId), ("secret".toList, call.given.secret),
        ("session_token".toList, call.given.sessionToken),
        ("region".toList, call.credentials.awsRegion)] := by
  have installed := installedLast_of_run documented delta tables clean run
  have on := installed.on table call last
  have own := installed.installed table call last
  have ownMatches : call.secret.Matches path "s3".toList (locations table) := by
    obtain ⟨rest, rfl, _⟩ := under
    exact ⟨rfl, on.storageLocation ▸ List.mem_singleton_self _, List.prefix_append _ _⟩
  obtain ⟨secret, found⟩ := Option.ne_none_iff_exists'.mp
    (documented.finds secrets path _ _ own _ ownMatches)
  obtain ⟨member, scope, ⟨s3, inScope, inFront⟩, longest⟩ := documented.selects _ _ _ _ found
  obtain ⟨other, otherCall, otherLast, rfl⟩ := installed.known secret member s3
  have scopeIs : scope = locations other :=
    (List.mem_singleton.mp inScope).trans (installed.on other otherCall otherLast).storageLocation
  -- the selected scope is at least as long as the location, so its table is this one
  obtain rfl : table = other := tables.apart table other
    (under_of_prefixes under (scopeIs ▸ inFront) (scopeIs ▸ longest _ own _ ownMatches))
  obtain rfl := lastCall_unique last otherLast
  refine ⟨_, found, ?_, ?_, rfl⟩
  · rw [← on.tableId]
    rfl
  · rw [← on.storageLocation]
    rfl

end Runs

/-! ### A secret manager that keeps a list -/

/-- The longest scope of a secret in front of a path. -/
def Secret.longestScope (secret : Secret) (path : Text) : Option Text :=
  (secret.scope.filter (·.isPrefixOf path)).argmax List.length

def Secret.matchLength (path : Text) (secret : Secret) : Nat :=
  (secret.longestScope path).elim 0 List.length

def Secret.candidates (path type : Text) (secrets : List Secret) : List Secret :=
  secrets.filter fun secret => secret.type = type ∧ secret.longestScope path ≠ none

/-- A secret manager that does what is documented, over plain lists. -/
def listManager : SecretManager (List Secret) where
  stored := id
  createSecret secrets secret :=
    .ok (secret :: secrets.filter fun other => lower other.name ≠ lower secret.name)
  lookupSecret secrets path type :=
    (Secret.candidates path type secrets).argmax (Secret.matchLength path)

theorem Secret.Matches.candidate {secret : Secret} {path type scope : Text}
    (secretMatches : secret.Matches path type scope) {secrets : List Secret}
    (stored : secret ∈ secrets) :
    secret ∈ candidates path type secrets ∧ scope.length ≤ secret.matchLength path := by
  obtain ⟨sameType, inScope, inFront⟩ := secretMatches
  have kept : scope ∈ secret.scope.filter (·.isPrefixOf path) :=
    List.mem_filter.mpr ⟨inScope, List.isPrefixOf_iff_prefix.mpr inFront⟩
  cases longest : secret.longestScope path with
  | none => exact absurd (List.argmax_eq_none.mp longest) (List.ne_nil_of_mem kept)
  | some best =>
    refine ⟨List.mem_filter.mpr ⟨stored, by simp [sameType, longest]⟩, ?_⟩
    rw [matchLength, longest]
    exact List.le_of_mem_argmax kept longest

theorem listManager_documented : listManager.Documented where
  replaces secrets secret := by
    refine ⟨_, rfl, fun other => ?_⟩
    show other ∈ secret :: _ ↔ _
    simp [listManager]
  selects := by
    intro secrets path type secret found
    have candidate := List.mem_filter.mp (List.argmax_mem found)
    obtain ⟨sameType, present⟩ := of_decide_eq_true candidate.2
    obtain ⟨best, longest⟩ := Option.ne_none_iff_exists'.mp present
    have kept := List.mem_filter.mp (List.argmax_mem longest)
    refine ⟨candidate.1, best, ⟨sameType, kept.1, List.isPrefixOf_iff_prefix.mp kept.2⟩, ?_⟩
    intro other stored otherScope otherMatches
    obtain ⟨otherCandidate, reach⟩ := otherMatches.candidate stored
    have most := List.le_of_mem_argmax otherCandidate found
    have own : secret.matchLength path = best.length := by
      rw [Secret.matchLength, longest]
      rfl
    exact own ▸ Nat.le_trans reach most
  finds := by
    intro secrets path type secret stored scope secretMatches none
    exact List.ne_nil_of_mem (secretMatches.candidate stored).1 (List.argmax_eq_none.mp none)

/-- Two tables of which one location is a prefix of the other. -/
def twoTables (second : Bool) : APITable where
  tableId := if second then "2".toList else "1".toList
  name := "t".toList
  catalogName := "uc".toList
  schemaName := "s".toList
  tableType := "EXTERNAL".toList
  dataSourceFormat := "DELTA".toList
  storageLocation := if second then "s3://b/t2".toList else "s3://b/t".toList
  columns := []

/-- A server that grants its reply as credentials. -/
def grantingLibraries : ScanLibraries (List Secret) Unit where
  libraries :=
    { castUInt8 := castPlainNumeral
      addColumn := fun columns column => .ok (columns ++ [column])
      yyjsonRead := fun body => some (.obj [("aws_temp_credentials".toList, .obj [
        ("access_key_id".toList, .str body), ("secret_access_key".toList, .str body),
        ("session_token".toList, .str body)])]) }
  manager := listManager
  deltaScan := .ok ⟨⟩
  bind _ _ := .ok ()

/-- A call on one of the two tables, which is given the same text for all its credentials. -/
def scanOf (second : Bool) (given region : Text) : ScanCall where
  entry := { name := "t".toList, columns := [], tableData := some (twoTables second),
             internal := false }
  data := twoTables second
  credentials := { endpoint := [], token := [], awsRegion := region }
  given := { keyId := given, secret := given, sessionToken := given }

/-- The second table is scanned again, and then the first one. -/
def twoTablesCalls : List (Bool × ScanCall) :=
  [(true, scanOf true ['k'] "us-east-1".toList), (false, scanOf false ['l'] []),
    (true, scanOf true ['m'] "us-west-2".toList), (false, scanOf false ['n'] [])]

theorem selectedSecret_is_last_twoTables : ∃ secrets secret,
    ScanRun grantingLibraries (fun second => (twoTables second).tableId)
      (fun second => (twoTables second).storageLocation) [] twoTablesCalls secrets ∧
    listManager.lookupSecret secrets "s3://b/t2/part".toList "s3".toList = some secret ∧
    secret.options = [("key_id".toList, ['m']), ("secret".toList, ['m']),
      ("session_token".toList, ['m']), ("region".toList, "us-west-2".toList)] := by
  have tables : RemoteTables (fun second => (twoTables second).tableId)
      (fun second => (twoTables second).storageLocation) := ⟨by decide, by decide, by decide⟩
  have on (second : Bool) (given region : Text) : (scanOf second given region).On
      (fun second => (twoTables second).tableId) (fun second => (twoTables second).storageLocation)
      second := ⟨rfl, rfl, rfl, rfl⟩
  have grants (second : Bool) (char : Char) (region : Text) (plain : cString [char] = [char]) :
      Grants grantingLibraries ⟨fun _ => .body [char], []⟩ (twoTables second).tableId
        (scanOf second [char] region).credentials (scanOf second [char] region).given := by
    refine ⟨[char], rfl, ?_⟩
    show Except.ok (APITableCredentials.mk (cString [char]) (cString [char]) (cString [char])) = _
    rw [plain]
    rfl
  have started : ScanRun grantingLibraries (fun second => (twoTables second).tableId)
    (fun second => (twoTables second).storageLocation) [] [] [] := .start
  have run := (((started.call [] _ _ true _ (on _ _ _)
    (grants true 'k' "us-east-1".toList (by decide))).call _ _ _ false _ (on _ _ _)
    (grants false 'l' [] (by decide))).call _ _ _ true _ (on _ _ _)
    (grants true 'm' "us-west-2".toList (by decide))).call _ _ _ false _ (on _ _ _)
    (grants false 'n' [] (by decide))
  have last : LastCall twoTablesCalls true (scanOf true ['m'] "us-west-2".toList) :=
    ⟨twoTablesCalls.take 2, twoTablesCalls.drop 3, rfl, by simp [twoTablesCalls]⟩
  obtain ⟨secret, found, _, _, options⟩ := selectedSecret_is_last listManager_documented rfl tables
    [] (fun _ member => absurd member List.not_mem_nil) _ _ run true _ last
    "s3://b/t2/part".toList (by decide)
  exact ⟨_, secret, run, found, options⟩

end UcCatalog
