/-
This file renames the tokens of a whole session: in the secrets, in the options of
`CREATE SECRET`, in the attached catalogs, and for the servers. Every command of the
session then ends as it did, and the two sessions differ in their tokens only. What a
user, a log of errors or another catalog sees of a session does not depend on the
tokens in it.

The secret manager is DuckDB's, and so is the renaming of what it keeps: by
`SessionLibraries.RenamesTokens` it finds, registers and drops secrets with other
tokens as it did, and a scan does not tell the difference.
-/

import UcCatalog.SessionSecrets
import UcCatalog.TokenRenaming

namespace UcCatalog

open Stateful

/-! ### What is renamed -/

section Renaming

variable (tokens : TokenRenaming)

def Value.renamed : Value → Value
  | .null => .null
  | .text contents => .text (tokens.rename contents)

def KeyValueSecret.renamed (secret : KeyValueSecret) : KeyValueSecret :=
  { secret with secretMap := secret.secretMap.update "token".toList (Value.renamed tokens) }

/-- Secrets with other tokens, under the same names. -/
def renamedSecrets (namedSecrets : GetSecretByName) : GetSecretByName :=
  fun name storage => (namedSecrets name storage).map (KeyValueSecret.renamed tokens)

/-- The options of a secret with another token. -/
def renamedOptions (options : FoldedMap lower Value) : FoldedMap lower Value :=
  options.update "token".toList fun value => .text (tokens.rename value.toString)

def Database.renamed : Database → Database
  | .uc catalog clears => .uc (catalog.renamed tokens) clears
  | .other catalogType => .other catalogType

def Session.renamed {Secrets : Type} (rename : Secrets → Secrets) (session : Session Secrets) :
    Session Secrets :=
  { session with
    world := session.world.renamed tokens
    secrets := rename session.secrets
    databases := session.databases.mapValues (Database.renamed tokens) }

def CatalogCall.renamed (call : CatalogCall) : CatalogCall :=
  ⟨call.1.renamed tokens, by
    obtain ⟨op, isCall⟩ := call
    cases op with
    | clearCache | serverChange => exact isCall.elim
    | _ => exact isCall⟩

/-- The same command, with the new token where it gives one. -/
def Command.renamed : Command → Command
  | .createSecret onConflict storage name options =>
    .createSecret onConflict storage name (renamedOptions tokens options)
  | .otherSecret onConflict storage secret =>
    .otherSecret onConflict storage (secret.renamed tokens)
  | .call oid op => .call oid (CatalogCall.renamed tokens op)
  | .serverChange remote =>
    .serverChange fun request => remote (request.renamed tokens.rename.symm)
  | command => command

/-- The secret manager with other tokens: it finds, registers and drops secrets as it did, and
serves scans alike. -/
structure SessionLibraries.RenamesTokens {Secrets BindData : Type}
    (duckdb : SessionLibraries Secrets BindData) (rename : Secrets → Secrets) : Prop where
  scans : duckdb.toScanLibraries.Ignores rename
  finds : ∀ secrets,
    duckdb.getSecretByName (rename secrets) = renamedSecrets tokens (duckdb.getSecretByName secrets)
  registers : ∀ secrets onConflict storage secret,
    duckdb.registerSecret (rename secrets) onConflict storage (secret.renamed tokens) =
      (duckdb.registerSecret secrets onConflict storage secret).map rename
  drops : ∀ secrets ifNotFound storage name,
    duckdb.dropSecretByName (rename secrets) ifNotFound storage name =
      (duckdb.dropSecretByName secrets ifNotFound storage name).map rename

variable {tokens}

/-! ### Secrets -/

theorem tryGetValue_renamed (secret : KeyValueSecret) (key : Text) :
    (secret.renamed tokens).tryGetValue key =
      if lower key = lower "token".toList then (secret.tryGetValue key).renamed tokens
      else secret.tryGetValue key := by
  unfold KeyValueSecret.tryGetValue KeyValueSecret.renamed
  rw [FoldedMap.find_update]
  split
  · cases secret.secretMap.find key <;> rfl
  · rfl

theorem secretCredentials_renamed (rTrim : RTrim) (secret : KeyValueSecret) :
    secretCredentials rTrim (secret.renamed tokens) =
      (secretCredentials rTrim secret).renamed tokens := by
  have token : (secret.renamed tokens).tryGetValue "token".toList =
      (secret.tryGetValue "token".toList).renamed tokens :=
    (tryGetValue_renamed secret _).trans (if_pos rfl)
  have others {key : Text} (other : lower key ≠ lower "token".toList) :
      (secret.renamed tokens).tryGetValue key = secret.tryGetValue key :=
    (tryGetValue_renamed secret key).trans (if_neg other)
  unfold secretCredentials Credentials.renamed
  rw [token, others (by decide : lower "endpoint".toList ≠ _),
    others (by decide : lower "aws_region".toList ≠ _)]
  cases secret.tryGetValue "token".toList with
  | null =>
    show Credentials.mk _ [] _ = Credentials.mk _ (tokens.rename []) _
    rw [tokens.empty]
  | text contents => rfl

/-- One option is read into a secret with its token renamed before or after. -/
theorem setSecretOption_renamed (secretMap : FoldedMap lower Value) (option : Text × Value) :
    setSecretOption (secretMap.update "token".toList (Value.renamed tokens))
        (if lower option.1 = lower "token".toList then
          (option.1, .text (tokens.rename option.2.toString)) else option) =
      (setSecretOption secretMap option).map fun secretMap =>
        secretMap.update "token".toList (Value.renamed tokens) := by
  have unchanged : lower "token".toList = "token".toList := by decide
  by_cases token : lower option.1 = lower "token".toList
  · rw [if_pos token]
    unfold setSecretOption
    dsimp only
    rw [token, if_pos unchanged, if_pos unchanged]
    show _ = Except.ok (FoldedMap.update (FoldedMap.assign _ _ _) _ _)
    rw [FoldedMap.update_assign, if_pos rfl]
    rfl
  · have notToken : lower option.1 ≠ "token".toList := unchanged ▸ token
    rw [if_neg token]
    unfold setSecretOption
    dsimp only
    rw [if_neg notToken, if_neg notToken]
    by_cases endpoint : lower option.1 = "endpoint".toList
    · rw [if_pos endpoint, if_pos endpoint]
      show _ = Except.ok (FoldedMap.update (FoldedMap.assign _ _ _) _ _)
      rw [FoldedMap.update_assign, if_neg (by decide)]
    · rw [if_neg endpoint, if_neg endpoint]
      split
      · show _ = Except.ok (FoldedMap.update (FoldedMap.assign _ _ _) _ _)
        rw [FoldedMap.update_assign, if_neg (by decide)]
      · rfl

theorem createUCSecretFunction_renamed (name : Text) (options : FoldedMap lower Value) :
    createUCSecretFunction name (renamedOptions tokens options) =
      (createUCSecretFunction name options).map (KeyValueSecret.renamed tokens) := by
  have loop (options : List (Text × Value)) (secretMap : FoldedMap lower Value) :
      (options.map fun option => if lower option.1 = lower "token".toList then
          (option.1, Value.text (tokens.rename option.2.toString)) else option).foldlM
            setSecretOption (secretMap.update "token".toList (Value.renamed tokens)) =
        (options.foldlM setSecretOption secretMap).map fun secretMap =>
          secretMap.update "token".toList (Value.renamed tokens) := by
    induction options generalizing secretMap with
    | nil => rfl
    | cons option options inductionHypothesis =>
      rw [List.map_cons, List.foldlM_cons, List.foldlM_cons, setSecretOption_renamed]
      cases setSecretOption secretMap option with
      | ok next => exact inductionHypothesis next
      | error fault => rfl
  have looped := loop options.bindings (.empty lower Value)
  rw [FoldedMap.update_empty] at looped
  unfold createUCSecretFunction renamedOptions FoldedMap.update
  rw [looped]
  cases options.bindings.foldlM setSecretOption (.empty lower Value) <;> rfl

/-- `ATTACH` reads the same credentials but for the token. -/
theorem ucCatalogAttach_renamed (rTrim : RTrim) (secrets : GetSecretByName) (name : Text)
    (info : AttachInfo) :
    ucCatalogAttach rTrim (renamedSecrets tokens secrets) name info =
      (ucCatalogAttach rTrim secrets name info).map (Catalog.renamed tokens) := by
  have same : info.credentials rTrim (renamedSecrets tokens secrets) =
      (info.credentials rTrim secrets).map (Credentials.renamed tokens) := by
    unfold AttachInfo.credentials renamedSecrets
    cases info.unknownOption with
    | some option => rfl
    | none =>
      dsimp only
      rw [← Option.map_or]
      cases (secrets (secretNameOrDefault info.secretName) "memory".toList).or
          (secrets (secretNameOrDefault info.secretName) "local_file".toList) with
      | some secret => exact congrArg Except.ok (secretCredentials_renamed rTrim secret)
      | none =>
        show (if info.secretName = [] then _ else _ : Outcome Credentials) =
          Except.map _ (if info.secretName = [] then _ else _)
        split
        · show Except.ok _ = Except.ok (Credentials.mk _ (tokens.rename []) _)
          rw [tokens.empty]
        · rfl
  rw [ucCatalogAttach_eq, ucCatalogAttach_eq, same]
  cases info.credentials rTrim secrets <;> rfl

/-! ### Commands -/

section Session

variable {Secrets BindData : Type} {rename : Secrets → Secrets}

theorem adding_renamed (session : Session Secrets) (database : Database) :
    (session.renamed tokens rename).adding (database.renamed tokens) =
      (session.adding database).renamed tokens rename := by
  unfold Session.adding Session.renamed
  rw [FoldedMap.mapValues_insert]

theorem find_renamed (session : Session Secrets) (oid : Nat) :
    (session.renamed tokens rename).databases.find oid =
      (session.databases.find oid).map (Database.renamed tokens) :=
  FoldedMap.find_mapValues ..

theorem tableEntry_renamed (session : Session Secrets) (oid : Nat) (schema : SchemaHandle)
    (table : Text) :
    (session.renamed tokens rename).tableEntry oid schema table =
      (session.tableEntry oid schema table).map fun found =>
        (found.1.renamed tokens, found.2) := by
  unfold Session.tableEntry
  rw [find_renamed]
  cases session.databases.find oid with
  | none => rfl
  | some database =>
    cases database with
    | other catalogType => rfl
    | uc catalog clears =>
      show (((session.part catalog clears).resolve schema).bind fun schemaEntry =>
        (schemaEntry.tables.entries.find table).bind fun entry => some _) =
          Option.map _ (((session.part catalog clears).resolve schema).bind fun schemaEntry =>
            (schemaEntry.tables.entries.find table).bind fun entry => some _)
      cases (session.part catalog clears).resolve schema with
      | none => rfl
      | some schemaEntry =>
        rw [Option.bind_some, Option.bind_some]
        cases schemaEntry.tables.entries.find table <;> rfl

theorem clearUCCache_renamed (world : World) (database : Database) :
    (database.renamed tokens).clearUCCache (world.renamed tokens) =
      (database.clearUCCache world).renamed tokens := by
  cases database with
  | uc catalog clears => rfl
  | other catalogType =>
    show Database.clearUCCache _ (.other catalogType) = _
    unfold Database.clearUCCache
    split <;> rfl

theorem commutes_clearUCCaches :
    Commutes (Session.renamed tokens rename) (@clearUCCaches Secrets) clearUCCaches := by
  refine .modify fun session => ?_
  unfold Session.renamed
  dsimp only
  rw [FoldedMap.mapValues_comm _ (clearUCCache_renamed session.world)]

theorem commutes_pullClearCache (pulls : Nat) (data : ClearCacheFunctionData) :
    Commutes (Session.renamed tokens rename) (@pullClearCache Secrets pulls data)
      (pullClearCache pulls data) := by
  induction pulls generalizing data with
  | zero => exact .pure _
  | succ pulls inductionHypothesis =>
    refine .bind ?_ fun next => inductionHypothesis next
    unfold clearCacheFunction
    split
    · exact .pure _
    · exact .bind commutes_clearUCCaches fun _ => .pure _

theorem commutes_setSecrets {change otherChange : Secrets → Except Exception Secrets}
    (same : ∀ secrets, otherChange (rename secrets) = (change secrets).map rename) :
    Commutes (Session.renamed tokens rename) (setSecrets change) (setSecrets otherChange) := by
  refine .get_bind fun session => ?_
  show Commutes _ _ (lift (Outcome.ofExcept (otherChange (rename session.secrets))) >>= _)
  rw [same, ofExcept_map]
  exact .lift_bind fun _ => .modify fun _ => rfl

theorem commutes_call (duckdb : SessionLibraries Secrets BindData) (oid : Nat)
    (call : CatalogCall) :
    Commutes (Session.renamed tokens rename) ((Command.call oid call).run duckdb)
      ((Command.call oid (CatalogCall.renamed tokens call)).run duckdb) := by
  refine .get_bind fun session => ?_
  rw [find_renamed]
  cases session.databases.find oid with
  | none => exact .pure _
  | some database =>
    cases database with
    | other catalogType => exact .pure _
    | uc catalog clears =>
      refine .bind (Commutes.zoom (commutes_run call.1) (fun _ => rfl) fun part whole => ?_)
        fun _ => .pure _
      unfold Session.withPart Session.renamed
      dsimp only
      rw [FoldedMap.mapValues_update]
      rfl

variable {duckdb : SessionLibraries Secrets BindData} (renames : duckdb.RenamesTokens tokens rename)

include renames

theorem commutes_scanTable (oid : Nat) (schema : SchemaHandle) (table : Text) :
    Commutes (Session.renamed tokens rename) ((Command.scanTable oid schema table).run duckdb)
      ((Command.scanTable oid schema table).run duckdb) := by
  refine .get_bind fun session => ?_
  rw [tableEntry_renamed]
  cases session.tableEntry oid schema table with
  | none => exact .pure _
  | some found =>
    exact .bind ((commutes_getScanFunction renames.scans found.2 found.1.credentials).zoom
      (fun _ => rfl) fun _ _ => rfl) fun _ => .pure _

theorem commutes_attach (name : Text) (info : AttachInfo) :
    Commutes (Session.renamed tokens rename) ((Command.attach name info).run duckdb)
      ((Command.attach name info).run duckdb) := by
  refine .get_bind fun session => ?_
  show Commutes _ _ (lift (ucCatalogAttach duckdb.rTrim
    (duckdb.getSecretByName (rename session.secrets)) _ _) >>= _)
  rw [renames.finds, ucCatalogAttach_renamed]
  exact .lift_bind fun catalog =>
    .bind (.modify fun session => adding_renamed session (.uc catalog 0)) fun _ => .pure _

/-- A command does in the renamed session what it does in the session. -/
theorem commutes_command (command : Command) :
    Commutes (Session.renamed tokens rename) (command.run duckdb)
      ((command.renamed tokens).run duckdb) := by
  cases command with
  | createSecret onConflict storage name options =>
    show Commutes _ _ (lift (createUCSecretFunction name (renamedOptions tokens options)) >>= _)
    rw [createUCSecretFunction_renamed]
    exact .lift_bind fun secret => .bind (commutes_setSecrets fun secrets =>
      renames.registers secrets onConflict storage secret) fun _ => .pure _
  | dropSecret ifNotFound storage name =>
    exact .bind (commutes_setSecrets fun secrets => renames.drops secrets ifNotFound storage name)
      fun _ => .pure _
  | otherSecret onConflict storage secret =>
    exact .bind (commutes_setSecrets fun secrets =>
      renames.registers secrets onConflict storage secret) fun _ => .pure _
  | attach name info => exact commutes_attach renames name info
  | attachOther catalogType =>
    exact .get_bind fun _ => .bind (.modify fun session =>
      adding_renamed session (.other catalogType)) fun _ => .pure _
  | detach oid =>
    refine .bind (.modify fun session => ?_) fun _ => .pure _
    unfold Session.renamed
    dsimp only
    rw [FoldedMap.mapValues_erase]
  | call oid call => exact commutes_call duckdb oid call
  | scanTable oid schema table => exact commutes_scanTable renames oid schema table
  | clearCacheOnSetting => exact .bind commutes_clearUCCaches fun _ => .pure _
  | clearCacheFunction pulls => exact .bind (commutes_pullClearCache pulls _) fun _ => .pure _
  | serverChange remote => exact .bind (.modify fun _ => rfl) fun _ => .pure _

/-- With other tokens throughout, every command of a session ends as it did, and the session is
at the end what it was but for the tokens. -/
theorem tokens_renamed (session : Session Secrets) (commands : List Command) :
    trace (Command.run duckdb) (session.renamed tokens rename)
        (commands.map (Command.renamed tokens)) =
      ((trace (Command.run duckdb) session commands).1,
        (trace (Command.run duckdb) session commands).2.renamed tokens rename) :=
  Commutes.trace (commutes_command renames) session commands

end Session

/-! ### A secret manager that keeps a map -/

theorem renamed_toKeyValue {info : Secret}
    (tokenless : ∀ option ∈ info.options, lower option.1 ≠ lower "token".toList) :
    info.toKeyValue.renamed tokens = info.toKeyValue := by
  have others : ∀ binding ∈ info.options.map fun option => (option.1, Value.text option.2),
      lower binding.1 ≠ lower "token".toList := by
    intro binding member
    obtain ⟨option, inOptions, rfl⟩ := List.mem_map.mp member
    exact tokenless option inOptions
  have unchanged := FoldedMap.update_assignAll (.empty lower Value) others (Value.renamed tokens)
  rw [FoldedMap.update_empty] at unchanged
  show KeyValueSecret.mk _ _ _ _ (FoldedMap.update _ _ _) _ = _
  rw [show info.toKeyValue.secretMap.update "token".toList (Value.renamed tokens) = _ from
    unchanged]
  rfl

theorem createSecret_renamed (secrets : MappedSecrets) {info : Secret}
    (tokenless : ∀ option ∈ info.options, lower option.1 ≠ lower "token".toList) :
    mappedManager.createSecret (secrets.mapValues (KeyValueSecret.renamed tokens)) info =
      (mappedManager.createSecret secrets info).map fun secrets =>
        secrets.mapValues (KeyValueSecret.renamed tokens) := by
  have assigned := FoldedMap.mapValues_assign secrets (info.name, "memory".toList) info.toKeyValue
    (KeyValueSecret.renamed tokens)
  rw [renamed_toKeyValue tokenless] at assigned
  exact congrArg Except.ok assigned.symm

theorem tableSecret_tokenless (table : APITable) (given : APITableCredentials)
    (credentials : Credentials) :
    ∀ option ∈ (tableSecret table given credentials).options,
      lower option.1 ≠ lower "token".toList := by
  intro option member
  have keys : ∀ key ∈ ["key_id".toList, "secret".toList, "session_token".toList,
      "region".toList], lower key ≠ lower "token".toList := by decide
  exact keys option.1 (List.mem_map_of_mem (f := Prod.fst) member)

theorem mappedLibraries_renames (tokens : TokenRenaming) (libraries : Libraries) :
    (mappedLibraries libraries).RenamesTokens tokens fun secrets =>
      secrets.mapValues (KeyValueSecret.renamed tokens) where
  scans := ⟨fun secrets table given credentials =>
    createSecret_renamed secrets (tableSecret_tokenless table given credentials), fun _ _ => rfl⟩
  finds secrets := by
    funext name storage
    exact FoldedMap.find_mapValues ..
  registers secrets onConflict storage secret := by
    have absent : (secrets.mapValues (KeyValueSecret.renamed tokens)).find
        ((secret.renamed tokens).name, storage) = none ↔
          secrets.find (secret.name, storage) = none := by
      rw [FoldedMap.find_mapValues, Option.map_eq_none_iff]
      rfl
    show (if onConflict = .replaceOnConflict ∨ _ then _ else if _ then _ else _ :
        Except Exception MappedSecrets) =
      Except.map _ (if onConflict = .replaceOnConflict ∨ _ then _ else if _ then _ else _)
    by_cases puts : onConflict = .replaceOnConflict ∨ secrets.find (secret.name, storage) = none
    · rw [if_pos puts, if_pos (puts.imp_right absent.mpr)]
      exact congrArg Except.ok (FoldedMap.mapValues_assign ..).symm
    · rw [if_neg puts, if_neg fun either => puts (either.imp_right absent.mp)]
      split <;> rfl
  drops secrets ifNotFound storage name := by
    have absent : (secrets.mapValues (KeyValueSecret.renamed tokens)).find (name, storage) = none ↔
        secrets.find (name, storage) = none := by
      rw [FoldedMap.find_mapValues, Option.map_eq_none_iff]
    show (if ifNotFound = .throwException ∧ _ then _ else _ : Except Exception MappedSecrets) =
      Except.map _ (if ifNotFound = .throwException ∧ _ then _ else _)
    by_cases missing : ifNotFound = .throwException ∧ secrets.find (name, storage) = none
    · rw [if_pos missing, if_pos (missing.imp_right absent.mpr)]
      rfl
    · rw [if_neg missing, if_neg fun both => missing (both.imp_right absent.mp)]
      exact congrArg Except.ok (FoldedMap.mapValues_erase ..).symm

end Renaming

/-- Two tokens in place of each other. -/
def otherToken : TokenRenaming := .swap ⟨['t'], by decide⟩ ⟨['u'], by decide⟩

theorem tokens_renamed_deltaTable :
    let rename := fun secrets : MappedSecrets =>
      secrets.mapValues (KeyValueSecret.renamed otherToken)
    let run := Command.run (mappedLibraries deltaTableLibraries)
    trace run (deltaTableStart.renamed otherToken rename)
        (deltaTableCommands.map (Command.renamed otherToken)) =
      ((trace run deltaTableStart deltaTableCommands).1,
        deltaTableSession.renamed otherToken rename) :=
  tokens_renamed (mappedLibraries_renames otherToken deltaTableLibraries) deltaTableStart
    deltaTableCommands

end UcCatalog
