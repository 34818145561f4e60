/-
This file is a secret manager that keeps a map. A secret stands in it under its name
and its storage, both compared ignoring case, and one that is made for a scan has the
options of its description as they are. The manager does by name what is known of
DuckDB's (`mappedLibraries_documented`).
-/

import UcCatalog.InstalledSecrets
import UcCatalog.Session

namespace UcCatalog

/-- A name and a storage, as they are compared. -/
def foldedName (key : Text × Text) : Text × Text := (lower key.1, lower key.2)

abbrev MappedSecrets := FoldedMap foldedName KeyValueSecret

theorem foldedName_eq_iff (name storage otherName otherStorage : Text) :
    foldedName (name, storage) = foldedName (otherName, otherStorage) ↔
      lower name = lower otherName ∧ lower storage = lower otherStorage :=
  Prod.mk_inj

/-- The secret that has the options of a description, and no other values. -/
def Secret.toKeyValue (info : Secret) : KeyValueSecret where
  prefixPaths := info.scope
  type := info.type
  provider := info.provider
  name := info.name
  secretMap := (FoldedMap.empty lower Value).assignAll
    (info.options.map fun option => (option.1, .text option.2))
  redactKeys := ["secret".toList, "session_token".toList]

def KeyValueSecret.toSecret (secret : KeyValueSecret) : Secret where
  name := secret.name
  type := secret.type
  provider := secret.provider
  options := secret.secretMap.bindings.map fun binding => (binding.1, binding.2.toString)
  scope := secret.prefixPaths

def MappedSecrets.toSecrets (secrets : MappedSecrets) : List Secret :=
  secrets.bindings.map fun binding => binding.2.toSecret

def mappedManager : SecretManager MappedSecrets where
  stored := MappedSecrets.toSecrets
  createSecret secrets info := .ok (secrets.assign (info.name, "memory".toList) info.toKeyValue)
  lookupSecret secrets path type :=
    (Secret.candidates path type secrets.toSecrets).argmax (Secret.matchLength path)

/-- What a second secret of a name meets with. -/
def existingSecret (name : Text) : Exception :=
  ⟨.invalidInputException, "Secret with name '".toList ++ name ++ "' already exists!".toList⟩

def missingSecret (name : Text) : Exception :=
  ⟨.invalidInputException, "Failed to remove non-existent secret with name '".toList ++ name ++
    "'".toList⟩

/-- Libraries whose secret manager keeps a map. -/
def mappedLibraries (libraries : Libraries) : SessionLibraries MappedSecrets Unit where
  libraries := libraries
  manager := mappedManager
  deltaScan := .ok ⟨⟩
  bind _ _ := .ok ()
  rTrim := rTrimChars
  getSecretByName secrets name storage := secrets.find (name, storage)
  registerSecret secrets onConflict storage secret :=
    if onConflict = .replaceOnConflict ∨ secrets.find (secret.name, storage) = none then
      .ok (secrets.assign (secret.name, storage) secret)
    else if onConflict = .ignoreOnConflict then .ok secrets
    else .error (existingSecret secret.name)
  dropSecretByName secrets ifNotFound storage name :=
    if ifNotFound = .throwException ∧ secrets.find (name, storage) = none then
      .error (missingSecret name)
    else .ok (secrets.erase (name, storage))

/-- Options whose keys differ ignoring case are all found. -/
theorem tryGetValue_toKeyValue {info : Secret}
    (apart : (info.options.map fun option => lower option.1).Nodup) {option : Text × Text}
    (member : option ∈ info.options) :
    info.toKeyValue.tryGetValue option.1 = .text option.2 := by
  have bound : (info.options.find? fun other => lower other.1 = lower option.1).map Prod.snd =
      some option.2 :=
    @FoldedMap.find_of_mem _ _ _ lower _ ⟨info.options, apart⟩ _ _ _ member rfl
  have apartBindings : ((info.options.map fun option => (option.1, Value.text option.2)).map
      fun binding => lower binding.1).Nodup := by
    rw [List.map_map]
    exact apart
  have found := FoldedMap.find_assignAll (.empty lower Value) apartBindings option.1
  have sameLookup : (fun binding : Text × Value => decide (lower binding.1 = lower option.1)) ∘
      (fun option : Text × Text => (option.1, Value.text option.2)) =
        fun other => decide (lower other.1 = lower option.1) := rfl
  rw [List.find?_map, sameLookup, FoldedMap.find_empty, Option.or_none] at found
  obtain ⟨other, first, same⟩ := Option.map_eq_some_iff.mp bound
  show ((FoldedMap.assignAll _ _).find option.1).getD Value.null = _
  rw [found, first, ← same]
  rfl

theorem toKeyValue_madeFrom (table : APITable) (given : APITableCredentials)
    (credentials : Credentials) :
    (tableSecret table given credentials).toKeyValue.MadeFrom
      (tableSecret table given credentials) where
  name := rfl
  type := rfl
  provider := rfl
  prefixPaths := rfl
  options := by
    have apart : (["key_id", "secret", "session_token", "region"].map
      fun key => lower key.toList).Nodup := by decide
    exact fun option member =>
      @tryGetValue_toKeyValue (tableSecret table given credentials) apart option member

theorem find_assign_eq_putSecret (secrets : MappedSecrets) (name storage : Text)
    (secret : KeyValueSecret) :
    (fun otherName otherStorage =>
        (secrets.assign (name, storage) secret).find (otherName, otherStorage)) =
      putSecret (fun otherName otherStorage => secrets.find (otherName, otherStorage)) storage name
        (some secret) := by
  funext otherName otherStorage
  rw [FoldedMap.find_assign]
  exact if_congr (eq_comm.trans (foldedName_eq_iff ..)) rfl rfl

theorem find_erase_eq_putSecret (secrets : MappedSecrets) (name storage : Text) :
    (fun otherName otherStorage =>
        (secrets.erase (name, storage)).find (otherName, otherStorage)) =
      putSecret (fun otherName otherStorage => secrets.find (otherName, otherStorage)) storage name
        none := by
  funext otherName otherStorage
  rw [FoldedMap.find_erase]
  exact if_congr (foldedName_eq_iff ..) rfl rfl

theorem mappedLibraries_documented (libraries : Libraries) :
    (mappedLibraries libraries).Documented where
  creates := by
    rintro secrets table given credentials next ⟨⟩
    exact ⟨_, toKeyValue_madeFrom table given credentials, find_assign_eq_putSecret ..⟩
  registers := by
    intro secrets onConflict storage secret next registered
    have ran := registered
    unfold mappedLibraries at ran
    dsimp only at ran
    split_ifs at ran with puts ignored
    · cases ran
      refine ⟨fun _ => find_assign_eq_putSecret ..,
        fun leaves => absurd ⟨⟨_, registered⟩, ?_⟩ leaves⟩
      exact fun ignored => puts.resolve_left (by rw [ignored]; decide)
    · cases ran
      refine ⟨fun stores => absurd (stores.2 ignored) ?_, fun _ => rfl⟩
      exact fun absent => puts (Or.inr absent)
  drops := by
    intro secrets ifNotFound storage name next dropped
    unfold mappedLibraries at dropped
    dsimp only at dropped
    split_ifs at dropped
    cases dropped
    exact find_erase_eq_putSecret ..

end UcCatalog
