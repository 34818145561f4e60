/-
This file is what comes of any options of an `ATTACH`. The first one that is not
known is reported. Otherwise the last `SECRET` names the secret, which is looked up
in the memory first and in the local files then, and without a name it is the
default one, which need not be there.
-/

import UcCatalog.AttachedSecret

namespace UcCatalog

/-- The options `UCCatalogAttach` knows. -/
def attachOptions : List Text := ["type".toList, "read_only".toList, "secret".toList]

/-- The first option that is not known. -/
def AttachInfo.unknownOption (info : AttachInfo) : Option Text :=
  (info.options.find? fun option => !attachOptions.contains (lower option.1)).map Prod.fst

/-- The value of the last `SECRET` option. -/
def AttachInfo.secretName (info : AttachInfo) : Text :=
  ((info.options.filter fun option => lower option.1 = "secret".toList).getLast?.map fun option =>
    option.2.toString).getD []

/-- The credentials a catalog is attached with, by the secrets there are. -/
def AttachInfo.credentials (info : AttachInfo) (rTrim : RTrim) (secrets : GetSecretByName) :
    Outcome Credentials :=
  match info.unknownOption with
  | some option => raise .binderException ("Unrecognized option for UC attach: ".toList ++ option)
  | none =>
    let name := secretNameOrDefault info.secretName
    match (secrets name "memory".toList).or (secrets name "local_file".toList) with
    | some secret => .ok (secretCredentials rTrim secret)
    | none =>
      if info.secretName = [] then .ok ⟨[], [], []⟩
      else raise .binderException
        ("Secret with name \"".toList ++ info.secretName ++ "\" not found".toList)

theorem readAttachOption_of_unknown (secretName : Text) {option : Text × Value}
    (unknown : lower option.1 ∉ attachOptions) :
    readAttachOption secretName option =
      raise .binderException ("Unrecognized option for UC attach: ".toList ++ option.1) := by
  have others : lower option.1 ≠ "type".toList ∧ lower option.1 ≠ "read_only".toList ∧
      lower option.1 ≠ "secret".toList := by
    simpa only [attachOptions, List.mem_cons, List.not_mem_nil, or_false, not_or] using unknown
  unfold readAttachOption
  rw [if_neg (not_or.mpr ⟨others.1, others.2.1⟩), if_neg others.2.2]

theorem readAttachOption_of_known (secretName : Text) {option : Text × Value}
    (known : lower option.1 ∈ attachOptions) :
    readAttachOption secretName option =
      .ok (if lower option.1 = "secret".toList then option.2.toString else secretName) := by
  have names : lower option.1 = "type".toList ∨ lower option.1 = "read_only".toList ∨
      lower option.1 = "secret".toList := by
    simpa only [attachOptions, List.mem_cons, List.not_mem_nil, or_false] using known
  unfold readAttachOption
  rcases names with type | readOnly | secret
  · rw [if_pos (Or.inl type), type, if_neg (by decide)]
  · rw [if_pos (Or.inr readOnly), readOnly, if_neg (by decide)]
  · rw [secret, if_neg (by decide), if_pos rfl, if_pos rfl]

/-- The loop over the options, from the name it has got so far. -/
theorem foldlM_readAttachOption (options : List (Text × Value)) (secretName : Text) :
    options.foldlM readAttachOption secretName =
      match options.find? fun option => !attachOptions.contains (lower option.1) with
      | some option =>
        raise .binderException ("Unrecognized option for UC attach: ".toList ++ option.1)
      | none =>
        .ok (((options.filter fun option => lower option.1 = "secret".toList).getLast?.map
          fun option => option.2.toString).getD secretName) := by
  induction options generalizing secretName with
  | nil => rfl
  | cons option options inductionHypothesis =>
    rw [List.foldlM_cons]
    by_cases known : lower option.1 ∈ attachOptions
    · rw [readAttachOption_of_known secretName known, List.find?_cons_of_neg (by simpa using known)]
      show options.foldlM readAttachOption _ = _
      rw [inductionHypothesis]
      by_cases secret : lower option.1 = "secret".toList
      · rw [if_pos secret, List.filter_cons_of_pos (by simpa using secret), List.getLast?_cons]
        cases options.find? fun option => !attachOptions.contains (lower option.1) with
        | some unknown => rfl
        | none =>
          cases (options.filter fun option => lower option.1 = "secret".toList).getLast? <;> rfl
      · rw [if_neg secret, List.filter_cons_of_neg (by simpa using secret)]
    · rw [readAttachOption_of_unknown secretName known,
        List.find?_cons_of_pos (by simpa using known)]
      rfl

theorem givenSecretName_eq (info : AttachInfo) :
    givenSecretName info =
      match info.unknownOption with
      | some option =>
        raise .binderException ("Unrecognized option for UC attach: ".toList ++ option)
      | none => .ok info.secretName := by
  unfold givenSecretName AttachInfo.unknownOption
  rw [foldlM_readAttachOption]
  cases info.options.find? fun option => !attachOptions.contains (lower option.1) <;> rfl

/-- `ATTACH` makes a catalog of the credentials, or raises why there are none. -/
theorem ucCatalogAttach_eq (rTrim : RTrim) (secrets : GetSecretByName) (name : Text)
    (info : AttachInfo) :
    ucCatalogAttach rTrim secrets name info =
      (info.credentials rTrim secrets).map (attach name info.path) := by
  unfold ucCatalogAttach AttachInfo.credentials
  rw [givenSecretName_eq]
  cases info.unknownOption with
  | some option => rfl
  | none =>
    have sameLookup : getSecret secrets (secretNameOrDefault info.secretName) =
        (secrets (secretNameOrDefault info.secretName) "memory".toList).or
          (secrets (secretNameOrDefault info.secretName) "local_file".toList) := by
      unfold getSecret
      cases secrets (secretNameOrDefault info.secretName) "memory".toList <;> rfl
    show (match getSecret secrets (secretNameOrDefault info.secretName) with
      | some secret => _
      | none => _ : Outcome Catalog) = Except.map _
        (match (secrets (secretNameOrDefault info.secretName) "memory".toList).or
          (secrets (secretNameOrDefault info.secretName) "local_file".toList) with
        | some secret => _
        | none => _)
    rw [sameLookup]
    cases (secrets (secretNameOrDefault info.secretName) "memory".toList).or
        (secrets (secretNameOrDefault info.secretName) "local_file".toList) with
    | some secret => rfl
    | none =>
      show (if info.secretName ≠ [] then _ else _) = Except.map _ (if _ then _ else _)
      by_cases default : info.secretName = []
      · rw [if_pos default, if_neg (not_not.mpr default)]
        rfl
      · rw [if_neg default, if_pos default]
        rfl

/-- A catalog is made of the credentials of one secret, or of empty ones. -/
theorem ucCatalogAttach_eq_ok {rTrim : RTrim} {secrets : GetSecretByName} {name : Text}
    {info : AttachInfo} {catalog : Catalog}
    (made : ucCatalogAttach rTrim secrets name info = .ok catalog) :
    ∃ credentials, catalog = attach name info.path credentials ∧
      (credentials = ⟨[], [], []⟩ ∨ ∃ secretName storage secret,
        secrets secretName storage = some secret ∧
        credentials = secretCredentials rTrim secret) := by
  rw [ucCatalogAttach_eq] at made
  cases ends : info.credentials rTrim secrets with
  | error fault =>
    rw [ends] at made
    cases made
  | ok credentials =>
    rw [ends] at made
    cases made
    refine ⟨credentials, rfl, ?_⟩
    unfold AttachInfo.credentials at ends
    split at ends
    · cases ends
    · dsimp only at ends
      split at ends
      · rename_i secret found
        cases ends
        rcases Option.or_eq_some_iff.mp found with memory | ⟨_, localFile⟩
        · exact Or.inr ⟨_, _, secret, memory, rfl⟩
        · exact Or.inr ⟨_, _, secret, localFile, rfl⟩
      · split at ends
        · cases ends
          exact Or.inl rfl
        · cases ends

end UcCatalog
