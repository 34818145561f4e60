/-
This file is the way of a secret into an attached catalog: `CREATE SECRET` hands its
options to `CreateUCSecretFunction`, the secret manager keeps the secret, and
`ATTACH` finds it by name and makes the credentials of the catalog from it.

The token arrives as it was given. The region does so only if it stands beside an
endpoint: `UCCatalogAttach` asks whether there is an endpoint where it should ask
whether there is a region. A region without an endpoint is lost, and an endpoint
without a region makes the region the text of a null value.

The endpoint loses the slashes at its end by `StringUtil::RTrim`, which is DuckDB's
and a parameter here. `TrimsEnd` is what is known of it: besides the characters it is
given it passes over every byte that is no positive `char`, so that an endpoint which
ends in one loses it, too.
-/

import Mathlib.Data.List.DropRight
import Mathlib.Data.List.Find
import UcCatalog.Operations

namespace UcCatalog

/-! ### Values and secrets -/

/-- DuckDB's `Value`, as far as `IsNull` and `ToString` tell. -/
inductive Value where
  | null
  | text (contents : Text)
  deriving DecidableEq

def Value.isNull : Value → Bool
  | .null => true
  | .text _ => false

def Value.toString : Value → Text
  | .null => "NULL".toList
  | .text contents => contents

/-- DuckDB's `KeyValueSecret`. -/
structure KeyValueSecret where
  prefixPaths : List Text
  type : Text
  provider : Text
  name : Text
  secretMap : FoldedMap lower Value
  redactKeys : List Text

/-- `KeyValueSecret::TryGetValue`. -/
def KeyValueSecret.tryGetValue (secret : KeyValueSecret) (key : Text) : Value :=
  (secret.secretMap.find key).getD .null

/-! ### Trimming -/

/-- `StringUtil::RTrim`. -/
abbrev RTrim := Text → Text → Text

/-- The front of the text, when the characters at its end that are to be cut are gone. -/
structure Trimmed (cut : Char → Prop) (text front : Text) : Prop where
  tail : ∃ tail, text = front ++ tail ∧ ∀ char ∈ tail, cut char
  kept : ∀ char, front.getLast? = some char → ¬ cut char

/-- What `RTrim` passes over: the characters to be trimmed, and bytes that are no positive
`char`. These are the zero and all bytes of a character outside ASCII. -/
def PassedOver (charsToTrim : Text) (char : Char) : Prop :=
  char ∈ charsToTrim ∨ char = terminator ∨ 128 ≤ char.toNat

instance (charsToTrim : Text) : DecidablePred (PassedOver charsToTrim) := fun char =>
  inferInstanceAs (Decidable (char ∈ charsToTrim ∨ char = terminator ∨ 128 ≤ char.toNat))

/-- What is known of `RTrim`. -/
def TrimsEnd (rTrim : RTrim) : Prop :=
  ∀ text charsToTrim, Trimmed (PassedOver charsToTrim) text (rTrim text charsToTrim)

theorem Trimmed.unique {cut : Char → Prop} {text front other : Text}
    (trimmed : Trimmed cut text front) (otherTrimmed : Trimmed cut text other) :
    front = other := by
  have longer {front other tail otherTail : Text} (same : front ++ tail = other ++ otherTail)
      (cutTail : ∀ char ∈ tail, cut char)
      (kept : ∀ char, other.getLast? = some char → ¬ cut char)
      (inFront : ∃ middle, other = front ++ middle) : front = other := by
    obtain ⟨middle, rfl⟩ := inFront
    rw [List.append_assoc] at same
    cases List.append_cancel_left same
    rcases List.eq_nil_or_concat middle with rfl | ⟨initial, last, rfl⟩
    · rw [List.append_nil]
    · exact absurd (cutTail last (by simp)) (kept last (by simp))
  obtain ⟨⟨tail, same, cutTail⟩, kept⟩ := trimmed
  obtain ⟨⟨otherTail, otherSame, otherCutTail⟩, otherKept⟩ := otherTrimmed
  rcases List.append_eq_append_iff.mp (same.symm.trans otherSame) with
    ⟨middle, goesOn, _⟩ | ⟨middle, goesOn, _⟩
  · exact longer (same.symm.trans otherSame) cutTail otherKept ⟨middle, goesOn⟩
  · exact (longer (otherSame.symm.trans same) otherCutTail kept ⟨middle, goesOn⟩).symm

theorem trimmed_rdropWhile (cut : Char → Prop) [DecidablePred cut] (text : Text) :
    Trimmed cut text (text.rdropWhile fun char => cut char) where
  tail := by
    refine ⟨text.rtakeWhile fun char => cut char, ?_, fun char member => ?_⟩
    · exact List.rdropWhile_append_rtakeWhile.symm
    · exact of_decide_eq_true (List.mem_rtakeWhile_imp (p := fun char => cut char) member)
  kept := by
    intro char last isCut
    have nonempty : text.rdropWhile (fun char => cut char) ≠ [] := by
      intro empty
      rw [empty] at last
      exact nomatch last
    rw [List.getLast?_eq_some_getLast nonempty] at last
    have differs := List.rdropWhile_last_not _ _ nonempty
    exact differs (decide_eq_true (Option.some.inj last ▸ isCut))

/-- What is left of the text without its trailing slashes ends in a positive `char`. -/
def EndsPlain (text : Text) : Prop :=
  ∀ front, Trimmed (· = '/') text front → ∀ char, front.getLast? = some char →
    char ≠ terminator ∧ char.toNat < 128

/-- The slashes alone are cut exactly where nothing else in front of them is passed over. -/
theorem trimmed_slashes_iff {rTrim : RTrim} (trims : TrimsEnd rTrim) (text : Text) :
    Trimmed (· = '/') text (rTrim text "/".toList) ↔ EndsPlain text := by
  have cut := trims text "/".toList
  constructor
  · intro trimmed front frontTrimmed char last
    rw [frontTrimmed.unique trimmed] at last
    have kept := cut.kept char last
    unfold PassedOver at kept
    push Not at kept
    exact kept.2
  · intro plain
    have trimmed := trimmed_rdropWhile (· = '/') text
    obtain ⟨tail, same, slashes⟩ := trimmed.tail
    have passed :
        Trimmed (PassedOver "/".toList) text (text.rdropWhile fun char => char = '/') := by
      refine ⟨⟨tail, same, fun char member => Or.inl ?_⟩, fun char last => ?_⟩
      · rw [slashes char member]
        exact List.mem_singleton_self _
      · obtain ⟨nonzero, ascii⟩ := plain _ trimmed char last
        rintro (slash | zero | outside)
        · exact trimmed.kept char last (List.mem_singleton.mp slash)
        · exact nonzero zero
        · exact Nat.not_le_of_lt ascii outside
    rw [cut.unique passed]
    exact trimmed

/-! ### `CREATE SECRET` -/

/-- `SetUCSecretParameters`: the options DuckDB lets through, each of them a `VARCHAR`. -/
def ucSecretParameters : List Text :=
  ["token".toList, "endpoint".toList, "aws_region".toList]

/-- One turn of the loop in `CreateUCSecretFunction`. -/
def setSecretOption (secretMap : FoldedMap lower Value) (namedParam : Text × Value) :
    Outcome (FoldedMap lower Value) :=
  let lowerName := lower namedParam.1
  if lowerName = "token".toList then
    .ok (secretMap.assign "token".toList (.text namedParam.2.toString))
  else if lowerName = "endpoint".toList then
    .ok (secretMap.assign "endpoint".toList (.text namedParam.2.toString))
  else if lowerName = "aws_region".toList then
    .ok (secretMap.assign "aws_region".toList (.text namedParam.2.toString))
  else
    raise .internalException
      ("Unknown named parameter passed to CreateUCSecretFunction: ".toList ++ lowerName)

/-- `CreateUCSecretFunction`. -/
def createUCSecretFunction (name : Text) (options : FoldedMap lower Value) :
    Outcome KeyValueSecret := do
  let secretMap ← options.bindings.foldlM setSecretOption (.empty lower Value)
  return {
    prefixPaths := []
    type := "uc".toList
    provider := "config".toList
    name
    secretMap
    redactKeys := ["token".toList] }

/-! ### `ATTACH` -/

/-- `SecretManager::GetSecretByName`: the secret of a name in a storage. -/
abbrev GetSecretByName := Text → Text → Option KeyValueSecret

/-- `GetSecret`. -/
def getSecret (getSecretByName : GetSecretByName) (secretName : Text) : Option KeyValueSecret :=
  match getSecretByName secretName "memory".toList with
  | some secretEntry => some secretEntry
  | none => getSecretByName secretName "local_file".toList

/-- The part of DuckDB's `AttachInfo` that `UCCatalogAttach` reads. -/
structure AttachInfo where
  path : Text
  options : List (Text × Value)

/-- One turn of the loop in `UCCatalogAttach`. -/
def readAttachOption (secretName : Text) (entry : Text × Value) : Outcome Text :=
  let lowerName := lower entry.1
  if lowerName = "type".toList ∨ lowerName = "read_only".toList then .ok secretName
  else if lowerName = "secret".toList then .ok entry.2.toString
  else raise .binderException ("Unrecognized option for UC attach: ".toList ++ entry.1)

/-- The loop over the options of `ATTACH`: the name of the secret, empty when none is given. -/
def givenSecretName (info : AttachInfo) : Outcome Text := info.options.foldlM readAttachOption []

/-- The name a secret is looked up under. -/
def secretNameOrDefault (secretName : Text) : Text :=
  if secretName = [] then "__default_uc".toList else secretName

/-- The credentials `UCCatalogAttach` reads from a secret. Whether there is a region is asked of
the endpoint. -/
def secretCredentials (rTrim : RTrim) (kvSecret : KeyValueSecret) : Credentials :=
  let inputVal := kvSecret.tryGetValue "token".toList
  let endpointVal := kvSecret.tryGetValue "endpoint".toList
  let awsRegionVal := kvSecret.tryGetValue "aws_region".toList
  { token := if inputVal.isNull then [] else inputVal.toString
    endpoint := rTrim (if endpointVal.isNull then [] else endpointVal.toString) "/".toList
    awsRegion := if endpointVal.isNull then [] else awsRegionVal.toString }

/-- `UCCatalogAttach`. -/
def ucCatalogAttach (rTrim : RTrim) (getSecretByName : GetSecretByName) (name : Text)
    (info : AttachInfo) : Outcome Catalog := do
  let secretName ← givenSecretName info
  match getSecret getSecretByName (secretNameOrDefault secretName) with
  | some secretEntry => return attach name info.path (secretCredentials rTrim secretEntry)
  | none =>
    if secretName ≠ [] then
      raise .binderException
        ("Secret with name \"".toList ++ secretName ++ "\" not found".toList)
    else return attach name info.path { endpoint := [], token := [], awsRegion := [] }

/-! ### What the secret holds -/

/-- The options are among those DuckDB lets through. -/
def KnownOptions (options : List (Text × Value)) : Prop :=
  ∀ option ∈ options, lower option.1 ∈ ucSecretParameters

theorem lower_of_known {name : Text} (known : lower name ∈ ucSecretParameters) :
    lower (lower name) = lower name := by
  have names : ∀ parameter ∈ ucSecretParameters, lower parameter = parameter := by decide
  exact names _ known

/-- The binding an option becomes in the secret. -/
def secretBinding (option : Text × Value) : Text × Value :=
  (lower option.1, .text option.2.toString)

theorem setSecretOption_of_known (secretMap : FoldedMap lower Value) {option : Text × Value}
    (known : lower option.1 ∈ ucSecretParameters) :
    setSecretOption secretMap option =
      .ok (secretMap.assign (secretBinding option).1 (secretBinding option).2) := by
  unfold setSecretOption secretBinding
  have names : lower option.1 = "token".toList ∨ lower option.1 = "endpoint".toList ∨
      lower option.1 = "aws_region".toList := by
    simpa only [ucSecretParameters, List.mem_cons, List.not_mem_nil, or_false] using known
  rcases names with token | endpoint | region
  · rw [token, if_pos rfl]
  · rw [endpoint, if_neg (by decide), if_pos rfl]
  · rw [region, if_neg (by decide), if_neg (by decide), if_pos rfl]

theorem foldlM_setSecretOption (secretMap : FoldedMap lower Value)
    {options : List (Text × Value)} (known : KnownOptions options) :
    options.foldlM setSecretOption secretMap =
      .ok (secretMap.assignAll (options.map secretBinding)) := by
  induction options generalizing secretMap with
  | nil => rfl
  | cons option options inductionHypothesis =>
    rw [List.foldlM_cons, setSecretOption_of_known secretMap (known option List.mem_cons_self)]
    exact inductionHypothesis _ fun other member => known other (List.mem_cons_of_mem _ member)

/-- The secret of good options. -/
def secretOf (name : Text) (options : FoldedMap lower Value) : KeyValueSecret where
  prefixPaths := []
  type := "uc".toList
  provider := "config".toList
  name := name
  secretMap := (FoldedMap.empty lower Value).assignAll (options.bindings.map secretBinding)
  redactKeys := ["token".toList]

theorem createUCSecretFunction_of_known (name : Text) {options : FoldedMap lower Value}
    (known : KnownOptions options.bindings) :
    createUCSecretFunction name options = .ok (secretOf name options) := by
  rw [createUCSecretFunction, foldlM_setSecretOption _ known]
  rfl

/-- The secret holds every option under its name in lower case. -/
theorem tryGetValue_secretOf (name : Text) {options : FoldedMap lower Value}
    (known : KnownOptions options.bindings) (key : Text) :
    (secretOf name options).tryGetValue key =
      ((options.find key).map fun value => .text value.toString).getD .null := by
  have folded : ∀ option ∈ options.bindings, lower (secretBinding option).1 = lower option.1 :=
    fun option member => lower_of_known (known option member)
  have apart : ((options.bindings.map secretBinding).map fun binding => lower binding.1).Nodup := by
    rw [List.map_map, List.map_congr_left (g := fun option => lower option.1) folded]
    exact options.distinct
  have found := FoldedMap.find_assignAll (.empty lower Value) apart key
  have sameOption : options.bindings.find? ((fun binding => decide (lower binding.1 = lower key)) ∘
      secretBinding) = options.bindings.find? fun option => decide (lower option.1 = lower key) :=
    List.find?_congr fun option member =>
      decide_eq_decide.mpr (folded option member ▸ Iff.rfl)
  rw [FoldedMap.find_empty, Option.or_none, List.find?_map, sameOption, Option.map_map] at found
  show ((FoldedMap.assignAll _ _).find key).getD Value.null = _
  rw [found, FoldedMap.find, Option.map_map]
  rfl

/-! ### What the catalog gets -/

/-- What `ToString` makes of an option, if it is given. -/
def optionText (options : FoldedMap lower Value) (name : String) : Option Text :=
  (options.find name.toList).map Value.toString

/-- Every option arrives as it was given: in its own field, and empty when it was not. -/
structure Delivered (options : FoldedMap lower Value) (credentials : Credentials) : Prop where
  token : credentials.token = (optionText options "token").getD []
  endpoint : Trimmed (· = '/') ((optionText options "endpoint").getD []) credentials.endpoint
  awsRegion : credentials.awsRegion = (optionText options "aws_region").getD []

/-- There is a region if there is an endpoint, and none but the empty one otherwise. -/
def RegionWithEndpoint (options : FoldedMap lower Value) : Prop :=
  if optionText options "endpoint" = none then (optionText options "aws_region").getD [] = []
  else optionText options "aws_region" ≠ none

/-- The secret `ATTACH` finds. -/
def Resolves (getSecretByName : GetSecretByName) (info : AttachInfo) (secret : KeyValueSecret) :
    Prop :=
  ∃ secretName, givenSecretName info = .ok secretName ∧
    getSecret getSecretByName (secretNameOrDefault secretName) = some secret

theorem ucCatalogAttach_of_resolves (rTrim : RTrim) {getSecretByName : GetSecretByName}
    {info : AttachInfo} {secret : KeyValueSecret} (resolves : Resolves getSecretByName info secret)
    (name : Text) :
    ucCatalogAttach rTrim getSecretByName name info =
      .ok (attach name info.path (secretCredentials rTrim secret)) := by
  obtain ⟨secretName, given, found⟩ := resolves
  rw [ucCatalogAttach, given]
  show (match getSecret getSecretByName (secretNameOrDefault secretName) with
    | some secretEntry => _
    | none => _ : Outcome Catalog) = _
  rw [found]
  rfl

section Delivery

variable (name : Text) {options : FoldedMap lower Value} (known : KnownOptions options.bindings)

include known

/-- What the secret has for an option: the text of the value, and no value where there is no
option. -/
theorem tryGetValue_of_option (key : String) :
    (secretOf name options).tryGetValue key.toList =
      match optionText options key with
      | none => .null
      | some text => .text text := by
  rw [tryGetValue_secretOf name known, optionText]
  cases options.find key.toList <;> rfl

/-- A field that asks for its own option gets it, or nothing. -/
theorem field_of_option (key : String) :
    (if ((secretOf name options).tryGetValue key.toList).isNull then []
      else ((secretOf name options).tryGetValue key.toList).toString) =
      (optionText options key).getD [] := by
  rw [tryGetValue_of_option name known key]
  cases optionText options key <;> rfl

theorem awsRegion_of_options (rTrim : RTrim) :
    (secretCredentials rTrim (secretOf name options)).awsRegion =
      if optionText options "endpoint" = none then []
      else (optionText options "aws_region").getD "NULL".toList := by
  show (if ((secretOf name options).tryGetValue "endpoint".toList).isNull then []
    else ((secretOf name options).tryGetValue "aws_region".toList).toString) = _
  rw [tryGetValue_of_option name known, tryGetValue_of_option name known]
  cases optionText options "endpoint" <;> cases optionText options "aws_region" <;> rfl

theorem endpoint_of_options (rTrim : RTrim) :
    (secretCredentials rTrim (secretOf name options)).endpoint =
      rTrim ((optionText options "endpoint").getD []) "/".toList := by
  rw [← field_of_option name known "endpoint"]
  rfl

theorem delivered_iff {rTrim : RTrim} (trims : TrimsEnd rTrim) :
    Delivered options (secretCredentials rTrim (secretOf name options)) ↔
      RegionWithEndpoint options ∧ EndsPlain ((optionText options "endpoint").getD []) := by
  have region := awsRegion_of_options name known rTrim
  have endpoint := endpoint_of_options name known rTrim
  unfold RegionWithEndpoint
  constructor
  · intro delivered
    constructor
    · have same := region.symm.trans delivered.awsRegion
      split_ifs at same ⊢ with absent
      · exact same.symm
      · intro lost
        rw [lost] at same
        exact absurd same (by decide)
    · rw [← trimmed_slashes_iff trims, ← endpoint]
      exact delivered.endpoint
  · rintro ⟨condition, plain⟩
    refine ⟨field_of_option name known "token", ?_, ?_⟩
    · rw [endpoint]
      exact (trimmed_slashes_iff trims _).mpr plain
    · rw [region]
      split_ifs at condition ⊢ with absent
      · exact condition.symm
      · obtain ⟨text, given⟩ := Option.ne_none_iff_exists'.mp condition
        rw [given]
        rfl

end Delivery

/-- Known options make a secret, and `ATTACH` delivers them from it exactly when the region is
given with the endpoint, and the endpoint ends in nothing but slashes that `RTrim` passes over. -/
theorem attach_delivers_iff (rTrim : RTrim) (trims : TrimsEnd rTrim) (secretName : Text)
    (options : FoldedMap lower Value) (known : KnownOptions options.bindings) :
    ∃ secret, createUCSecretFunction secretName options = .ok secret ∧
      ∀ getSecretByName name info, Resolves getSecretByName info secret →
        ∃ catalog, ucCatalogAttach rTrim getSecretByName name info = .ok catalog ∧
          (Delivered options catalog.credentials ↔
            RegionWithEndpoint options ∧
              EndsPlain ((optionText options "endpoint").getD [])) := by
  refine ⟨_, createUCSecretFunction_of_known secretName known, ?_⟩
  intro getSecretByName name info resolves
  exact ⟨_, ucCatalogAttach_of_resolves rTrim resolves name,
    delivered_iff secretName known trims⟩

/-- An `RTrim` over characters. -/
def rTrimChars : RTrim := fun text charsToTrim =>
  text.rdropWhile fun char => PassedOver charsToTrim char

theorem rTrimChars_trimsEnd : TrimsEnd rTrimChars := fun text charsToTrim =>
  trimmed_rdropWhile (PassedOver charsToTrim) text

/-- An endpoint and a region, with the keys in any case. -/
def endpointAndRegion : FoldedMap lower Value :=
  ⟨[("Aws_Region".toList, .text "us-west-2".toList),
    ("ENDPOINT".toList, .text "http://localhost:8080/".toList)], by decide⟩

theorem attach_delivers_iff_both :
    ∃ secret catalog, createUCSecretFunction "__default_uc".toList endpointAndRegion = .ok secret ∧
      ucCatalogAttach rTrimChars (fun _ _ => some secret) "uc".toList ⟨"uc".toList, []⟩ =
        .ok catalog ∧
      (Delivered endpointAndRegion catalog.credentials ↔ RegionWithEndpoint endpointAndRegion ∧
        EndsPlain "http://localhost:8080/".toList) := by
  have known : KnownOptions endpointAndRegion.bindings := by
    intro option member
    rcases List.mem_pair.mp member with rfl | rfl <;> decide
  obtain ⟨secret, created, attaches⟩ := attach_delivers_iff rTrimChars rTrimChars_trimsEnd
    "__default_uc".toList endpointAndRegion known
  obtain ⟨catalog, attached, delivered⟩ :=
    attaches (fun _ _ => some secret) "uc".toList ⟨"uc".toList, []⟩ ⟨[], rfl, rfl⟩
  exact ⟨secret, catalog, created, attached, delivered⟩

/-- A region and nothing else. -/
def regionOnly : FoldedMap lower Value :=
  ⟨[("aws_region".toList, .text "us-west-2".toList)], by decide⟩

/-- A region without an endpoint does not arrive. -/
theorem attach_delivers_regionOnly :
    ¬ ∀ (rTrim : RTrim) (secretName : Text) (options : FoldedMap lower Value)
      (secret : KeyValueSecret), TrimsEnd rTrim →
      KnownOptions options.bindings → createUCSecretFunction secretName options = .ok secret →
      ∀ getSecretByName name info, Resolves getSecretByName info secret →
        ∃ catalog, ucCatalogAttach rTrim getSecretByName name info = .ok catalog ∧
          Delivered options catalog.credentials := by
  intro delivers
  have known : KnownOptions regionOnly.bindings := by
    intro option member
    rw [List.mem_singleton.mp member]
    decide
  obtain ⟨catalog, attached, delivered⟩ := delivers rTrimChars [] regionOnly _ rTrimChars_trimsEnd
    known (createUCSecretFunction_of_known [] known) (fun _ _ => some (secretOf [] regionOnly))
    "uc".toList ⟨"uc".toList, []⟩ ⟨[], rfl, rfl⟩
  rw [ucCatalogAttach_of_resolves rTrimChars ⟨[], rfl, rfl⟩] at attached
  cases attached
  have lost := awsRegion_of_options [] known rTrimChars
  exact absurd (lost.symm.trans delivered.awsRegion) (by decide)

end UcCatalog
