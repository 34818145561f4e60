/-
This file reads the URLs of the requests for listings the way a server reads
them. The two calls append the names they ask for to a URL as they are, so a
name arrives as it is exactly when nothing in it ends the URL, the query or the
parameter, and nothing in it is decoded (`ArrivesWhole`).

An endpoint that has a query of its own runs the path of the request into its
last parameter. What is read there differs between the two requests, so one of
them carries a parameter that was not asked for.
-/

import UcCatalog.Api
import UcCatalog.QueryString

namespace UcCatalog

open QueryString

/-! ### What arrives of a URL -/

/-- Nothing in the text ends a URL, and nothing in it begins the query. -/
structure PlainEndpoint (endpoint : Text) : Prop where
  noTerminator : terminator ∉ endpoint
  noFragment : '#' ∉ endpoint
  noQuery : '?' ∉ endpoint

/-- A name that arrives as it is: nothing in it ends the URL or the parameter, and there is
nothing in it to decode. -/
structure ArrivesWhole (name : Text) : Prop where
  noTerminator : terminator ∉ name
  noFragment : '#' ∉ name
  noSeparator : '&' ∉ name
  literal : Literal name

theorem cString_append {front : Text} (noTerminator : terminator ∉ front) (rest : Text) :
    cString (front ++ rest) = front ++ cString rest :=
  List.takeWhile_append_of_pos (ne_of_not_mem noTerminator)

theorem cString_append_of_mem {front : Text} (zero : terminator ∈ front) (rest : Text) :
    cString (front ++ rest) = cString front := by
  obtain ⟨before, behind, rfl, free⟩ := List.eq_append_cons_of_mem zero
  rw [List.append_assoc, cString_append free, cString_append free]
  rfl

/-- What the server sees of a text that is appended to a query. -/
def arriving (text : Text) : Text := (cString text).takeWhile (· ≠ '#')

theorem arriving_isPrefix (text : Text) : arriving text <+: text :=
  (List.takeWhile_prefix _).trans (List.takeWhile_prefix _)

theorem arriving_append {front : Text} (noTerminator : terminator ∉ front)
    (noFragment : '#' ∉ front) (rest : Text) :
    arriving (front ++ rest) = front ++ arriving rest := by
  rw [arriving, cString_append noTerminator,
    List.takeWhile_append_of_pos (ne_of_not_mem noFragment)]
  rfl

theorem arriving_eq_self_iff (text : Text) :
    arriving text = text ↔ terminator ∉ text ∧ '#' ∉ text := by
  constructor
  · intro whole
    have inside {char : Char} (member : char ∈ text) : char ≠ terminator ∧ char ≠ '#' := by
      rw [← whole, arriving, cString] at member
      have notTerminator := List.mem_takeWhile_imp (List.takeWhile_subset _ member)
      have notFragment := List.mem_takeWhile_imp member
      exact ⟨of_decide_eq_true notTerminator, of_decide_eq_true notFragment⟩
    exact ⟨fun member => (inside member).1 rfl, fun member => (inside member).2 rfl⟩
  · rintro ⟨noTerminator, noFragment⟩
    have appended := arriving_append noTerminator noFragment []
    rwa [List.append_nil, show arriving [] = [] from rfl, List.append_nil] at appended

/-- A parameter at the end of a query carries a name exactly when the name arrives whole. -/
theorem queryParameters_arriving_iff {key : Text} (plain : '=' ∉ key) (one : '&' ∉ key)
    (literal : decode key = key) (name : Text) :
    queryParameters (key ++ '=' :: arriving name) = [(key, name)] ↔ ArrivesWhole name := by
  rw [queryParameters_assignment_iff plain one literal (arriving_isPrefix name),
    arriving_eq_self_iff]
  exact ⟨fun ⟨⟨noTerminator, noFragment⟩, noSeparator, isLiteral⟩ =>
      ⟨noTerminator, noFragment, noSeparator, isLiteral⟩,
    fun whole => ⟨⟨whole.noTerminator, whole.noFragment⟩, whole.noSeparator, whole.literal⟩⟩

/-! ### The two URLs -/

section Urls

variable (credentials : Credentials) (catalog schema : Text)

/-- The part of a URL all requests for listings share. -/
def listingRoot (endpoint : Text) : Text := endpoint ++ "/api/2.1/unity-catalog/".toList

def tablesParameters : List (Text × Text) :=
  [("catalog_name".toList, catalog), ("schema_name".toList, schema)]

def schemasParameters : List (Text × Text) := [("catalog_name".toList, catalog)]

theorem schemasUrl_eq :
    schemasUrl credentials catalog = (listingRoot credentials.endpoint ++ "schemas".toList) ++
      '?' :: ("catalog_name".toList ++ '=' :: catalog) := by
  simp [schemasUrl, listingRoot]

theorem tablesUrl_eq :
    tablesUrl credentials catalog schema =
      (listingRoot credentials.endpoint ++ "tables".toList) ++
        '?' :: ("catalog_name".toList ++ '=' ::
          (catalog ++ '&' :: ("schema_name".toList ++ '=' :: schema))) := by
  simp [tablesUrl, listingRoot]

theorem PlainEndpoint.append {endpoint path : Text} (plain : PlainEndpoint endpoint)
    (plainPath : PlainEndpoint path) : PlainEndpoint (endpoint ++ path) where
  noTerminator := by simp [plain.noTerminator, plainPath.noTerminator]
  noFragment := by simp [plain.noFragment, plainPath.noFragment]
  noQuery := by simp [plain.noQuery, plainPath.noQuery]

theorem plainEndpoint_listingRoot {endpoint : Text} (plain : PlainEndpoint endpoint) :
    PlainEndpoint (listingRoot endpoint) :=
  plain.append ⟨by decide, by decide, by decide⟩

/-- Behind a plain endpoint the query is read from its beginning. -/
theorem parameters_cString_append {front : Text} (plain : PlainEndpoint front) (query : Text) :
    parameters (cString (front ++ '?' :: query)) = queryParameters (arriving query) := by
  have mark : cString ('?' :: query) = '?' :: cString query := takeWhile_cons_of_ne (by decide) _
  rw [cString_append plain.noTerminator, mark, parameters_append plain.noQuery plain.noFragment]
  rfl

theorem parameters_schemasUrl (plain : PlainEndpoint credentials.endpoint) :
    parameters (cString (schemasUrl credentials catalog)) =
      queryParameters ("catalog_name".toList ++ '=' :: arriving catalog) := by
  have plainPath : PlainEndpoint "schemas".toList := ⟨by decide, by decide, by decide⟩
  rw [schemasUrl_eq, parameters_cString_append ((plainEndpoint_listingRoot plain).append plainPath),
    List.append_cons, arriving_append (by decide) (by decide), ← List.append_cons]

theorem parameters_tablesUrl (plain : PlainEndpoint credentials.endpoint)
    (whole : ArrivesWhole catalog) :
    parameters (cString (tablesUrl credentials catalog schema)) =
      ("catalog_name".toList, catalog) ::
        queryParameters ("schema_name".toList ++ '=' :: arriving schema) := by
  have plainPath : PlainEndpoint "tables".toList := ⟨by decide, by decide, by decide⟩
  have arrived : arriving ("catalog_name".toList ++ '=' :: (catalog ++ '&' ::
        ("schema_name".toList ++ '=' :: schema))) =
      ("catalog_name".toList ++ '=' :: catalog) ++ '&' ::
        ("schema_name".toList ++ '=' :: arriving schema) := by
    have separated (rest : Text) : '&' :: ("schema_name".toList ++ '=' :: rest) =
        "&schema_name=".toList ++ rest := by simp
    rw [List.append_cons, arriving_append (by decide) (by decide),
      arriving_append whole.noTerminator whole.noFragment, separated, separated,
      arriving_append (by decide) (by decide)]
    simp
  have one : '&' ∉ "catalog_name".toList ++ '=' :: catalog := by
    simp [whole.noSeparator]
  rw [tablesUrl_eq, parameters_cString_append ((plainEndpoint_listingRoot plain).append plainPath),
    arrived, queryParameters_cons one (by simp), parameter_assignment (by decide),
    (decode_eq_self_iff catalog).mpr whole.literal]
  rfl

variable {credentials catalog schema}

/-- Each URL carries the names it is built from, and nothing else. -/
structure UrlsCarry (credentials : Credentials) (catalog schema : Text) : Prop where
  tables : (parameters (cString (tablesUrl credentials catalog schema))).Perm
    (tablesParameters catalog schema)
  schemas : (parameters (cString (schemasUrl credentials catalog))).Perm
    (schemasParameters catalog)

/-- An endpoint that has a query runs the two paths into one parameter, and they differ there. -/
theorem UrlsCarry.not_queried (carried : UrlsCarry credentials catalog schema)
    (noTerminator : terminator ∉ credentials.endpoint)
    (noFragment : '#' ∉ credentials.endpoint) : '?' ∉ credentials.endpoint := by
  intro queried
  have rootFree : '#' ∉ listingRoot credentials.endpoint := by simp [listingRoot, noFragment]
  have rootWhole : terminator ∉ listingRoot credentials.endpoint := by
    simp only [listingRoot, List.mem_append, not_or]
    exact ⟨noTerminator, by decide⟩
  obtain ⟨tablesRest, tablesSent⟩ : ∃ rest, cString (tablesUrl credentials catalog schema) =
      listingRoot credentials.endpoint ++ 't' :: rest := by
    rw [tablesUrl_eq, List.append_assoc, cString_append rootWhole]
    exact ⟨_, rfl⟩
  have schemasSent : cString (schemasUrl credentials catalog) =
      listingRoot credentials.endpoint ++
        's' :: ("chemas?catalog_name".toList ++ '=' :: cString catalog) := by
    rw [schemasUrl_eq, List.append_assoc, cString_append rootWhole]
    simp [cString, terminator]
  have rootQueried : '?' ∈ listingRoot credentials.endpoint := List.mem_append_left _ queried
  obtain ⟨last, runsOn⟩ := exists_last_parameter rootQueried rootFree
  have inTables := runsOn 't' tablesRest (by decide) (by decide)
  have inSchemas := runsOn 's' ("chemas?catalog_name".toList ++ '=' :: cString catalog) (by decide)
    (by decide)
  rw [← tablesSent, carried.tables.mem_iff] at inTables
  rw [← schemasSent, carried.schemas.mem_iff, schemasParameters, List.mem_singleton] at inSchemas
  rcases parameter_append last with ⟨key, value, inValue⟩ | inKey
  · -- one value would be what the two paths become
    rw [inValue 't' _ (by decide), decode_cons_of_plain (by decide) (by decide)] at inTables
    rw [inValue 's' _ (by decide), decode_cons_of_plain (by decide) (by decide)] at inSchemas
    obtain ⟨rfl, schemasValue⟩ := Prod.mk.inj inSchemas
    rcases List.mem_pair.mp inTables with asCatalog | asSchema
    · have tablesValue := congrArg Prod.snd asCatalog
      have clash := List.append_cancel_left (tablesValue.trans schemasValue.symm)
      exact absurd (List.cons.inj clash).1 (by decide)
    · have keys : "catalog_name".toList = "schema_name".toList := congrArg Prod.fst asSchema
      exact absurd keys (by decide)
  · -- the path would be a part of the key
    rw [List.takeWhile_append_of_pos (ne_of_not_mem (by decide)), takeWhile_cons_of_ne (by decide),
      List.takeWhile_append_of_pos (ne_of_not_mem (by decide)),
      takeWhile_cons_of_ne (by decide)] at inSchemas
    have key : _ = "catalog_name".toList :=
      (inKey 's' _ (by decide) (by decide)).symm.trans (congrArg Prod.fst inSchemas)
    rw [List.takeWhile_append_of_pos (ne_of_not_mem (by decide)),
      List.takeWhile_cons_of_neg (by decide), List.append_nil] at key
    have longer : "catalog_name".toList.length <
        (decode ('s' :: "chemas?catalog_name".toList)).length := by decide
    have lengths := congrArg List.length key
    rw [List.length_append] at lengths
    omega

/-- An endpoint that lets both requests carry what they ask for is plain. -/
theorem UrlsCarry.plainEndpoint (carried : UrlsCarry credentials catalog schema) :
    PlainEndpoint credentials.endpoint := by
  have differ : parameters (cString (tablesUrl credentials catalog schema)) ≠
      parameters (cString (schemasUrl credentials catalog)) := by
    intro same
    have both := carried.tables.symm.trans (same ▸ carried.schemas)
    exact absurd both.length_eq (by simp [tablesParameters, schemasParameters])
  have noTerminator : terminator ∉ credentials.endpoint := by
    intro zero
    simp only [tablesUrl, schemasUrl, List.append_assoc, cString_append_of_mem zero,
      ne_eq, not_true_eq_false] at differ
  have noFragment : '#' ∉ credentials.endpoint := by
    intro fragment
    simp only [tablesUrl, schemasUrl, List.append_assoc, cString_append noTerminator,
      parameters_append_of_fragment fragment, ne_eq, not_true_eq_false] at differ
  exact ⟨noTerminator, noFragment, carried.not_queried noTerminator noFragment⟩

/-- Both URLs carry what they ask for exactly when the endpoint is plain and both names arrive
whole. -/
theorem urlsCarry_iff (credentials : Credentials) (catalog schema : Text) :
    UrlsCarry credentials catalog schema ↔
      PlainEndpoint credentials.endpoint ∧ ArrivesWhole catalog ∧ ArrivesWhole schema := by
  have named (plain : PlainEndpoint credentials.endpoint) :
      (parameters (cString (schemasUrl credentials catalog))).Perm (schemasParameters catalog) ↔
        ArrivesWhole catalog := by
    rw [parameters_schemasUrl _ _ plain, schemasParameters, List.perm_singleton]
    exact queryParameters_arriving_iff (by decide) (by decide) (by decide) catalog
  have both (plain : PlainEndpoint credentials.endpoint) (whole : ArrivesWhole catalog) :
      (parameters (cString (tablesUrl credentials catalog schema))).Perm
        (tablesParameters catalog schema) ↔ ArrivesWhole schema := by
    rw [parameters_tablesUrl _ _ _ plain whole, tablesParameters, List.perm_cons,
      List.perm_singleton]
    exact queryParameters_arriving_iff (by decide) (by decide) (by decide) schema
  constructor
  · intro carried
    have plain := carried.plainEndpoint
    have whole := (named plain).mp carried.schemas
    exact ⟨plain, whole, (both plain whole).mp carried.tables⟩
  · rintro ⟨plain, wholeCatalog, wholeSchema⟩
    exact ⟨(both plain wholeCatalog).mpr wholeSchema, (named plain).mpr wholeCatalog⟩

end Urls

/-! ### The calls -/

section Calls

variable (libraries : Libraries) (credentials : Credentials)

/-- Every request of a call carries these parameters, in some order, and no others. -/
def Carries {Result : Type} (call : EStateM Fault World Result)
    (expected : List (Text × Text)) : Prop :=
  Sends call fun request => (parameters request.url).Perm expected

/-- The two calls for listings ask for the names they are given, and for nothing else. -/
structure NamesAsked (catalog schema : Text) : Prop where
  tables : Carries (getTables libraries catalog schema credentials)
    (tablesParameters catalog schema)
  schemas : Carries (getSchemas libraries catalog credentials) (schemasParameters catalog)

theorem namesAsked_iff_urls (catalog schema : Text) :
    NamesAsked libraries credentials catalog schema ↔
      UrlsCarry credentials catalog schema := by
  have tables := sends_performRequest_iff (tablesUrl credentials catalog schema)
    (getRequestOf (tablesUrl credentials catalog schema) credentials.token)
    (fun body => Outcome.ofExcept (decodeTables libraries catalog schema body))
    fun request => (parameters request.url).Perm (tablesParameters catalog schema)
  have schemas := sends_performRequest_iff (schemasUrl credentials catalog)
    (getRequestOf (schemasUrl credentials catalog) credentials.token)
    (decodeSchemas libraries catalog)
    fun request => (parameters request.url).Perm (schemasParameters catalog)
  exact ⟨fun asked => ⟨tables.mp asked.tables, schemas.mp asked.schemas⟩,
    fun carried => ⟨tables.mpr carried.tables, schemas.mpr carried.schemas⟩⟩

omit libraries in
/-- A URL whose names have no separator is built from no other names. -/
theorem tablesUrl_inj {catalog schema otherCatalog otherSchema : Text}
    (noSeparator : '&' ∉ catalog) (none : '&' ∉ schema)
    (same : tablesUrl credentials catalog schema =
      tablesUrl credentials otherCatalog otherSchema) :
    catalog = otherCatalog ∧ schema = otherSchema := by
  rw [tablesUrl_eq, tablesUrl_eq] at same
  have queries := List.append_cancel_left (List.cons.inj (List.append_cancel_left same)).2
  have behind := (List.cons.inj queries).2
  have noneBehind : '&' ∉ "schema_name".toList ++ '=' :: schema := by simpa using none
  obtain ⟨catalogs, _, tails⟩ :=
    (List.append_cons_inj_of_notMem noSeparator noneBehind).mp behind
  exact ⟨catalogs, (List.cons.inj (List.append_cancel_left tails)).2⟩

/-- The calls ask for what they are given exactly when the endpoint is plain and both names
arrive whole, and then no other pair of names asks for its tables under the same URL. -/
theorem namesAsked_iff (catalog schema : Text) :
    (NamesAsked libraries credentials catalog schema ↔
      PlainEndpoint credentials.endpoint ∧ ArrivesWhole catalog ∧ ArrivesWhole schema) ∧
    (NamesAsked libraries credentials catalog schema → ∀ otherCatalog otherSchema,
      tablesUrl credentials catalog schema = tablesUrl credentials otherCatalog otherSchema →
      catalog = otherCatalog ∧ schema = otherSchema) := by
  have carries_iff := (namesAsked_iff_urls libraries credentials catalog schema).trans
    (urlsCarry_iff credentials catalog schema)
  refine ⟨carries_iff, fun asked otherCatalog otherSchema same => ?_⟩
  obtain ⟨_, wholeCatalog, wholeSchema⟩ := carries_iff.mp asked
  exact tablesUrl_inj credentials wholeCatalog.noSeparator wholeSchema.noSeparator same

end Calls

def plainHost : Credentials := ⟨"https://h".toList, [], []⟩

theorem namesAsked_plain :
    NamesAsked silentLibraries plainHost "uc".toList "my schema=1".toList := by
  refine (namesAsked_iff silentLibraries plainHost _ _).1.mpr ⟨⟨?_, ?_, ?_⟩, ⟨?_, ?_, ?_, ?_⟩,
    ⟨?_, ?_, ?_, ?_⟩⟩
  all_goals first | decide | exact (decode_eq_self_iff _).mp (by decide)

/-- A separator inside a name begins another parameter, and two pairs share one URL. -/
theorem namesAsked_separator :
    ¬ NamesAsked silentLibraries plainHost "a".toList "b&schema_name=c".toList ∧
      tablesUrl plainHost "a".toList "b&schema_name=c".toList =
        tablesUrl plainHost "a&schema_name=b".toList "c".toList := by
  refine ⟨fun asked => ?_, by decide⟩
  have carried := ((namesAsked_iff_urls silentLibraries plainHost _ _).mp asked).tables
  exact absurd carried.length_eq (by decide)

end UcCatalog
