/-
This file is about who talks to whom in a session with several catalogs. A command
sends one request at most, for the one catalog it calls. The request goes to the
endpoint of that catalog and carries the token of that catalog, and both are from
one secret: no token ever reaches an endpoint it was not given with.

Credentials are followed from the command that has set a secret over `ATTACH` to the
request.
-/

import UcCatalog.SessionSecrets

namespace UcCatalog

open Stateful

/-! ### Where credentials come from -/

/-- The credentials are empty, or all from one secret of the session. -/
def CredentialsFrom {Secrets BindData : Type} (duckdb : SessionLibraries Secrets BindData)
    (start : Session Secrets) (commands : List Command) (credentials : Credentials) : Prop :=
  credentials = ⟨[], [], []⟩ ∨ ∃ secret, SecretOrigin duckdb start commands secret ∧
    credentials = secretCredentials duckdb.rTrim secret

/-- A request of a catalog: for a listing, or for the credentials of a table. It carries the token
of the catalog and goes to its endpoint. -/
structure Catalog.Sends (catalog : Catalog) (request : Request) : Prop where
  form : (∃ source, request = (catalog.attachment silentLibraries).request source) ∨
    ∃ tableId, request = credentialsRequest tableId catalog.credentials
  token : request.token = cString catalog.credentials.token
  endpoint : cString catalog.credentials.endpoint <+: request.url

/-- The catalog a command calls. -/
def Command.Calls (oid : Nat) : Command → Prop
  | .call other _ => other = oid
  | .scanTable other _ _ => other = oid
  | _ => False

theorem CredentialsFrom.append {Secrets BindData : Type}
    {duckdb : SessionLibraries Secrets BindData} {start : Session Secrets}
    {commands : List Command} {credentials : Credentials}
    (origin : CredentialsFrom duckdb start commands credentials) (further : List Command) :
    CredentialsFrom duckdb start (commands ++ further) credentials :=
  origin.imp id fun ⟨secret, stored, same⟩ => ⟨secret, stored.append further, same⟩

theorem cString_prefix_append (text rest : Text) : cString text <+: cString (text ++ rest) := by
  induction text with
  | nil => exact List.nil_prefix
  | cons char text inductionHypothesis =>
    unfold cString at inductionHypothesis ⊢
    rw [List.cons_append, List.takeWhile_cons, List.takeWhile_cons]
    split
    · exact (List.prefix_cons_inj char).mpr inductionHypothesis
    · exact List.prefix_rfl

theorem sends_listing (libraries : Libraries) (catalog : Catalog) (source : Source) :
    catalog.Sends ((catalog.attachment libraries).request source) where
  form := Or.inl ⟨source, by cases source <;> rfl⟩
  token := by cases source <;> rfl
  endpoint := by
    cases source with
    | schemas =>
      show _ <+: cString (_ ++ _ ++ _)
      rw [List.append_assoc]
      exact cString_prefix_append _ _
    | tables schema =>
      show _ <+: cString (_ ++ _ ++ _ ++ _ ++ _)
      simp only [List.append_assoc]
      exact cString_prefix_append _ _

theorem sends_credentialsRequest (catalog : Catalog) (tableId : Text) :
    catalog.Sends (credentialsRequest tableId catalog.credentials) where
  form := Or.inr ⟨tableId, rfl⟩
  token := rfl
  endpoint := cString_prefix_append _ _

section Session

variable {Secrets BindData : Type} {duckdb : SessionLibraries Secrets BindData}
variable {session : Session Secrets} {oid : Nat}

/-! ### One command -/

/-- What a command sends: one request of the catalog it calls, or none. -/
structure SendsFor (session next : Session Secrets) (command : Command)
    (requests : List Request) : Prop where
  sent : next.world.sent = session.world.sent ++ requests
  atMostOne : requests.length ≤ 1
  own : ∀ request ∈ requests, ∃ oid catalog clears, command.Calls oid ∧
    session.databases.find oid = some (.uc catalog clears) ∧ catalog.Sends request

theorem SendsFor.none {next : Session Secrets} {command : Command}
    (sent : next.world.sent = session.world.sent) : SendsFor session next command [] where
  sent := by rw [sent, List.append_nil]
  atMostOne := Nat.zero_le 1
  own _ member := absurd member List.not_mem_nil

/-- An entry that is found has its catalog attached. -/
theorem attached_of_tableEntry {schema : SchemaHandle} {table : Text} {catalog : Catalog}
    {entry : TableEntry} (cached : session.tableEntry oid schema table = some (catalog, entry)) :
    ∃ clears, session.databases.find oid = some (.uc catalog clears) := by
  unfold Session.tableEntry at cached
  cases found : session.databases.find oid with
  | none =>
    rw [found] at cached
    exact nomatch cached
  | some database =>
    rw [found] at cached
    cases database with
    | other catalogType => exact nomatch cached
    | uc other clears =>
      obtain ⟨schemaEntry, _, rest⟩ := Option.bind_eq_some_iff.mp cached
      obtain ⟨tableEntry, _, same⟩ := Option.bind_eq_some_iff.mp rest
      cases same
      exact ⟨clears, rfl⟩

theorem sendsFor_call (sound : session.Sound duckdb.libraries) (oid : Nat)
    (op : CatalogCall) : ∃ requests, SendsFor session
      (after ((Command.call oid op).run duckdb session)) (.call oid op) requests := by
  rcases attached_or_absent session oid with ⟨catalog, clears, found⟩ | absent
  · obtain ⟨snapshot, serves⟩ := sound.served oid catalog clears found
    obtain ⟨ending, following, requests, sends, called⟩ := call_of_serves serves op
    rw [called, after_finish]
    refine ⟨requests, rfl, sends.atMostOne, fun request member => ?_⟩
    obtain ⟨source, rfl⟩ := sends.listings request member
    exact ⟨oid, catalog, clears, rfl, found, sends_listing _ catalog source⟩
  · rw [Command.run, onCatalog_of_absent absent]
    exact ⟨[], .none rfl⟩

theorem sendsFor_scanTable (oid : Nat) (schema : SchemaHandle) (table : Text) :
    ∃ requests, SendsFor session
      (after ((Command.scanTable oid schema table).run duckdb session))
      (.scanTable oid schema table) requests := by
  rw [after_scanTable]
  cases cached : session.tableEntry oid schema table with
  | none => exact ⟨[], .none rfl⟩
  | some found =>
    obtain ⟨catalog, entry⟩ := found
    rcases @scanLeaves_getScanFunction _ _ duckdb.toScanLibraries entry catalog.credentials
      session.scanPart with untouched | ⟨data, _, leaves⟩
    · refine ⟨[], .none ?_⟩
      show (after
        (getScanFunction duckdb.toScanLibraries entry catalog.credentials _)).world.sent = _
      rw [untouched]
      rfl
    · obtain ⟨requests, within, same⟩ := World.exists_tried session.world.remote
        (credentialsRequest data.tableId catalog.credentials) true
      refine ⟨requests, ?_, within.length_le, fun request member => ?_⟩
      · show (after
          (getScanFunction duckdb.toScanLibraries entry catalog.credentials _)).world.sent = _
        rw [leaves.world]
        exact same session.world.sent
      · obtain ⟨clears, attached⟩ := attached_of_tableEntry cached
        obtain rfl := List.mem_singleton.mp (within.subset member)
        exact ⟨oid, catalog, clears, rfl, attached, sends_credentialsRequest catalog data.tableId⟩

theorem sendsFor_step (sound : session.Sound duckdb.libraries) (command : Command) :
    ∃ requests, SendsFor session (after (command.run duckdb session)) command requests := by
  have named (names : command.NamesSecret) :
      ∃ requests, SendsFor session (after (command.run duckdb session)) command requests := by
    obtain ⟨secrets, left⟩ := @after_namesSecret _ _ duckdb session command names
    rw [left]
    exact ⟨[], .none rfl⟩
  cases command with
  | call oid op => exact sendsFor_call sound oid op
  | scanTable oid schema table => exact sendsFor_scanTable oid schema table
  | createSecret | dropSecret | otherSecret => exact named trivial
  | attach name info =>
    rw [Command.run, bind_of_ok _ (run_get session)]
    refine ⟨[], .none ?_⟩
    cases ucCatalogAttach duckdb.rTrim (duckdb.getSecretByName session.secrets) name info <;> rfl
  | clearCacheFunction pulls =>
    refine ⟨[], .none ?_⟩
    cases pulls with
    | zero => rfl
    | succ pulls =>
      rw [Command.run, bind_of_ok _ (pullClearCache_succ pulls)]
      rfl
  | attachOther | detach | clearCacheOnSetting | serverChange => exact ⟨[], .none rfl⟩

/-! ### Credentials along a run -/

/-- After the commands, the credentials of every attached catalog are from a secret. -/
def Provenance (duckdb : SessionLibraries Secrets BindData) (start : Session Secrets)
    (commands : List Command) : Prop :=
  ∀ oid catalog clears,
    (start.after duckdb commands).databases.find oid = some (.uc catalog clears) →
      CredentialsFrom duckdb start commands catalog.credentials

theorem provenance_step (documented : duckdb.Documented) {start : Session Secrets}
    {commands : List Command} (sound : (start.after duckdb commands).Sound duckdb.libraries)
    (provenance : Provenance duckdb start commands) (command : Command) :
    Provenance duckdb start (commands ++ [command]) := by
  intro oid catalog clears found
  rw [Session.after_append] at found
  rcases catalog_step command found with ⟨stays, old, before, here⟩ | ⟨_, name, info, _, made⟩
  · have same := (catalog_goes_on sound stays here found).1
    rw [show catalog.credentials = old.credentials from congrArg Attachment.credentials same]
    exact (provenance oid old before here).append _
  · obtain ⟨credentials, rfl, origin⟩ := ucCatalogAttach_eq_ok made
    refine origin.imp id ?_
    rintro ⟨secretName, storage, secret, here, same⟩
    exact ⟨secret, (secrets_haveOrigin documented start commands storage secretName secret
      here).append _, same⟩

theorem provenance_after (documented : duckdb.Documented) (world : World) (secrets : Secrets)
    (commands : List Command) : Provenance duckdb (.start world secrets) commands := by
  induction commands using List.reverseRecOn with
  | nil => exact nofun
  | append_singleton commands command inductionHypothesis =>
    exact provenance_step documented (sound_after (sound_start ..) commands) inductionHypothesis
      command

/-- Every command sends one request or none. It is a request of the catalog the command calls, with
that catalog's token to that catalog's endpoint, and these are from one secret. -/
theorem requests_confined (documented : duckdb.Documented) (world : World) (secrets : Secrets)
    (earlier : List Command) (command : Command) :
    let start := Session.start world secrets
    let before := start.after duckdb earlier
    ∃ requests, (before.after duckdb [command]).world.sent = before.world.sent ++ requests ∧
      requests.length ≤ 1 ∧
      ∀ request ∈ requests, ∃ oid catalog clears, command.Calls oid ∧
        before.databases.find oid = some (.uc catalog clears) ∧ catalog.Sends request ∧
          CredentialsFrom duckdb start earlier catalog.credentials := by
  intro start before
  have sound : before.Sound duckdb.libraries := sound_after (sound_start ..) earlier
  have provenance := provenance_after documented world secrets earlier
  obtain ⟨requests, sendsFor⟩ := sendsFor_step sound command
  refine ⟨requests, sendsFor.sent, sendsFor.atMostOne, fun request member => ?_⟩
  obtain ⟨oid, catalog, clears, calls, attached, sends⟩ := sendsFor.own request member
  exact ⟨oid, catalog, clears, calls, attached, sends, provenance oid catalog clears attached⟩

end Session

/-- The first listing of a catalog that was attached with a secret of its own. -/
theorem requests_confined_listing :
    let duckdb := mappedLibraries deltaTableLibraries
    let earlier := deltaTableCommands.take 2
    let before := deltaTableStart.after duckdb earlier
    ∃ request oid catalog clears,
      (before.after duckdb [.call 0 ⟨.scanSchemas, trivial⟩]).world.sent =
        before.world.sent ++ [request] ∧
      before.databases.find oid = some (.uc catalog clears) ∧ catalog.Sends request ∧
      CredentialsFrom duckdb deltaTableStart earlier catalog.credentials := by
  intro duckdb earlier before
  obtain ⟨requests, sent, atMostOne, own⟩ := requests_confined
    (mappedLibraries_documented deltaTableLibraries) ⟨fun _ => .body [], []⟩
    (.empty foldedName KeyValueSecret) earlier (.call 0 ⟨.scanSchemas, trivial⟩)
  have one : requests.length = 1 := by
    have longer : (before.after duckdb [.call 0 ⟨.scanSchemas, trivial⟩]).world.sent.length =
        before.world.sent.length + 1 := by decide +kernel
    have lengths := congrArg List.length sent
    rw [List.length_append] at lengths
    exact Nat.add_left_cancel (lengths.symm.trans longer)
  obtain ⟨request, rfl⟩ := List.length_eq_one_iff.mp one
  obtain ⟨oid, catalog, clears, _, attached, sends, origin⟩ := own request List.mem_cons_self
  exact ⟨request, oid, catalog, clears, sent, attached, sends, origin⟩

end UcCatalog
