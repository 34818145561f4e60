/-
This file compares what is listed of an attached catalog with what the server
holds for it. The schemas are requested for the name the catalog is attached
under, and the tables of each schema for the path it is attached from. What is
listed is what the server holds for the path exactly when every load succeeds,
every schema of the path that has tables is also listed for the name, and the
tables listed for it are those of the path (`ListsCatalog`). Where no text of the
server contains a zero, and the requests carry the names they are made from, only
the schemas can be missing (`listsCatalog_iff`).

The scans run on the cache of a snapshot. The loop over the schemas keeps that
the tables of those still to come have not been fetched (`Pending`).
-/

import UcCatalog.CacheRefinement
import UcCatalog.RemoteServer

namespace UcCatalog

open Stateful

/-! ### Listing -/

section Listing

variable (libraries : Libraries)

/-- `Scan(TABLE_ENTRY)` of a schema: the names of its tables, with its own. -/
def listSchema (schema : SchemaInfo) : EStateM Fault CatalogState (List (Text × Text)) := do
  let catalog := (← get).catalog
  let tables ← onSchema schema.handle fun entry =>
    schemaScan (catalog.loadTables libraries entry) .tableEntry
  return tables.map fun table => (schema.handle.name, table.name)

/-- `ScanSchemas`, and then the tables of each schema that was visited. -/
def listTables : EStateM Fault CatalogState (List (Text × Text)) := do
  let schemas ← scanSchemas libraries
  let listings ← schemas.mapM (listSchema libraries)
  return listings.flatten

end Listing

section Runs

variable {attachment : Attachment} {snapshot : Snapshot}

/-- The tables the server has for a schema. -/
def Attachment.tablePairs (attachment : Attachment) (remote : Request → CurlResult)
    (item : SchemaItem) : List (Text × Text) :=
  (firstOfEachName ((attachment.tableLoader item).current remote)).map fun table =>
    (item.name, table.name)

/-- The schemas are cached, and their tables have not been fetched. -/
structure Pending (snapshot : Snapshot) (items : List SchemaItem) : Prop where
  leads : ∀ item ∈ items, snapshot.resolve ⟨snapshot.clears, item.name⟩ = some item
  unfetched : ∀ item ∈ items, snapshot.tables (lower item.name) = none
  apart : items.Pairwise fun one other => lower one.name ≠ lower other.name

theorem Pending.next (attachment : Attachment) {item : SchemaItem} {items : List SchemaItem}
    (pending : Pending snapshot (item :: items)) :
    Pending (snapshot.accessTables attachment item) items where
  leads other member := pending.leads other (List.mem_cons_of_mem _ member)
  unfetched other member := by
    have differ := (List.pairwise_cons.mp pending.apart).1 other member
    show Function.update snapshot.tables _ _ (lower other.name) = none
    rw [Function.update_of_ne (Ne.symm differ)]
    exact pending.unfetched other (List.mem_cons_of_mem _ member)
  apart := (List.pairwise_cons.mp pending.apart).2

theorem listSchema_state {item : SchemaItem}
    (leads : snapshot.resolve ⟨snapshot.clears, item.name⟩ = some item)
    (unfetched : snapshot.tables (lower item.name) = none)
    (succeeds : ∃ listing, (attachment.tableLoader item).listed snapshot.remote = .ok listing) :
    listSchema attachment.libraries (snapshot.info item) (snapshot.state attachment) =
      .ok (attachment.tablePairs snapshot.remote item)
        ((snapshot.accessTables attachment item).state attachment) := by
  have listing : snapshot.tableListing attachment item =
      (attachment.tableLoader item).current snapshot.remote := by
    rw [Snapshot.tableListing, unfetched]
    rfl
  have scanned : schemaScan (attachment.tableLoader item).loadEntries .tableEntry
      (snapshot.tablePart attachment item) =
      finish (.ok (firstOfEachName (snapshot.tableListing attachment item)))
        (snapshot.askedTablePart attachment item) :=
    scan_ofListing fun _ => succeeds
  have visited : onSchema (snapshot.info item).handle (fun entry => schemaScan
      ((snapshot.state attachment).catalog.loadTables attachment.libraries entry) .tableEntry)
      (snapshot.state attachment) =
      .ok (firstOfEachName (snapshot.tableListing attachment item))
        ((snapshot.accessTables attachment item).state attachment) :=
    onSchema_access (.ok _) leads scanned
  rw [listSchema, bind_of_ok _ (run_get _), bind_of_ok _ visited, listing]
  rfl

theorem listed_of_listSchema {item : SchemaItem} {pairs : List (Text × Text)}
    {final : CatalogState} (leads : snapshot.resolve ⟨snapshot.clears, item.name⟩ = some item)
    (unfetched : snapshot.tables (lower item.name) = none)
    (run : listSchema attachment.libraries (snapshot.info item) (snapshot.state attachment) =
      .ok pairs final) :
    ∃ listing, (attachment.tableLoader item).listed snapshot.remote = .ok listing := by
  rw [listSchema, bind_of_ok _ (run_get _)] at run
  obtain ⟨tables, between, visited, _⟩ := of_bind_ok run
  obtain ⟨part, scanned⟩ := of_onSchema_ok (resolve_of_leads attachment leads) visited
  have scan : CatalogSet.scan (attachment.tableLoader item).loadEntries
      ⟨snapshot.world attachment, .ofListing (snapshot.tables (lower item.name))⟩ =
        .ok tables part := scanned
  rw [unfetched] at scan
  exact listed_of_scan scan

/-- The loop over the schemas. -/
theorem listSchemas_state {items : List SchemaItem} (pending : Pending snapshot items)
    (succeeds : ∀ item ∈ items,
      ∃ listing, (attachment.tableLoader item).listed snapshot.remote = .ok listing) :
    ∃ final, (items.map snapshot.info).mapM (listSchema attachment.libraries)
      (snapshot.state attachment) =
        .ok (items.map (attachment.tablePairs snapshot.remote)) final := by
  induction items generalizing snapshot with
  | nil => exact ⟨_, rfl⟩
  | cons item items inductionHypothesis =>
    have head := listSchema_state (pending.leads item List.mem_cons_self)
      (pending.unfetched item List.mem_cons_self) (succeeds item List.mem_cons_self)
    obtain ⟨final, rest⟩ := inductionHypothesis (pending.next attachment)
      fun other member => succeeds other (List.mem_cons_of_mem _ member)
    have infos : items.map (snapshot.accessTables attachment item).info =
        items.map snapshot.info := rfl
    rw [infos] at rest
    exact ⟨final, by rw [List.map_cons, List.mapM_cons, bind_of_ok _ head, bind_of_ok _ rest]; rfl⟩

/-- The loop returns only if the tables of every schema load. -/
theorem listed_of_listSchemas {items : List SchemaItem} (pending : Pending snapshot items)
    {listings : List (List (Text × Text))} {final : CatalogState}
    (run : (items.map snapshot.info).mapM (listSchema attachment.libraries)
      (snapshot.state attachment) = .ok listings final) :
    ∀ item ∈ items,
      ∃ listing, (attachment.tableLoader item).listed snapshot.remote = .ok listing := by
  induction items generalizing snapshot listings final with
  | nil => exact nofun
  | cons item items inductionHypothesis =>
    have leads := pending.leads item List.mem_cons_self
    have unfetched := pending.unfetched item List.mem_cons_self
    rw [List.map_cons, List.mapM_cons] at run
    obtain ⟨pairs, between, head, rest⟩ := of_bind_ok run
    have listed := listed_of_listSchema leads unfetched head
    rw [listSchema_state leads unfetched listed] at head
    cases head
    obtain ⟨others, _, loop, _⟩ := of_bind_ok rest
    intro other member
    rcases List.mem_cons.mp member with rfl | inRest
    · exact listed
    · exact inductionHypothesis (pending.next attachment) loop other inRest

/-- The schemas that are visited of a catalog that has just been attached. -/
def Attachment.visited (attachment : Attachment) (remote : Request → CurlResult) :
    List SchemaItem :=
  firstOfEachName ((attachment.schemaLoader.current remote).map SchemaEntry.item)

theorem pending_visited (attachment : Attachment) (world : World) :
    Pending ((Snapshot.new world).accessSchemas attachment)
      (attachment.visited world.remote) where
  leads _ member := resolve_of_listed rfl member
  unfetched _ _ := rfl
  apart := firstOfEachName_apart _

variable {world : World}

theorem scanSchemas_attach {schemas : List SchemaEntry}
    (listed : attachment.schemaLoader.listed world.remote = .ok schemas) :
    scanSchemas attachment.libraries ((Snapshot.new world).state attachment) =
      .ok ((attachment.visited world.remote).map (Snapshot.new world).info)
        (((Snapshot.new world).accessSchemas attachment).state attachment) :=
  scanSchemas_state (coherent_new world) fun _ => ⟨schemas, listed⟩

theorem listed_of_scanSchemas {infos : List SchemaInfo} {final : CatalogState}
    (visited : scanSchemas attachment.libraries ((Snapshot.new world).state attachment) =
      .ok infos final) :
    ∃ schemas, attachment.schemaLoader.listed world.remote = .ok schemas := by
  rw [scanSchemas, bind_of_ok _ (run_get _)] at visited
  obtain ⟨entries, _, inSet, _⟩ := of_bind_ok visited
  obtain ⟨part, scanned⟩ := of_zoom_ok inSet
  have scan : CatalogSet.scan attachment.schemaLoader.loadEntries
      ⟨(Snapshot.new world).world attachment, .ofListing none⟩ = .ok entries part := scanned
  obtain ⟨schemas, listed⟩ := listed_of_scan scan
  exact ⟨schemas, listed⟩

/-- What is listed of a catalog that has just been attached to a server whose listings load. -/
theorem listTables_attach {schemas : List SchemaEntry}
    (listed : attachment.schemaLoader.listed world.remote = .ok schemas)
    (succeeds : ∀ item ∈ attachment.visited world.remote,
      ∃ listing, (attachment.tableLoader item).listed world.remote = .ok listing) :
    ∃ final, listTables attachment.libraries
      ⟨world, attach attachment.name attachment.path attachment.credentials, 0⟩ =
        .ok ((attachment.visited world.remote).flatMap (attachment.tablePairs world.remote))
          final := by
  obtain ⟨final, loop⟩ := listSchemas_state (pending_visited attachment world) succeeds
  refine ⟨final, ?_⟩
  rw [attach_state, listTables, bind_of_ok _ (scanSchemas_attach listed)]
  exact bind_of_ok _ loop

/-- It is listed only if these listings load. -/
theorem listed_of_listTables {pairs : List (Text × Text)} {final : CatalogState}
    (run : listTables attachment.libraries
      ⟨world, attach attachment.name attachment.path attachment.credentials, 0⟩ = .ok pairs final) :
    (∃ schemas, attachment.schemaLoader.listed world.remote = .ok schemas) ∧
      ∀ item ∈ attachment.visited world.remote,
        ∃ listing, (attachment.tableLoader item).listed world.remote = .ok listing := by
  rw [attach_state, listTables] at run
  obtain ⟨infos, between, scanned, loop⟩ := of_bind_ok run
  obtain ⟨schemas, listed⟩ := listed_of_scanSchemas scanned
  rw [scanSchemas_attach listed] at scanned
  cases scanned
  obtain ⟨listings, _, each, _⟩ := of_bind_ok loop
  exact ⟨⟨schemas, listed⟩, listed_of_listSchemas (pending_visited attachment world) each⟩

end Runs

/-! ### Listed and held -/

section Held

variable {libraries : Libraries}

/-- The server holds the table for the catalog. -/
def Server.Holds (server : Server libraries) (catalog schema table : Text) : Prop :=
  schema ∈ server.schemas catalog ∧
    table ∈ (server.tables catalog schema).map RemoteTable.name

instance (server : Server libraries) (catalog schema table : Text) :
    Decidable (server.Holds catalog schema table) :=
  inferInstanceAs (Decidable (_ ∧ _))

theorem Server.holds_iff (server : Server libraries) (catalog schema table : Text) :
    server.Holds catalog schema table ↔
      table ∈ (server.tables catalog schema).map RemoteTable.name := by
  refine ⟨And.right, fun member => ⟨?_, member⟩⟩
  by_contra absent
  rw [server.closed catalog schema absent] at member
  exact absurd member List.not_mem_nil

/-- What the server holds under the names the requests carry lists the path: the loads succeed,
every schema of the path that has tables is visited, and the tables listed for a schema that is
visited are those of the path. -/
structure Server.ListsCatalog (server : Server libraries) (credentials : Credentials)
    (name path : Text) : Prop where
  named : ∀ schema ∈ server.schemas (server.listedCatalog credentials name), cString schema ≠ []
  loadable : ∀ schema ∈ server.visited credentials name,
    ∀ table ∈ server.listedTables credentials path schema, table.Loadable libraries
  schemas : ∀ schema ∈ server.schemas path, server.tables path schema ≠ [] →
    schema ∈ server.visited credentials name
  tables : ∀ schema ∈ server.visited credentials name, ∀ table,
    table ∈ server.listedNames credentials path schema ↔
      table ∈ (server.tables path schema).map RemoteTable.name

/-- No text the server holds contains a zero. -/
structure Server.Plain (server : Server libraries) : Prop where
  schemas : ∀ catalog, ∀ schema ∈ server.schemas catalog, terminator ∉ schema
  tables : ∀ catalog schema, ∀ table ∈ server.tables catalog schema, terminator ∉ table.name
  columns : ∀ catalog schema, ∀ table ∈ server.tables catalog schema, ∀ column ∈ table.columns,
    terminator ∉ column.name ∧ terminator ∉ column.typeText

/-- The server reads off the requests for the name, the path and the schemas that are visited the
names they are made from. -/
structure Server.ReadsNames (server : Server libraries) (credentials : Credentials)
    (name path : Text) : Prop where
  catalog : server.listedCatalog credentials name = name
  tables : ∀ schema ∈ server.visited credentials name,
    server.listedTables credentials path schema = server.tables path schema

namespace Server.Plain

variable {server : Server libraries} (plain : server.Plain) (credentials : Credentials)

include plain

theorem map_cString (catalog : Text) :
    (server.schemas catalog).map cString = server.schemas catalog :=
  (List.map_congr_left fun schema member =>
    cString_of_not_mem (plain.schemas catalog schema member)).trans (List.map_id _)

theorem visited_eq (name : Text) :
    server.visited credentials name = server.schemas (server.listedCatalog credentials name) := by
  rw [visited, plain.map_cString, firstNames_of_apart (server.schemasNamed _).apart]

theorem listedNames_eq (path schema : Text) :
    server.listedNames credentials path schema =
      (server.listedTables credentials path schema).map RemoteTable.name := by
  have names : ((server.listedTables credentials path schema).map fun table =>
      cString table.name) = (server.listedTables credentials path schema).map RemoteTable.name :=
    List.map_congr_left fun table member =>
      cString_of_not_mem (plain.tables _ _ table member)
  rw [listedNames, names, firstNames_of_apart]
  exact (server.tablesNamed _ _).apart

theorem loadable {catalog schema : Text} {table : RemoteTable}
    (held : table ∈ server.tables catalog schema) : table.Loadable libraries where
  named := by
    rw [cString_of_not_mem (plain.tables catalog schema table held)]
    exact (server.tablesNamed catalog schema).nonempty _ (List.mem_map_of_mem held)
  accepted column member := by
    rw [cString_of_not_mem (plain.columns catalog schema table held column member).2]
    exact server.accepted catalog schema table held column member
  apart := by
    have apart := List.pairwise_map.mp (server.columnsNamed catalog schema table held).apart
    refine apart.imp_of_mem fun inOne inOther differ => ?_
    rw [cString_of_not_mem (plain.columns catalog schema table held _ inOne).1,
      cString_of_not_mem (plain.columns catalog schema table held _ inOther).1]
    exact differ

/-- Then only the name the schemas are requested for can go wrong. -/
theorem listsCatalog_iff {name path : Text} (reads : server.ReadsNames credentials name path) :
    server.ListsCatalog credentials name path ↔
      ∀ schema ∈ server.schemas path, server.tables path schema ≠ [] →
        schema ∈ server.schemas name := by
  have visited := plain.visited_eq credentials name
  rw [reads.catalog] at visited
  constructor
  · intro lists schema member hasTables
    rw [← visited]
    exact lists.schemas schema member hasTables
  · intro contained
    refine ⟨fun schema member => ?_, fun schema _ table => plain.loadable,
      fun schema member hasTables => ?_, fun schema member table => ?_⟩
    · rw [cString_of_not_mem (plain.schemas _ schema member)]
      exact (server.schemasNamed _).nonempty schema member
    · rw [visited]
      exact contained schema member hasTables
    · rw [plain.listedNames_eq, reads.tables schema member]

theorem listsCatalog_ownName {path : Text} (reads : server.ReadsNames credentials path path) :
    server.ListsCatalog credentials path path :=
  (plain.listsCatalog_iff credentials reads).mpr fun _ member _ => member

end Server.Plain

end Held

section Answered

variable {attachment : Attachment} {server : Server attachment.libraries} {world : World}
  (answers : server.Answers attachment.credentials world.remote)

include answers

theorem names_visited (schemas : ∃ created,
    attachment.schemaLoader.listed world.remote = .ok created) :
    (attachment.visited world.remote).map SchemaItem.name =
      server.visited attachment.credentials attachment.name := by
  obtain ⟨created, listed⟩ := schemas
  have names : (firstOfEachName (created.map SchemaEntry.item)).map SchemaItem.name =
      firstNames ((created.map SchemaEntry.item).map SchemaItem.name) := firstOfEachName_names _
  rw [Attachment.visited, Loader.current_eq listed, names, List.map_map]
  exact congrArg firstNames (schemas_listed answers listed)

theorem mem_tablePairs {item : SchemaItem} (tables : ∃ created,
    (attachment.tableLoader item).listed world.remote = .ok created) {schema table : Text} :
    (schema, table) ∈ attachment.tablePairs world.remote item ↔
      schema = item.name ∧
        table ∈ server.listedNames attachment.credentials attachment.path item.name := by
  obtain ⟨created, listed⟩ := tables
  have names : (firstOfEachName created).map TableEntry.name =
      server.listedNames attachment.credentials attachment.path item.name :=
    (firstOfEachName_names created).trans (congrArg firstNames (tables_listed answers listed))
  rw [Attachment.tablePairs, Loader.current_eq listed, ← names]
  simp only [List.mem_map, Prod.mk.injEq]
  constructor
  · rintro ⟨entry, member, rfl, rfl⟩
    exact ⟨rfl, entry, member, rfl⟩
  · rintro ⟨rfl, entry, member, rfl⟩
    exact ⟨entry, member, rfl, rfl⟩

/-- The tables of every schema that is visited load exactly when they are loadable. -/
theorem visited_listed_iff (adds : attachment.libraries.AddsFresh)
    (rejects : attachment.libraries.RejectsRepeated)
    (schemas : ∃ created, attachment.schemaLoader.listed world.remote = .ok created) :
    (∀ item ∈ attachment.visited world.remote,
        ∃ listing, (attachment.tableLoader item).listed world.remote = .ok listing) ↔
      ∀ schema ∈ server.visited attachment.credentials attachment.name,
        ∀ table ∈ server.listedTables attachment.credentials attachment.path schema,
          table.Loadable attachment.libraries := by
  rw [← names_visited answers schemas, List.forall_mem_map]
  exact forall₂_congr fun item _ => tables_listed_iff answers adds rejects item

/-- The pairs that are listed, where they are. -/
theorem mem_of_listTables {pairs : List (Text × Text)} {final : CatalogState}
    (run : listTables attachment.libraries
      ⟨world, attach attachment.name attachment.path attachment.credentials, 0⟩ = .ok pairs final)
    (schema table : Text) :
    (schema, table) ∈ pairs ↔
      schema ∈ server.visited attachment.credentials attachment.name ∧
        table ∈ server.listedNames attachment.credentials attachment.path schema := by
  obtain ⟨⟨created, listed⟩, succeeds⟩ := listed_of_listTables run
  obtain ⟨_, other⟩ := listTables_attach listed succeeds
  obtain ⟨rfl, _⟩ := EStateM.Result.ok.inj (run.symm.trans other)
  rw [List.mem_flatMap, ← names_visited answers ⟨created, listed⟩]
  constructor
  · rintro ⟨item, visited, inPairs⟩
    obtain ⟨rfl, inTables⟩ := (mem_tablePairs answers (succeeds item visited)).mp inPairs
    exact ⟨List.mem_map_of_mem visited, inTables⟩
  · rintro ⟨inSchemas, inTables⟩
    obtain ⟨item, visited, rfl⟩ := List.mem_map.mp inSchemas
    exact ⟨item, visited, (mem_tablePairs answers (succeeds item visited)).mpr ⟨rfl, inTables⟩⟩

/-- The listing returns exactly when every load succeeds. -/
theorem listTables_returns_iff (adds : attachment.libraries.AddsFresh)
    (rejects : attachment.libraries.RejectsRepeated) :
    (∃ pairs final, listTables attachment.libraries
        ⟨world, attach attachment.name attachment.path attachment.credentials, 0⟩ =
          .ok pairs final) ↔
      (∀ schema ∈ server.schemas (server.listedCatalog attachment.credentials attachment.name),
        cString schema ≠ []) ∧
      ∀ schema ∈ server.visited attachment.credentials attachment.name,
        ∀ table ∈ server.listedTables attachment.credentials attachment.path schema,
          table.Loadable attachment.libraries := by
  rw [← schemas_listed_iff answers]
  constructor
  · rintro ⟨pairs, final, run⟩
    obtain ⟨schemas, succeeds⟩ := listed_of_listTables run
    exact ⟨schemas, (visited_listed_iff answers adds rejects schemas).mp succeeds⟩
  · rintro ⟨⟨created, listed⟩, loadable⟩
    have succeeds := (visited_listed_iff answers adds rejects ⟨created, listed⟩).mpr loadable
    exact ⟨_, listTables_attach listed succeeds⟩

end Answered

/-- What is listed of a catalog that has just been attached is what the server holds for the path
exactly when what the server holds under the names the requests carry lists the path. -/
theorem listed_iff_held (attachment : Attachment) (server : Server attachment.libraries)
    (world : World) (adds : attachment.libraries.AddsFresh)
    (rejects : attachment.libraries.RejectsRepeated)
    (answers : server.Answers attachment.credentials world.remote) :
    (∃ pairs final, listTables attachment.libraries
        ⟨world, attach attachment.name attachment.path attachment.credentials, 0⟩ =
          .ok pairs final ∧
        ∀ schema table, (schema, table) ∈ pairs ↔ server.Holds attachment.path schema table) ↔
      server.ListsCatalog attachment.credentials attachment.name attachment.path := by
  have returns_iff := listTables_returns_iff answers adds rejects
  simp only [Server.holds_iff]
  constructor
  · rintro ⟨pairs, final, run, held⟩
    obtain ⟨named, loadable⟩ := returns_iff.mp ⟨pairs, final, run⟩
    have listed := mem_of_listTables answers run
    refine ⟨named, loadable, fun schema _ hasTables => ?_, fun schema visited table => ?_⟩
    · obtain ⟨table, rest, isCons⟩ := List.exists_cons_of_ne_nil hasTables
      refine ((listed schema table.name).mp ((held schema table.name).mpr ?_)).1
      rw [isCons]
      exact List.mem_cons_self
    · rw [← held, listed]
      exact (and_iff_right visited).symm
  · intro lists
    obtain ⟨pairs, final, run⟩ := returns_iff.mpr ⟨lists.named, lists.loadable⟩
    refine ⟨pairs, final, run, fun schema table => ?_⟩
    rw [mem_of_listTables answers run]
    refine ⟨fun ⟨visited, inListed⟩ => (lists.tables schema visited table).mp inListed,
      fun inHeld => ?_⟩
    have inPath := ((server.holds_iff attachment.path schema table).mpr inHeld).1
    obtain ⟨held, inTables, _⟩ := List.mem_map.mp inHeld
    have visited := lists.schemas schema inPath (List.ne_nil_of_mem inTables)
    exact ⟨visited, (lists.tables schema visited table).mpr inHeld⟩

/-! ### A server with one table -/

/-- The value of a parameter in the query of a URL. -/
def queryParameter (key url : Text) : Text :=
  let fields := ((url.dropWhile (· ≠ '?')).drop 1).splitOn '&'
  ((fields.find? fun field => (key ++ ['=']).isPrefixOf field).map
    (List.drop (key.length + 1))).getD []

def oneSchemaBody : Text := "\x7b\"schemas\":[\x7b\"name\":\"s\"\x7d]\x7d".toList

def oneSchemaReply : Json :=
  .obj [("schemas".toList, .arr [.obj [("name".toList, .str "s".toList)]])]

def emptyBody : Text := "\x7b\x7d".toList

/-- What the three bodies are read as. -/
def readBody (body : Text) : Option Json :=
  if body = oneTableBody then some oneTableReply
  else if body = oneSchemaBody then some oneSchemaReply
  else if body = emptyBody then some (.obj [])
  else none

/-- A column is added unless there is one of its name. -/
def addColumnOnce (columns : List ColumnDefinition) (column : ColumnDefinition) :
    Except Exception (List ColumnDefinition) :=
  if ∃ other ∈ columns, lower other.name = lower column.name then
    .error ⟨.catalogException,
      "Column with name ".toList ++ column.name ++ " already exists!".toList⟩
  else .ok (columns ++ [column])

def oneCatalogLibraries : Libraries :=
  { oneTableLibraries with yyjsonRead := readBody, addColumn := addColumnOnce }

theorem readBody_oneSchema : readBody oneSchemaBody = some oneSchemaReply := by
  have different : oneSchemaBody ≠ oneTableBody := by decide +kernel
  rw [readBody, if_neg different, if_pos rfl]

theorem readBody_empty : readBody emptyBody = some (.obj []) := by
  have notTable : emptyBody ≠ oneTableBody := by decide +kernel
  have notSchema : emptyBody ≠ oneSchemaBody := by decide +kernel
  rw [readBody, if_neg notTable, if_neg notSchema, if_pos rfl]

/-- The reply for a catalog and a schema: one body describes both listings. -/
def oneCatalogBody (catalog schema : Text) : Text :=
  if catalog = "uc".toList then if schema = "s".toList then oneTableBody else oneSchemaBody
  else emptyBody

def oneCatalogRemote (request : Request) : CurlResult :=
  .body (oneCatalogBody (queryParameter "catalog_name".toList request.url)
    (queryParameter "schema_name".toList request.url))

/-- A server whose one catalog holds one table in one schema. -/
def oneCatalogServer : Server oneCatalogLibraries where
  schemas catalog := if catalog = "uc".toList then ["s".toList] else []
  tables catalog schema :=
    if catalog = "uc".toList ∧ schema = "s".toList then
      [⟨"t".toList, [⟨"x".toList, "int".toList⟩]⟩]
    else []
  catalogName := queryParameter "catalog_name".toList
  schemaName := queryParameter "schema_name".toList
  schemasNamed catalog := by
    split
    · exact ⟨by decide, by decide⟩
    · exact ⟨by decide, by decide⟩
  tablesNamed catalog schema := by
    split
    · exact ⟨by decide, by decide⟩
    · exact ⟨by decide, by decide⟩
  columnsNamed catalog schema table member := by
    split at member
    · rw [List.mem_singleton.mp member]
      exact ⟨by decide, by decide⟩
    · exact absurd member List.not_mem_nil
  accepted catalog schema table member column inTable := by
    split at member
    · rw [List.mem_singleton.mp member] at inTable
      rw [List.mem_singleton.mp inTable]
      exact ⟨_, rfl⟩
    · exact absurd member List.not_mem_nil
  closed catalog schema absent := by
    refine if_neg fun ⟨inCatalog, isSchema⟩ => absent ?_
    rw [if_pos inCatalog, isSchema]
    exact List.mem_singleton_self _

theorem oneColumn_describes : DescribesColumn (.obj [("name".toList, .str "x".toList),
    ("type_text".toList, .str "int".toList), ("type_precision".toList, .uint 0),
    ("type_scale".toList, .uint 0), ("position".toList, .uint 0)])
    ⟨"x".toList, "int".toList⟩ := by
  refine ⟨rfl, rfl, fun field member => ⟨.uint 0, ?_, trivial⟩⟩
  simp only [List.mem_cons, List.not_mem_nil, or_false] at member
  rcases member with rfl | rfl | rfl
  · rfl
  · rfl
  · rfl

theorem oneCatalogBody_describes (catalog schema : Text) :
    List.Forall₂ DescribesSchema
      (arrForeach (objGet (oneCatalogLibraries.yyjsonRead (oneCatalogBody catalog schema))
        "schemas".toList)) (oneCatalogServer.schemas catalog) ∧
    List.Forall₂ DescribesTable
      (arrForeach (objGet (oneCatalogLibraries.yyjsonRead (oneCatalogBody catalog schema))
        "tables".toList)) (oneCatalogServer.tables catalog schema) := by
  show List.Forall₂ _ (arrForeach (objGet (readBody (oneCatalogBody catalog schema)) _)) _ ∧
    List.Forall₂ _ (arrForeach (objGet (readBody (oneCatalogBody catalog schema)) _)) _
  unfold oneCatalogBody
  by_cases inCatalog : catalog = "uc".toList
  · subst inCatalog
    rw [if_pos rfl]
    by_cases isSchema : schema = "s".toList
    · subst isSchema
      rw [if_pos rfl, readBody, if_pos rfl]
      refine ⟨.cons rfl .nil, .cons ⟨rfl, ?_, .cons oneColumn_describes .nil⟩ .nil⟩
      intro field member
      rcases List.mem_pair.mp member with rfl | rfl
      · exact ⟨_, rfl⟩
      · exact ⟨_, rfl⟩
    · have none : oneCatalogServer.tables "uc".toList schema = [] :=
        if_neg fun both => isSchema both.2
      rw [if_neg isSchema, readBody_oneSchema, none]
      exact ⟨.cons rfl .nil, .nil⟩
  · have noSchemas : oneCatalogServer.schemas catalog = [] := if_neg inCatalog
    have noTables : oneCatalogServer.tables catalog schema = [] :=
      if_neg fun both => inCatalog both.1
    rw [if_neg inCatalog, readBody_empty, noSchemas, noTables]
    exact ⟨.nil, .nil⟩

theorem oneCatalogServer_answers :
    oneCatalogServer.Answers ⟨[], [], []⟩ oneCatalogRemote where
  schemas _ := ⟨_, rfl, (oneCatalogBody_describes _ _).1⟩
  tables _ _ := ⟨_, rfl, (oneCatalogBody_describes _ _).2⟩

theorem oneCatalogServer_plain : oneCatalogServer.Plain where
  schemas catalog schema member := by
    change schema ∈ (if catalog = "uc".toList then ["s".toList] else []) at member
    split at member
    · rw [List.mem_singleton.mp member]
      decide
    · exact absurd member List.not_mem_nil
  tables catalog schema table member := by
    change table ∈ (if catalog = "uc".toList ∧ schema = "s".toList then _ else []) at member
    split at member
    · rw [List.mem_singleton.mp member]
      decide
    · exact absurd member List.not_mem_nil
  columns catalog schema table member column inTable := by
    change table ∈ (if catalog = "uc".toList ∧ schema = "s".toList then _ else []) at member
    split at member
    · rw [List.mem_singleton.mp member] at inTable
      rw [List.mem_singleton.mp inTable]
      decide
    · exact absurd member List.not_mem_nil

theorem oneCatalogServer_readsNames :
    oneCatalogServer.ReadsNames ⟨[], [], []⟩ "uc".toList "uc".toList where
  catalog := by decide
  tables schema visited := by
    have inCatalog : schema ∈ ["s".toList] := by
      have listed : oneCatalogServer.visited ⟨[], [], []⟩ "uc".toList = ["s".toList] := by decide
      exact listed ▸ visited
    rw [List.mem_singleton.mp inCatalog]
    rfl

theorem oneCatalogLibraries_addsFresh : oneCatalogLibraries.AddsFresh :=
  fun _ _ fresh => if_neg fun ⟨other, member, same⟩ => fresh other member same

theorem oneCatalogLibraries_rejectsRepeated : oneCatalogLibraries.RejectsRepeated :=
  fun _ _ repeated => ⟨_, if_pos repeated⟩

/-- Attached under its own name the catalog is listed with its table. -/
theorem listed_iff_held_ownName : ∃ pairs final,
    listTables oneCatalogLibraries
      ⟨⟨oneCatalogRemote, []⟩, attach "uc".toList "uc".toList ⟨[], [], []⟩, 0⟩ = .ok pairs final ∧
    ∀ schema table, (schema, table) ∈ pairs ↔
      oneCatalogServer.Holds "uc".toList schema table :=
  (listed_iff_held ⟨oneCatalogLibraries, "uc".toList, "uc".toList, ⟨[], [], []⟩⟩ oneCatalogServer
    ⟨oneCatalogRemote, []⟩ oneCatalogLibraries_addsFresh oneCatalogLibraries_rejectsRepeated
    oneCatalogServer_answers).mpr
      (oneCatalogServer_plain.listsCatalog_ownName _ oneCatalogServer_readsNames)

/-- The catalog attached under another name. -/
def otherName : Attachment := ⟨oneCatalogLibraries, "uc1".toList, "uc".toList, ⟨[], [], []⟩⟩

/-- Attached under another name the catalog is listed without its table. -/
theorem listed_otherName :
    ¬ ∀ (attachment : Attachment) (server : Server attachment.libraries) (world : World),
      attachment.libraries.AddsFresh → attachment.libraries.RejectsRepeated →
      server.Answers attachment.credentials world.remote →
      ∃ pairs final, listTables attachment.libraries
        ⟨world, attach attachment.name attachment.path attachment.credentials, 0⟩ =
          .ok pairs final ∧
        ∀ schema table, (schema, table) ∈ pairs ↔ server.Holds attachment.path schema table := by
  intro claimed
  have answers : oneCatalogServer.Answers otherName.credentials oneCatalogRemote :=
    oneCatalogServer_answers
  obtain ⟨pairs, final, run, held⟩ := claimed
    otherName oneCatalogServer ⟨oneCatalogRemote, []⟩ oneCatalogLibraries_addsFresh
    oneCatalogLibraries_rejectsRepeated answers
  have inServer : oneCatalogServer.Holds "uc".toList "s".toList "t".toList := by decide
  have visited := ((mem_of_listTables answers run _ _).mp ((held _ _).mpr inServer)).1
  revert visited
  decide

end UcCatalog
