/-
This file is about how often the listings are requested. Between two clears a
catalog asks for its schemas once and for the tables of each cached schema once,
whatever the server replies: an attempt that failed counts, and so does one that
curl had no handle for, which sends nothing.

Each step of the holdings adds the listing it attempts to those attempted since
the last clear, and to the log at most the request for it.
-/

import UcCatalog.CacheHoldings

namespace UcCatalog

open Stateful

/-- What tells two listings apart: names of schemas are compared ignoring case. -/
def Source.folded : Source → Option Text
  | .schemas => none
  | .tables schema => some (lower schema)

section Attachment

variable {attachment : Attachment}

/-- The listings that were attempted between two holdings, and what was sent for them. -/
structure Asks (attachment : Attachment) (before final : Holdings) (asked : List Source) :
    Prop where
  fetched : final.snapshot.fetched = before.snapshot.fetched ++ asked
  sent : ∃ requests, requests.Sublist (asked.map attachment.request) ∧
    final.sent = before.sent ++ requests

theorem Asks.nothing {before final : Holdings}
    (fetched : final.snapshot.fetched = before.snapshot.fetched)
    (sent : final.sent = before.sent) : Asks attachment before final [] where
  fetched := by rw [fetched, List.append_nil]
  sent := ⟨[], .slnil, by rw [sent, List.append_nil]⟩

theorem Asks.trans {first second third : Holdings} {asked further : List Source}
    (asks : Asks attachment first second asked) (next : Asks attachment second third further) :
    Asks attachment first third (asked ++ further) where
  fetched := by rw [next.fetched, asks.fetched, List.append_assoc]
  sent := by
    obtain ⟨requests, within, sent⟩ := asks.sent
    obtain ⟨others, withinOthers, sentOthers⟩ := next.sent
    refine ⟨requests ++ others, ?_, by rw [sentOthers, sent, List.append_assoc]⟩
    rw [List.map_append]
    exact within.append withinOthers

/-- An access asks for its listing, unless that was attempted before. -/
theorem asks_of_tried {before final : Holdings} {source : Source} {untried : Bool}
    (fetched : final.snapshot.fetched =
      if untried then before.snapshot.fetched ++ [source] else before.snapshot.fetched)
    (sent : final.sent = (before.world.tried (attachment.request source) untried).sent) :
    Asks attachment before final (if untried then [source] else []) where
  fetched := by
    rw [fetched]
    cases untried with
    | false => exact (List.append_nil _).symm
    | true => rfl
  sent := by
    obtain ⟨requests, within, same⟩ :=
      World.exists_tried before.snapshot.remote (attachment.request source) untried
    refine ⟨requests, ?_, sent.trans (same before.sent)⟩
    cases untried with
    | false => exact within
    | true => exact within

theorem asks_step (attachment : Attachment) (holdings : Holdings) {op : Op}
    (keeps : op ≠ .clearCache) :
    ∃ asked, Asks attachment holdings (holdings.step attachment op).2 asked :=
  Holdings.step_holds (fun final => ∃ asked, Asks attachment holdings final asked)
    ⟨_, .nothing rfl rfl⟩ ⟨_, asks_of_tried rfl rfl⟩ (fun _ _ _ => ⟨_, asks_of_tried rfl rfl⟩)
    (fun clears => absurd clears keeps) fun _ _ => ⟨_, .nothing rfl rfl⟩

theorem asks_trace (attachment : Attachment) (holdings : Holdings) {ops : List Op}
    (keep : ∀ op ∈ ops, op ≠ .clearCache) :
    ∃ asked, Asks attachment holdings
      (modelTrace (Holdings.step attachment) holdings ops).2 asked := by
  induction ops generalizing holdings with
  | nil => exact ⟨_, .nothing rfl rfl⟩
  | cons op ops inductionHypothesis =>
    obtain ⟨asked, asks⟩ := asks_step attachment holdings (keep op List.mem_cons_self)
    obtain ⟨further, next⟩ := inductionHypothesis (holdings.step attachment op).2
      fun other member => keep other (List.mem_cons_of_mem _ member)
    exact ⟨_, asks.trans next⟩

/-! ### No listing is attempted twice -/

/-- The listings attempted since the last clear are apart, and those of tables are of cached
schemas. -/
structure Holdings.Once (holdings : Holdings) : Prop where
  coherent : holdings.snapshot.Coherent
  apart : (holdings.snapshot.fetched.map Source.folded).Nodup
  cached : ∀ name, .tables name ∈ holdings.snapshot.fetched →
    ∃ item ∈ firstOfEachName (holdings.snapshot.schemas.getD []), item.name = name

theorem nodup_tried {fetched : List Source} {source : Source} {untried : Bool}
    (apart : (fetched.map Source.folded).Nodup)
    (fresh : untried = true → source.folded ∉ fetched.map Source.folded) :
    ((if untried then fetched ++ [source] else fetched).map Source.folded).Nodup := by
  cases untried with
  | false => exact apart
  | true =>
    show ((fetched ++ [source]).map Source.folded).Nodup
    rw [List.map_append, List.map_singleton, ← List.concat_eq_append]
    exact apart.concat (fresh rfl)

theorem Holdings.Once.accessSchemas {holdings : Holdings} (once : holdings.Once) :
    (holdings.accessSchemas attachment).Once where
  coherent := coherent_accessedSchemas once.coherent
  apart := by
    refine nodup_tried once.apart fun untried member => ?_
    obtain ⟨source, inFetched, same⟩ := List.mem_map.mp member
    cases source with
    | schemas =>
      exact once.coherent.schemasOnce (Option.isNone_iff_eq_none.mp untried) inFetched
    | tables schema => exact nomatch same
  cached name member := by
    have before : Source.tables name ∈ holdings.snapshot.fetched := by
      have here : Source.tables name ∈ if _ then _ else _ := member
      split at here
      · simpa using here
      · exact here
    obtain ⟨item, listed, named⟩ := once.cached name before
    refine ⟨item, ?_, named⟩
    cases fetched : holdings.snapshot.schemas with
    | none =>
      exact absurd before
        (once.coherent.tablesOnce name (once.coherent.nested fetched (lower name)))
    | some listing =>
      rw [fetched] at listed
      show item ∈ firstOfEachName (holdings.snapshot.schemas.getD _)
      rw [fetched]
      exact listed

theorem Holdings.Once.accessTables {holdings : Holdings} (once : holdings.Once)
    {handle : SchemaHandle} {item : SchemaItem}
    (leads : holdings.snapshot.resolve handle = some item) :
    (holdings.accessTables attachment item).Once where
  coherent := coherent_accessedTables once.coherent item (lower_of_resolve leads).2
  apart := by
    refine nodup_tried once.apart fun untried member => ?_
    obtain ⟨source, inFetched, same⟩ := List.mem_map.mp member
    cases source with
    | schemas => exact nomatch same
    | tables schema =>
      have unfetched : holdings.snapshot.tables (lower schema) = none := by
        rw [show lower schema = lower item.name from Option.some.inj same]
        exact Option.isNone_iff_eq_none.mp untried
      exact once.coherent.tablesOnce schema unfetched inFetched
  cached name member := by
    have here : Source.tables name ∈ if _ then _ else _ := member
    split at here
    · rcases List.mem_append.mp here with before | last
      · exact once.cached name before
      · obtain rfl : name = item.name := by simpa using last
        refine ⟨item, ?_, rfl⟩
        unfold Snapshot.resolve at leads
        split_ifs at leads
        exact (firstNamed_iff.mp leads).1
    · exact once.cached name here

theorem once_step {holdings : Holdings} (once : holdings.Once) (op : Op) :
    (holdings.step attachment op).2.Once :=
  Holdings.step_holds Holdings.Once once once.accessSchemas
    (fun _ _ leads => once.accessTables leads)
    (fun _ => ⟨@coherent_step attachment holdings once.coherent .clearCache,
      List.nodup_nil, fun _ member => absurd member List.not_mem_nil⟩)
    fun remote _ => ⟨@coherent_step attachment holdings once.coherent (.serverChange remote),
      once.apart, once.cached⟩

theorem once_new (world : World) : (Holdings.new world).Once :=
  ⟨coherent_new world, List.nodup_nil, fun _ member => absurd member List.not_mem_nil⟩

theorem once_trace {holdings : Holdings} (once : holdings.Once) (ops : List Op) :
    (modelTrace (Holdings.step attachment) holdings ops).2.Once := by
  induction ops generalizing holdings with
  | nil => exact once
  | cons op ops inductionHypothesis => exact inductionHypothesis (once_step once op)

/-! ### Runs of the code -/

/-- The state after a row of operations on a catalog that has just been attached. -/
def Attachment.afterRun (attachment : Attachment) (world : World) (ops : List Op) :
    CatalogState :=
  (trace (Op.run attachment.libraries) (attachment.attached world) ops).2

/-- What was sent between two states of a run: a part of the requests for these listings, which are
the one of the schemas and those of the tables of schemas that are cached. -/
structure SentFor (attachment : Attachment) (before final : CatalogState)
    (sources : List Source) : Prop where
  apart : (sources.map Source.folded).Nodup
  cached : ∀ name, .tables name ∈ sources →
    ∃ binding ∈ final.catalog.schemas.entries.bindings, binding.2.name = name
  sent : ∃ requests, requests.Sublist (sources.map attachment.request) ∧
    final.world.sent = before.world.sent ++ requests

/-- The schemas of the holdings are bound in the cache. -/
theorem exists_bound {holdings : Holdings} {item : SchemaItem}
    (listed : item ∈ firstOfEachName (holdings.snapshot.schemas.getD [])) :
    ∃ binding ∈ (holdings.state attachment).catalog.schemas.entries.bindings,
      binding.2.name = item.name := by
  show ∃ binding ∈ (CatalogSet.ofListing holdings.snapshot.cachedSchemas).entries.bindings, _
  unfold Snapshot.cachedSchemas
  cases fetched : holdings.snapshot.schemas with
  | none =>
    rw [fetched] at listed
    exact absurd listed List.not_mem_nil
  | some listing =>
    rw [fetched] at listed
    refine ⟨(item.name, holdings.snapshot.entry item), ?_, rfl⟩
    refine @mem_firstOfEachName _ _ _ (holdings.snapshot.entry item) ?_
    rw [firstOfEachName_entry]
    exact List.mem_map_of_mem listed

/-- Listings that are apart, of which all but the one of the schemas are of cached schemas, are at
most one more than these. -/
theorem SentFor.length_le {before final : CatalogState} {sources : List Source}
    (sentFor : SentFor attachment before final sources) :
    sources.length ≤ final.catalog.schemas.entries.bindings.length + 1 := by
  let known := none :: final.catalog.schemas.entries.bindings.map fun binding =>
    some (lower binding.2.name)
  have within : sources.map Source.folded ⊆ known := by
    intro folded member
    obtain ⟨source, inSources, rfl⟩ := List.mem_map.mp member
    cases source with
    | schemas => exact List.mem_cons_self
    | tables name =>
      obtain ⟨binding, bound, named⟩ := sentFor.cached name inSources
      exact List.mem_cons_of_mem _ (List.mem_map.mpr ⟨binding, bound, by rw [named]; rfl⟩)
  have fits := (sentFor.apart.subperm within).length_le
  simpa [known] using fits

/-- Between two clears each listing is requested once at most, whatever the server replies: the
one of the schemas, and the tables of each cached schema. -/
theorem listings_requested_once (attachment : Attachment) (world : World) (earlier later : List Op)
    (keep : ∀ op ∈ later, op ≠ .clearCache) :
    ∃ sources, SentFor attachment (attachment.afterRun world earlier)
        (attachment.afterRun world (earlier ++ later)) sources ∧
      sources.length ≤
        (attachment.afterRun world (earlier ++ later)).catalog.schemas.entries.bindings.length +
          1 := by
  have ran (ops : List Op) : attachment.afterRun world ops =
      (modelTrace (Holdings.step attachment) (.new world) ops).2.state attachment :=
    congrArg Prod.snd (attached_trace_eq attachment world ops)
  rw [ran, ran, modelTrace_append]
  have once := @once_trace attachment _ (once_new world) earlier
  generalize (modelTrace (Holdings.step attachment) (.new world) earlier).2 = holdings at once ⊢
  obtain ⟨asked, asks⟩ := asks_trace attachment holdings keep
  have lasting := @once_trace attachment _ once later
  have sentFor : SentFor attachment (holdings.state attachment)
      ((modelTrace (Holdings.step attachment) holdings later).2.state attachment) asked := by
    refine ⟨?_, fun name member => ?_, asks.sent⟩
    · have apart := lasting.apart
      rw [asks.fetched, List.map_append] at apart
      exact apart.of_append_right
    · have inFetched := List.mem_append_right holdings.snapshot.fetched member
      rw [← asks.fetched] at inFetched
      obtain ⟨item, listed, rfl⟩ := lasting.cached name inFetched
      exact exists_bound listed
  exact ⟨asked, sentFor, sentFor.length_le⟩

/-- Scans behind a listing of schemas that times out. -/
theorem listings_requested_once_timeout : ∃ sources,
    SentFor oneTableAttachment
        (oneTableAttachment.afterRun ⟨fun _ => .failed "timeout".toList, []⟩ [.clearCache])
        (oneTableAttachment.afterRun ⟨fun _ => .failed "timeout".toList, []⟩
          ([.clearCache] ++ [.scanSchemas, .scanSchemas])) sources ∧ sources.length ≤ 1 :=
  listings_requested_once oneTableAttachment _ [.clearCache] [.scanSchemas, .scanSchemas] (by
    intro op member
    rcases List.mem_pair.mp member with rfl | rfl <;> exact nofun)

end Attachment

end UcCatalog
