/-
What becomes of the rows that the statistics of collections and of indexes are read from. The samples
of a row have the labels of its namespace, and of its index, but none of the shard that the row is
from; a row whose labels a later row has as well loses the samples of common series. Main statement:
`rows_of_equal_labels_overwrite`, by which nothing else is lost.
-/
import MongoMetrics.Proofs.Catalogue.Databases
import MongoMetrics.Proofs.Scrape.Labelling
import MongoMetrics.Source.Statistics

namespace MongoMetrics.Source

open MongoMetrics.Scrape

variable {w : World} {t t₁ ready : Instant} {client : Client} {namespaces : List String}
  {discovering : Bool} {source : Source} {pipeline : List Document}
  {read : String → List Document → List Fetched}

/-! ## Reading the rows -/

/-- The sources that read rows of each namespace: what they ask, and how they read the replies. -/
inductive ReadsRows (client : Client) (namespaces : List String) (discovering : Bool) :
    Source → List Document → (String → List Document → List Fetched) → Prop
  | collections (naming : Extraction.Naming) : ReadsRows client namespaces discovering
      (collectionStats client namespaces discovering naming) (collectionPipeline naming) collectionRows
  | indexes : ReadsRows client namespaces discovering
      (indexStats client namespaces discovering) indexPipeline indexRows

/-- Runs the pipeline on the collection of one namespace. -/
def askRows (client : Client) (pipeline : List Document) (ns : String) :
    Session (Except Fault (List Document)) :=
  Session.ask client (.aggregate (Catalogue.databaseOf ns) (Catalogue.collectionOf ns) pipeline)

/-- The rows of a reply; a namespace that cannot be read has none. -/
def rowsIn {α β : Type} (read : α → β → List Fetched) (item : α) : Except Fault β → List Fetched
  | .ok answer => read item answer
  | .error _ => []

/-- All rows that were read, one namespace after the other. -/
def rowsOf {α β : Type} (read : α → β → List Fetched) (items : List α)
    (replies : List (Except Fault β)) : List Fetched :=
  (items.zip replies).flatMap fun p => rowsIn read p.1 p.2

theorem outcome_eachItem {α β : Type} (question : α → Session (Except Fault β))
    (read : α → β → List Fetched) (items : List α) :
    ((eachItem question read items).run w t).outcome =
      ((Session.forEach question items).run w t).outcome.map fun r =>
        (rowsOf read items r.1, r.2) := by
  have heach : eachItem question read items =
      (Session.forEach (fun item => question item >>= fun reply =>
        Pure.pure (rowsIn read item reply)) items >>= fun found => Pure.pure found.flatten) := by
    unfold eachItem
    refine congrArg (fun body => Session.forEach body items >>= fun found => Pure.pure found.flatten)
      (funext fun item => congrArg (question item >>= ·) (funext fun reply => ?_))
    cases reply <;> rfl
  rw [heach, Session.outcome_map, Session.outcome_forEach_map, Option.map_map]
  rfl

/-- A fetch hands over all rows of the namespaces found, when the last reply is there. -/
theorem outcome_fetch (h : ReadsRows client namespaces discovering source pipeline read)
    {resolved : List String} {replies : List (Except Fault (List Document))}
    (hresolved : ((Catalogue.statsNamespaces client namespaces discovering).attempt.run w t).outcome =
      some (.ok resolved, t₁))
    (hreplies : ((Session.forEach (askRows client pipeline) resolved).run w t₁).outcome =
      some (replies, ready)) :
    (source.fetch.attempt.run w t).outcome =
      some (.ok (Batch.ofDocuments (rowsOf read resolved replies)), ready) := by
  have hrows : ((Request.attempt (ExceptT.lift
      (eachNamespace client pipeline read resolved))).run w t₁).outcome =
      some (.ok (rowsOf read resolved replies), ready) := by
    have heach : ((eachNamespace client pipeline read resolved).run w t₁).outcome =
        some (rowsOf read resolved replies, ready) :=
      (outcome_eachItem _ read resolved).trans (congrArg (Option.map _) hreplies)
    rw [Request.outcome_lift, heach]
    rfl
  cases h with
  | collections naming => exact (Request.outcome_bind_ok hresolved).trans (Request.outcome_bind_ok hrows)
  | indexes => exact (Request.outcome_bind_ok hresolved).trans (Request.outcome_bind_ok hrows)

/-! ## The labels of a row -/

theorem keys_namespaceLabels (ns : String) : (namespaceLabels ns).keys = ["collection", "database"] :=
  rfl

theorem keys_indexRow {ns : String} {row : Document} {f : Fetched} (h : indexRow? ns row = some f) :
    f.labels.keys = ["collection", "database", "key_name"] := by
  unfold indexRow? at h
  simp only [Option.bind_eq_bind, Option.bind_eq_some_iff] at h
  obtain ⟨key, -, accesses, -, he⟩ := h
  cases he
  rfl

/-- All rows of a source have labels of the same names, the database among them, and none of these is
the name of a section's label. -/
theorem exists_keys_of_read (h : ReadsRows client namespaces discovering source pipeline read) :
    ∃ keys, "database" ∈ keys ∧ (∀ k ∈ keys, k ∉ Extraction.sectionLabels) ∧
      ∀ ns rows, ∀ f ∈ read ns rows, f.labels.keys = keys := by
  cases h with
  | collections naming =>
    refine ⟨["collection", "database"], by decide, by decide, fun ns rows f hf => ?_⟩
    obtain ⟨row, -, rfl⟩ := List.mem_map.1 hf
    exact keys_namespaceLabels ns
  | indexes =>
    refine ⟨["collection", "database", "key_name"], by decide, by decide, fun ns rows f hf => ?_⟩
    obtain ⟨row, -, hrow⟩ := List.mem_filterMap.1 hf
    exact keys_indexRow hrow

section

variable {naming : Extraction.Naming} {base : Labels} {f g : Fetched} {s u : Sample}

/-- All samples of a document have the labels that were given to it. -/
theorem get?_of_own {k v : String} (hk : k ∉ Extraction.sectionLabels)
    (h : f.labels.get? k = some v) (hs : s ∈ documentSamples naming base f) :
    s.labels.get? k = some v := by
  refine get?_of_mem_documentSamples (fun _ => hk) ?_ hs
  rw [Keyed.get?_override, h]
  rfl

/-- Rows with labels of the same names share a series only if they have the same labels. -/
theorem labels_eq_of_series_eq (hkeys : f.labels.keys = g.labels.keys)
    (hplain : ∀ k ∈ f.labels.keys, k ∉ Extraction.sectionLabels)
    (hs : s ∈ documentSamples naming base f) (hu : u ∈ documentSamples naming base g)
    (h : s.series = u.series) : f.labels = g.labels := by
  have hlabels : s.labels = u.labels := congrArg Series.labels h
  refine Keyed.ext_get? fun k => ?_
  by_cases hk : k ∈ f.labels.keys
  · obtain ⟨v, hv⟩ := Option.isSome_iff_exists.1 (Keyed.mem_keys_iff.1 hk)
    obtain ⟨v', hv'⟩ := Option.isSome_iff_exists.1 (Keyed.mem_keys_iff.1 (hkeys ▸ hk))
    have hread := get?_of_own (hplain k hk) hv hs
    rw [hlabels, get?_of_own (hplain k hk) hv' hu] at hread
    rw [hv, hv', hread]
  · have hk' : k ∉ g.labels.keys := hkeys ▸ hk
    rw [Keyed.mem_keys_iff, Option.not_isSome_iff_eq_none] at hk hk'
    rw [hk, hk']

theorem nodup_series_documentSamples (naming : Extraction.Naming) (base : Labels) (f : Fetched) :
    ((documentSamples naming base f).map Sample.series).Nodup :=
  Sample.nodup_series_latest _

/-- The sample of the time taken is none of a document that is labelled with a database. -/
theorem timing_ne (family : String) (elapsed : Duration) (hf : "database" ∈ f.labels.keys)
    (hs : s ∈ documentSamples naming base f) : (timingSample family elapsed).series ≠ s.series := by
  intro he
  have hlabels : (timingSample family elapsed).labels = s.labels := congrArg Series.labels he
  obtain ⟨v, hv⟩ := Option.isSome_iff_exists.1 (Keyed.mem_keys_iff.1 hf)
  have hread := get?_of_own (by decide) hv hs
  rw [← hlabels] at hread
  cases hread

end

/-! ## Which rows count -/

/-- The samples of rows that have labels of the same names, with the time taken: a sample of a row is
among them unless a later row of the same labels has the series. -/
theorem mem_latest_of_rows (naming : Extraction.Naming) (base : Labels) {rows : List Fetched}
    {keys : List String} (hdatabase : "database" ∈ keys)
    (hplain : ∀ k ∈ keys, k ∉ Extraction.sectionLabels) (hrows : ∀ f ∈ rows, f.labels.keys = keys)
    (family : String) (elapsed : Duration) (s : Sample) :
    s ∈ Sample.latest (rows.flatMap (documentSamples naming base) ++ [timingSample family elapsed]) ↔
      s = timingSample family elapsed ∨
      ∃ before f after, rows = before ++ f :: after ∧ s ∈ documentSamples naming base f ∧
        ∀ g ∈ after, g.labels = f.labels →
          ∀ x ∈ documentSamples naming base g, x.series ≠ s.series := by
  rw [Sample.mem_latest, Sample.lastOf_append_singleton]
  constructor
  · intro h
    split at h
    · exact .inl (Option.some.inj h).symm
    · obtain ⟨before, f, after, hl, hs, hafter⟩ :=
        (Sample.lastOf_flatMap (nodup_series_documentSamples naming base)).1 h
      exact .inr ⟨before, f, after, hl, hs, fun g hg _ => hafter g hg⟩
  · rintro (rfl | ⟨before, f, after, rfl, hs, hafter⟩)
    · exact if_pos rfl
    · have hkeys := hrows f (by simp)
      rw [if_neg (timing_ne family elapsed (hkeys ▸ hdatabase) hs)]
      refine (Sample.lastOf_flatMap (nodup_series_documentSamples naming base)).2
        ⟨before, f, after, rfl, hs, fun g hg x hx he => ?_⟩
      -- a later row that has the series must have the labels of this one
      have hsame : g.labels.keys = f.labels.keys := (hrows g (by simp [hg])).trans hkeys.symm
      have hlabels := labels_eq_of_series_eq hsame (hsame ▸ hkeys ▸ hplain) hx hs he
      exact hafter g hg hlabels x hx he

/-- When all replies are there in time, the description leaves a snapshot, and this holds the time
taken and of each row those samples whose series no later row of the same labels has. So all rows are
kept when they have different labels, and those of one namespace and index, as a router returns them
for the shards, overwrite each other. -/
theorem rows_of_equal_labels_overwrite
    (h : ReadsRows client namespaces discovering source pipeline read) (c : Conditions)
    {resolved : List String} {replies : List (Except Fault (List Document))}
    (hresolved : ((Catalogue.statsNamespaces client namespaces discovering).attempt.run w t).outcome =
      some (.ok resolved, t₁))
    (hreplies : ((Session.forEach (askRows client pipeline) resolved).run w t₁).outcome =
      some (replies, ready))
    (hlimit : ready ≤ t + c.limit) :
    let rows := rowsOf read resolved replies
    let samplesOf := documentSamples c.naming c.deployment.labels
    ∃ samples, ((describeSource source c).run w t).outcome =
        some ((shapesOf samples [], some samples), ready) ∧
      (∀ s, s ∈ samples ↔ s = timingSample source.family (ready - t) ∨
        ∃ before f after, rows = before ++ f :: after ∧ s ∈ samplesOf f ∧
          ∀ g ∈ after, g.labels = f.labels → ∀ x ∈ samplesOf g, x.series ≠ s.series) ∧
      ((rows.map Fetched.labels).Nodup → ∀ f ∈ rows, ∀ s ∈ samplesOf f, s ∈ samples) := by
  intro rows samplesOf
  obtain ⟨keys, hdatabase, hplain, hread⟩ := exists_keys_of_read h
  have hrows : ∀ f ∈ rows, f.labels.keys = keys := by
    intro f hf
    obtain ⟨⟨ns, reply⟩, -, hf⟩ := List.mem_flatMap.1 hf
    cases reply with
    | ok answer => exact hread ns answer f hf
    | error fault => cases hf
  have hmem := mem_latest_of_rows c.naming c.deployment.labels hdatabase hplain hrows source.family
    (ready - t)
  have hfetch := outcome_fetch h hresolved hreplies
  have hvalue : Session.valueWithin c.limit source.fetch.attempt w t =
      some (.ok (Batch.ofDocuments rows)) := by
    unfold Session.valueWithin
    simp only [hfetch, if_pos hlimit]
    rfl
  have hready : Session.readyWithin c.limit source.fetch.attempt w t = ready := by
    unfold Session.readyWithin
    simp only [hfetch, Nat.min_eq_left hlimit]
  have hreading : reading source c w t = some (Sample.latest
      (rows.flatMap samplesOf ++ [timingSample source.family (ready - t)])) := by
    unfold reading
    rw [hvalue, hready]
    cases h <;> simp [snapshotOf, Batch.ofDocuments, collectionStats, indexStats, rows, samplesOf]
  refine ⟨_, ?_, hmem, fun hnodup f hf s hs => ?_⟩
  · rw [run_describeSource, hreading, hready]
    rfl
  · obtain ⟨before, after, hl⟩ := List.append_of_mem hf
    refine (hmem s).2 (.inr ⟨before, f, after, hl, hs, fun g hg he => ?_⟩)
    rw [hl, List.map_append, List.map_cons, List.nodup_append] at hnodup
    have hout := (List.nodup_cons.1 hnodup.2.1).1
    exact absurd (List.mem_map.2 ⟨g, hg, he⟩) hout

/-- A server that holds one collection and answers at once, every pipeline with the same rows. -/
def rowsServer (rows : List Document) : World :=
  let listing := Catalogue.plainServer ["db1"] fun _ => [("a", false)]
  { listing with
    answer := fun client t c =>
      match c with
      | .aggregate .. => .after 0 (.ok rows)
      | c => listing.answer client t c }

/-- The rows of two indexes have different labels, so none is lost. -/
theorem rows_of_two_indexes_are_kept :
    let rows : List Document :=
      [[("name", .string "_id_"), ("accesses", .document [("ops", .int64 12)])],
       [("name", .string "f1_1"), ("accesses", .document [("ops", .int64 3)])]]
    let w := rowsServer rows
    let c : Conditions := ⟨Deployment.unknown, .full, 1⟩
    ((Catalogue.statsNamespaces 0 ["db1.a"] false).attempt.run w 0).outcome =
      some (.ok ["db1.a"], 0) ∧
    ((Session.forEach (askRows 0 indexPipeline) ["db1.a"]).run w 0).outcome =
      some ([.ok rows], 0) ∧
    ∃ samples, ((describeSource (indexStats 0 ["db1.a"] false) c).run w 0).outcome =
        some ((shapesOf samples [], some samples), 0) ∧
      ∀ f ∈ indexRows "db1.a" rows, ∀ s ∈ documentSamples .full {} f, s ∈ samples := by
  intro rows w c
  have hresolved : ((Catalogue.statsNamespaces 0 ["db1.a"] false).attempt.run w 0).outcome =
      some (.ok ["db1.a"], 0) := rfl
  have hreplies : ((Session.forEach (askRows 0 indexPipeline) ["db1.a"]).run w 0).outcome =
      some ([.ok rows], 0) := rfl
  obtain ⟨samples, hrun, -, hkept⟩ :=
    rows_of_equal_labels_overwrite ReadsRows.indexes c hresolved hreplies (by decide)
  exact ⟨hresolved, hreplies, samples, hrun, hkept (by decide +kernel)⟩

/-- Of the rows of two shards, which a router returns for one namespace, the first is lost. -/
theorem row_of_other_shard_is_lost :
    let first : Document := [("shard", .string "s1"), ("count", .int32 3)]
    let second : Document := [("shard", .string "s2"), ("count", .int32 2)]
    let c : Conditions := ⟨Deployment.unknown, .full, 1⟩
    let lost := Sample.gauge "mongodb_collstats_count" "collstats.count" 3 (namespaceLabels "db1.a")
    ∃ samples,
      ((describeSource (collectionStats 0 ["db1.a"] false .full) c).run
        (rowsServer [first, second]) 0).outcome = some ((shapesOf samples [], some samples), 0) ∧
      (∃ f ∈ collectionRows "db1.a" [first, second], lost ∈ documentSamples .full {} f) ∧
      lost ∉ samples := by
  intro first second c lost
  refine ⟨_, rfl, ⟨_, List.mem_cons_self .., by decide +kernel⟩, by decide +kernel⟩

end MongoMetrics.Source
