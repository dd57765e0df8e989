/-
What the sources hand over. A batch is valid when the labels of its documents and the names of its
ready samples are names that the format allows; every source yields valid batches and adds valid
samples, whatever the server answers. Texts of the server get into label values and into metric names
that are normalised, nowhere else.
-/
import MongoMetrics.Proofs.Diagnostics.Locks
import MongoMetrics.Proofs.Extraction.Names
import MongoMetrics.Proofs.Source.Batches

namespace MongoMetrics

open MongoMetrics.Exposition

/-! ## Ready samples -/

namespace Diagnostics

theorem valid_of_mem_lockSamples {data : Document} : ∀ s ∈ lockSamples data, ValidSample s := by
  rw [lockSamples_eq]
  intro s hs
  obtain ⟨c, -, rfl⟩ := List.mem_map.1 hs
  exact validSample_counter (Extraction.isMetricName_append_normalize (by decide) c.statistic)
    ((ValidLabels.single (by decide)).insert (by decide))

theorem valid_of_mem_globalLockSamples {data : Document} :
    ∀ s ∈ globalLockSamples data, ValidSample s := by
  have hsections : ∀ part ∈ globalLockSections, isMetricName part.2 = true := by decide
  intro s hs
  obtain ⟨part, hpart, help, x, side, rfl⟩ | ⟨help, x, rfl⟩ := exists_of_mem_globalLockSamples hs
  · exact validSample_gauge (hsections part hpart) (ValidLabels.single (by decide))
  · exact validSample_counter (by decide) ValidLabels.empty

theorem valid_of_evictedPages {data : Document} {s : Sample} (h : evictedPages data = some s) :
    ValidSample s := by
  obtain ⟨help, x, rfl⟩ := exists_of_evictedPages h
  exact validSample_counter (by decide) ValidLabels.empty

theorem valid_of_mem_identitySamples {data : Document} :
    ∀ s ∈ identitySamples data, ValidSample s := by
  have hmetrics : ∀ metric ∈ identityMetrics,
      isMetricName metric.1 = true ∧ isLabelName metric.2 = true := by decide
  intro s hs
  obtain ⟨metric, hmetric, help, x, v, rfl⟩ := exists_of_mem_identitySamples hs
  exact validSample_gauge (hmetrics metric hmetric).1 (ValidLabels.single (hmetrics metric hmetric).2)

/-! ## What a router tells -/

theorem yields_recentChanges (client : Client) :
    Session.Yields (recentChanges client) fun l => ∀ s ∈ l, ValidSample s := by
  refine Session.yields_bind Session.yields_true fun now _ => ?_
  refine Session.yields_bind Session.yields_true fun answer _ => ?_
  cases answer with
  | error fault => exact Session.yields_nil
  | ok rows =>
    refine Session.yields_pure fun s hs => ?_
    obtain ⟨⟨event, count⟩, -, rfl⟩ := List.mem_map.1 hs
    exact validSample_gauge (by decide) (ValidLabels.single (by decide))

theorem yields_balancer (client : Client) :
    Session.Yields (balancer client) fun l => ∀ s ∈ l, ValidSample s := by
  refine Session.yields_bind Session.yields_true fun answer _ => ?_
  cases answer with
  | error fault => exact Session.yields_nil
  | ok settings =>
    refine Session.yields_pure fun s hs => ?_
    rw [List.mem_singleton.1 hs]
    exact validSample_gauge (by decide) ValidLabels.empty

theorem yields_countSamples (client : Client) {counted : String × String × String}
    (h : isMetricName counted.2.1 = true) :
    Session.Yields (countSamples client counted) fun l => ∀ s ∈ l, ValidSample s := by
  refine Session.yields_bind Session.yields_true fun answer _ => ?_
  cases answer with
  | error fault => exact Session.yields_nil
  | ok reply =>
    refine Session.yields_pure fun s hs => ?_
    rw [Option.mem_toList, Option.map_eq_some_iff] at hs
    obtain ⟨x, -, rfl⟩ := hs
    exact validSample_gauge h ValidLabels.empty

theorem yields_routerSamples (client : Client) :
    Session.Yields (routerSamples client) fun l => ∀ s ∈ l, ValidSample s := by
  have hmetric : ∀ p ∈ countedCollections, isMetricName p.2.1 = true := by decide
  refine Session.yields_bind (yields_recentChanges client) fun changes hchanges => ?_
  refine Session.yields_bind (yields_balancer client) fun balancer hbalancer => ?_
  refine Session.yields_bind (Session.yields_forEach fun p hp =>
    yields_countSamples client (hmetric p hp)) fun counts hcounts => ?_
  refine Session.yields_pure fun s hs => ?_
  rw [List.mem_append, List.mem_append, List.mem_flatten] at hs
  rcases hs with (hs | hs) | ⟨l, hl, hs⟩
  · exact hchanges s hs
  · exact hbalancer s hs
  · exact hcounts l hl s hs

end Diagnostics

/-! ## Batches -/

namespace Source

open MongoMetrics.Scrape

/-- The labels of the documents and the names of the ready samples are allowed. -/
structure ValidBatch (b : Batch) : Prop where
  documents : ∀ f ∈ b.documents, ValidLabels f.labels
  samples : ∀ s ∈ b.samples, ValidSample s

/-- All batches and all samples added to them are allowed. -/
structure Valid (source : Scrape.Source) : Prop where
  fetch : Request.Yields source.fetch ValidBatch
  augment : ∀ documents, ∀ s ∈ source.augment documents, ValidSample s

theorem MadeOf.validBatch {b : Batch} (h : MadeOf (fun f => ValidLabels f.labels) ValidSample b) :
    ValidBatch b :=
  ⟨h.documents, h.samples⟩

/-- A source that adds nothing is valid when what its batches are made of is allowed. -/
theorem valid_of_yields {source : Scrape.Source} (haugment : ∀ documents, source.augment documents = [])
    (h : Request.Yields source.fetch (MadeOf (fun f => ValidLabels f.labels) ValidSample)) :
    Valid source := by
  refine ⟨h.mono fun _ => MadeOf.validBatch, fun documents s hs => ?_⟩
  rw [haugment documents] at hs
  cases hs

theorem valid_general (client : Client) : Valid (general client) :=
  valid_of_yields (fun _ => rfl) (yields_general fun _ =>
    validSample_gauge (by decide) ValidLabels.empty)

theorem valid_of_mem_diagnosticAugment {naming : Extraction.Naming} {data : Document} :
    ∀ s ∈ diagnosticAugment naming data, ValidSample s := by
  intro s hs
  unfold diagnosticAugment at hs
  rw [List.mem_append, List.mem_append] at hs
  rcases hs with (hs | hs) | hs
  · exact Diagnostics.valid_of_mem_lockSamples s hs
  · exact Diagnostics.valid_of_mem_globalLockSamples s hs
  · split at hs
    · cases hs
    · rcases List.mem_append.1 hs with hs | hs
      · exact Diagnostics.valid_of_evictedPages (Option.mem_toList.1 hs)
      · exact Diagnostics.valid_of_mem_identitySamples s hs

theorem valid_diagnosticData (client : Client) (deployment : Deployment) (naming : Extraction.Naming) :
    Valid (diagnosticData client deployment naming) := by
  refine ⟨?_, fun documents s hs => ?_⟩
  · refine Request.yields_bind Request.yields_true fun reply _ => ?_
    refine Request.yields_bind Request.yields_true fun data _ => ?_
    have hsamples : Session.Yields (if naming == .legacy && deployment.role == .router then
        Diagnostics.routerSamples client else Session.pure [] : Session (List Sample))
        fun l => ∀ s ∈ l, ValidSample s := by
      split
      · exact Diagnostics.yields_routerSamples client
      · exact Session.yields_nil
    refine Request.yields_bind (Request.yields_lift hsamples) fun samples hs => ?_
    refine Request.yields_pure ⟨fun f hf => ?_, hs⟩
    rw [List.mem_singleton.1 hf]
    exact ValidLabels.empty
  · obtain ⟨f, -, hs⟩ := List.mem_flatMap.1 hs
    exact valid_of_mem_diagnosticAugment s hs

theorem valid_replicaStatus (client : Client) (deployment : Deployment) :
    Valid (replicaStatus client deployment) :=
  valid_of_yields (fun _ => rfl) (yields_replicaStatus fun _ => ValidLabels.empty)

/-! ## Statistics -/

theorem valid_databaseStats (client : Client) (namespaces : List String) :
    Valid (databaseStats client namespaces) := by
  refine valid_of_yields (fun _ => rfl) (yields_databaseStats fun database stats f hf => ?_)
  rw [List.mem_singleton.1 hf]
  exact ValidLabels.single (by decide)

theorem validLabels_namespaceLabels (ns : String) : ValidLabels (namespaceLabels ns) :=
  (ValidLabels.single (by decide)).insert (by decide)

theorem valid_collectionStats (client : Client) (namespaces : List String) (discovering : Bool)
    (naming : Extraction.Naming) : Valid (collectionStats client namespaces discovering naming) := by
  refine valid_of_yields (fun _ => rfl) (yields_collectionStats fun ns rows f hf => ?_)
  obtain ⟨row, -, rfl⟩ := List.mem_map.1 hf
  exact validLabels_namespaceLabels ns

theorem valid_indexStats (client : Client) (namespaces : List String) (discovering : Bool) :
    Valid (indexStats client namespaces discovering) := by
  refine valid_of_yields (fun _ => rfl) (yields_indexStats fun ns row f hrow => ?_)
  unfold indexRow? at hrow
  simp only [Option.bind_eq_bind, Option.bind_eq_some_iff] at hrow
  obtain ⟨key, -, accesses, -, he⟩ := hrow
  cases he
  exact (validLabels_namespaceLabels ns).insert (by decide)

/-! ## Sharding -/

theorem validLabels_of_chunkRow? {database collection : String} {chunk : Document} {f : Fetched}
    (h : chunkRow? database collection chunk = some f) : ValidLabels f.labels := by
  unfold chunkRow? at h
  simp only [Option.bind_eq_bind, Option.bind_eq_some_iff] at h
  obtain ⟨shard, -, count, -, he⟩ := h
  cases he
  exact ((ValidLabels.single (by decide)).insert (by decide)).insert (by decide)

theorem valid_of_mem_sizeSamples {database collection : String} {stats : Document} :
    ∀ s ∈ sizeSamples database collection stats, ValidSample s := by
  have hmetric : ∀ p ∈ sizeFields, isMetricName ("mongodb_mongos_db_coll_" ++ p.2.1) = true := by
    decide
  intro s hs
  obtain ⟨p, hp, rfl⟩ := List.mem_map.1 hs
  exact validSample_gauge (hmetric p hp) ((ValidLabels.single (by decide)).insert (by decide))

theorem valid_sharding (client : Client) : Valid (sharding client) :=
  valid_of_yields (fun _ => rfl) (yields_sharding (fun _ _ _ _ => validLabels_of_chunkRow?)
    fun _ _ _ => valid_of_mem_sizeSamples)

end Source

end MongoMetrics
