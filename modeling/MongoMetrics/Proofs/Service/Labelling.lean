/-
The labels of the deployment on all samples of the exporter. No source puts a label with the name of a
shared section's on a document, and no deployment has one, so the walk of a document leaves all labels
as they are. Main statement (`base_labels_fill_in`): whatever a source gives, each sample of a snapshot
has the labels of the deployment beneath its own ones.
-/
import MongoMetrics.Proofs.Scrape.Labelling
import MongoMetrics.Proofs.Source.Questions
import MongoMetrics.Proofs.Source.Rows

namespace MongoMetrics

open MongoMetrics.Extraction MongoMetrics.Scrape

/-! ## Deployments -/

namespace Deployment

theorem leavesSections_label {labels : Labels} (h : LeavesSections labels) {name : String}
    (hn : name ∉ sectionLabels) (value : Option String) : LeavesSections (label labels name value) := by
  cases value with
  | none => exact h
  | some v => exact h.insert hn

theorem IsKnown.leavesSections {d : Deployment} (h : d.IsKnown) : LeavesSections d.labels := by
  obtain ⟨role, replicaSet, clusterRole, clusterId, rfl⟩ := h
  exact leavesSections_label (leavesSections_label (leavesSections_label leavesSections_empty
    (by decide) _) (by decide) _) (by decide) _

end Deployment

/-! ## Sources -/

namespace Source

/-- No document of a batch has a label with the name of a section's. -/
def LeavesSections (source : Scrape.Source) : Prop :=
  Request.Yields source.fetch fun batch => ∀ f ∈ batch.documents, Extraction.LeavesSections f.labels

/-- Of a batch only the documents count. -/
theorem leavesSections_of_yields {source : Scrape.Source}
    (h : Request.Yields source.fetch
      (MadeOf (fun f => Extraction.LeavesSections f.labels) fun _ => True)) : LeavesSections source :=
  h.mono fun _ hmade => hmade.documents

theorem leavesSections_general (client : Client) : LeavesSections (general client) :=
  leavesSections_of_yields (yields_general fun _ => trivial)

theorem leavesSections_diagnosticData (client : Client) (deployment : Deployment) (naming : Naming) :
    LeavesSections (diagnosticData client deployment naming) := by
  refine Request.yields_bind Request.yields_true fun reply _ => ?_
  refine Request.yields_bind Request.yields_true fun data _ => ?_
  refine Request.yields_bind Request.yields_true fun samples _ => ?_
  refine Request.yields_pure fun f hf => ?_
  rw [List.mem_singleton.1 hf]
  exact leavesSections_empty

theorem leavesSections_replicaStatus (client : Client) (deployment : Deployment) :
    LeavesSections (replicaStatus client deployment) :=
  leavesSections_of_yields (yields_replicaStatus fun _ => leavesSections_empty)

theorem leavesSections_databaseStats (client : Client) (namespaces : List String) :
    LeavesSections (databaseStats client namespaces) := by
  refine leavesSections_of_yields (yields_databaseStats fun database stats f hf => ?_)
  rw [List.mem_singleton.1 hf]
  exact leavesSections_empty.insert (by decide)

theorem leavesSections_namespaceLabels (ns : String) :
    Extraction.LeavesSections (namespaceLabels ns) :=
  (leavesSections_empty.insert (by decide)).insert (by decide)

theorem leavesSections_collectionStats (client : Client) (namespaces : List String)
    (discovering : Bool) (naming : Naming) :
    LeavesSections (collectionStats client namespaces discovering naming) := by
  refine leavesSections_of_yields (yields_collectionStats fun ns rows f hf => ?_)
  obtain ⟨row, -, rfl⟩ := List.mem_map.1 hf
  exact leavesSections_namespaceLabels ns

theorem leavesSections_indexStats (client : Client) (namespaces : List String) (discovering : Bool) :
    LeavesSections (indexStats client namespaces discovering) := by
  refine leavesSections_of_yields (yields_indexStats fun ns row f hrow => ?_)
  refine leavesSections_of_keys ?_
  rw [keys_indexRow hrow]
  decide

theorem leavesSections_sharding (client : Client) : LeavesSections (sharding client) := by
  refine leavesSections_of_yields (yields_sharding (fun database collection chunk f hf => ?_)
    fun _ _ _ _ _ => trivial)
  unfold chunkRow? at hf
  simp only [Option.bind_eq_bind, Option.bind_eq_some_iff] at hf
  obtain ⟨shard, -, count, -, he⟩ := hf
  cases he
  exact ((leavesSections_empty.insert (by decide)).insert (by decide)).insert (by decide)

end Source

namespace Exporter

theorem yields_leavesSections_sources (s : Settings) (c : Connection) :
    Session.Yields (sources s c) fun found => ∀ source ∈ found, Source.LeavesSections source := by
  intro w t found ready hfound
  obtain ⟨others, rfl, hothers⟩ := yields_sources s c (Source.leavesSections_replicaStatus _ _)
    (Source.leavesSections_databaseStats _) (Source.leavesSections_collectionStats _)
    (Source.leavesSections_indexStats _) (Source.leavesSections_sharding _) w t found ready hfound
  refine List.forall_mem_cons.2
    ⟨Source.leavesSections_general _, List.forall_mem_append.2 ⟨fun x hx => ?_, hothers⟩⟩
  rw [diagnosticSources, List.mem_ite_nil_right, List.mem_singleton] at hx
  exact hx.2 ▸ Source.leavesSections_diagnosticData _ _ _

/-- What the exporter reads avoids the labels of the sections. -/
theorem avoidsSections (s : Settings) {c : Connection} (hc : c.deployment.IsKnown) :
    Session.Yields (sources s c) fun found => ∀ source ∈ found,
      Request.Yields source.fetch (AvoidsSections (conditions s c)) := by
  intro w t found ready hfound source hsource
  have hleaves := yields_leavesSections_sources s c w t found ready hfound source hsource
  exact Request.Yields.mono hleaves fun batch hbatch _ => ⟨hc.leavesSections, hbatch⟩

end Exporter

/-! ## Snapshots -/

/-- The samples of a snapshot have the labels of the deployment beneath their own ones. For any source,
a description that leaves a snapshot has fetched a batch in time; no series occurs twice, the time taken
stands there once under two labels of its own, and every other sample has each label of the deployment
unless the document that it comes from, or the ready sample itself, has one of that name, which is
kept. In the legacy naming this takes that none of these labels has the name of a section's, and so it
is for all that the exporter reads. -/
theorem base_labels_fill_in :
    (∀ (source : Scrape.Source) (c : Conditions) (w : World) (t ready : Instant) (shapes : List Shape)
      (samples : List Sample),
      ((source.collector c).describe.run w t).outcome = some ((shapes, some samples), ready) →
      ∃ batch, (source.fetch.attempt.run w t).outcome = some (.ok batch, ready) ∧
        LabelledSnapshot source c batch (ready - t) samples) ∧
    ∀ (s : Settings) (c : Connection), c.deployment.IsKnown →
      Session.Yields (Exporter.sources s c) fun found => ∀ source ∈ found,
        Request.Yields source.fetch (AvoidsSections (Exporter.conditions s c)) := by
  constructor
  · intro source c w t ready shapes samples h
    obtain ⟨batch, hfetch, -, -, rfl⟩ := outcome_describe_eq_some.1 h
    exact ⟨batch, hfetch, labelledSnapshot_snapshotOf source c batch (ready - t)⟩
  · intro s c hc
    exact Exporter.avoidsSections s hc

/-- A source of one document, which names another replica set, with a ready sample that does so as
well and one without labels that it adds. -/
def scripted : Scrape.Source where
  family := "scripted"
  fetch := Pure.pure
    ⟨[⟨"status", [("up", .int32 1), ("members", .array [.document [("name", .string "a"), ("up", .int32 1)]])],
        (Keyed.single "database" "admin").insert "rs_nm" "other"⟩],
      [Sample.gauge "ready" "Is ready." 1 (Keyed.single "rs_nm" "third")]⟩
  augment := fun _ => [Sample.gauge "added" "Was added." 1 {}]

/-- The document and the ready sample keep the replica sets that they name, and the added sample gets that
of the deployment. Neither the deployment nor the document has a label with the name of a section's. -/
theorem base_labels_fill_in_of_scripted :
    let d := Deployment.known .replicaMember (some "rs0") none (some "7f")
    let c : Conditions := ⟨d, .legacy, 1⟩
    let w := Catalogue.plainServer [] fun _ => []
    ∃ samples,
      ((scripted.collector c).describe.run w 0).outcome =
        some ((shapesOf samples [], some samples), 0) ∧
      samples.map (·.labels.toList) =
        [[("cl_id", "7f"), ("database", "admin"), ("rs_nm", "other")],
         [("cl_id", "7f"), ("database", "admin"), ("member_idx", "a"), ("rs_nm", "other")],
         [("cl_id", "7f"), ("rs_nm", "third")],
         [("cl_id", "7f"), ("rs_nm", "rs0")],
         [("collector", "scripted"), ("exporter", "mongodb")]] ∧
      (∃ batch, (scripted.fetch.attempt.run w 0).outcome = some (.ok batch, 0) ∧
        LabelledSnapshot scripted c batch (0 - 0) samples ∧ AvoidsSections c batch ∧
        (∀ s ∈ samples, s = timingSample "scripted" (0 - 0) ∨
          (∃ f ∈ batch.documents, s ∈ documentSamples .legacy d.labels f ∧
            Labelled d.labels f.labels s.labels) ∨
          ∃ x ∈ batch.samples ++ scripted.augment batch.documents, s = withBase d.labels x ∧
            Labelled d.labels x.labels s.labels) ∧
        ∀ f ∈ batch.documents, ∀ s ∈ documentSamples .legacy d.labels f,
          Labelled d.labels f.labels s.labels) ∧
      d.IsKnown ∧
      Session.Yields (Exporter.sources Settings.default ⟨0, d⟩) fun found => ∀ source ∈ found,
        Request.Yields source.fetch (AvoidsSections (Exporter.conditions Settings.default ⟨0, d⟩)) := by
  intro d c w
  have hrun : ((scripted.collector c).describe.run w 0).outcome = some ((_, some _), 0) := rfl
  have hknown : d.IsKnown := ⟨_, _, _, _, rfl⟩
  refine ⟨_, hrun, by decide +kernel, ?_, hknown, ?_⟩
  · obtain ⟨batch, hfetch, hlabelled⟩ := base_labels_fill_in.1 scripted c w 0 0 _ _ hrun
    have havoids : AvoidsSections c batch := by
      cases hfetch
      refine fun _ => ⟨hknown.leavesSections, fun f hf => ?_⟩
      rw [List.mem_singleton.1 hf]
      exact (leavesSections_empty.insert (by decide)).insert (by decide)
    exact ⟨batch, hfetch, hlabelled, havoids, hlabelled.labels havoids, hlabelled.documents havoids⟩
  · exact base_labels_fill_in.2 Settings.default ⟨0, d⟩ hknown

end MongoMetrics
