/-
The labels of the deployment on the samples of a reading. They are put beneath the labels of a document
before it is walked, and a ready sample gets those that it lacks, so on both kinds an own label counts.
The walk of a document only puts labels under names that are free, except for those of the shared
sections. So all labels of a document are on all its samples (`labelled_of_mem_documentSamples`).
-/
import MongoMetrics.Proofs.Extraction.Labels
import MongoMetrics.Proofs.Scrape.Reading

namespace MongoMetrics

namespace Extraction

/-! ## Labels without those of the sections -/

/-- The label names of the shared sections are not used. -/
def LeavesSections (labels : Labels) : Prop := ∀ k ∈ sectionLabels, labels.get? k = none

theorem leavesSections_of_keys {labels : Labels} (h : ∀ k ∈ labels.keys, k ∉ sectionLabels) :
    LeavesSections labels := by
  intro k hk
  rw [← Option.not_isSome_iff_eq_none, ← Keyed.mem_keys_iff]
  exact fun hmem => h k hmem hk

theorem leavesSections_empty : LeavesSections {} := fun _ _ => rfl

theorem LeavesSections.insert {labels : Labels} (h : LeavesSections labels) {k v : String}
    (hk : k ∉ sectionLabels) : LeavesSections (labels.insert k v) := by
  intro x hx
  have hne : x ≠ k := fun he => hk (he ▸ hx)
  rw [Keyed.get?_insert_of_ne hne, h x hx]

theorem LeavesSections.override {a b : Labels} (ha : LeavesSections a) (hb : LeavesSections b) :
    LeavesSections (a.override b) := by
  intro k hk
  rw [Keyed.get?_override, ha k hk, hb k hk]
  rfl

end Extraction

namespace Scrape

open MongoMetrics.Extraction

/-! ## Labels beneath own ones -/

/-- Labels that hold own ones and those of the deployment, where an own label counts. -/
structure Labelled (base own labels : Labels) : Prop where
  /-- Every label of the deployment is there, with its own value unless the name is in use. -/
  base : ∀ k v, base.get? k = some v → labels.get? k = some ((own.get? k).getD v)
  /-- Own labels are as they were. -/
  own : own.Within labels

variable {base own labels labels' : Labels}

theorem Labelled.mono (h : Labelled base own labels) (hw : labels.Within labels') :
    Labelled base own labels' :=
  ⟨fun k v hk => hw k _ (h.base k v hk), h.own.trans hw⟩

/-- Labels that are read as the own ones, and as those of the deployment where there is none. -/
theorem labelled_of_or (h : ∀ k, labels.get? k = (own.get? k).or (base.get? k)) :
    Labelled base own labels := by
  constructor
  · intro k v hk
    rw [h, hk]
    cases own.get? k <;> rfl
  · intro k v hk
    rw [h, hk]
    rfl

theorem labelled_override (base own : Labels) : Labelled base own (base.override own) :=
  labelled_of_or fun k => Keyed.get?_override base own k

theorem labelled_withBase (base : Labels) (s : Sample) :
    Labelled base s.labels (withBase base s).labels :=
  labelled_of_or fun k => Keyed.get?_fill s.labels base k

/-! ## Samples of a document -/

variable {naming : Naming} {f : Fetched} {s : Sample}

/-- A label that a document starts with is on all its samples, unless it can be that of a section. -/
theorem get?_of_mem_documentSamples {k v : String} (hk : naming = .legacy → k ∉ sectionLabels)
    (h : (base.override f.labels).get? k = some v) (hs : s ∈ documentSamples naming base f) :
    s.labels.get? k = some v := by
  obtain ⟨l, -, hanswer⟩ := exists_leaf_of_mem_extract hs
  rw [(series_of_answer hanswer).2]
  exact Leaf.get?_labels_of_start hk h

theorem labelled_of_mem_documentSamples
    (h : naming = .legacy → LeavesSections base ∧ LeavesSections f.labels)
    (hs : s ∈ documentSamples naming base f) : Labelled base f.labels s.labels := by
  refine (labelled_override base f.labels).mono fun k v hk => get?_of_mem_documentSamples ?_ hk hs
  intro hnaming hmem
  rw [(h hnaming).1.override (h hnaming).2 k hmem] at hk
  cases hk

/-! ## Samples of a snapshot -/

variable {source : Source} {c : Conditions} {w : World} {t ready : Instant} {shapes : List Shape}
  {samples : List Sample} {batch : Batch} {elapsed : Duration}

/-- A description leaves a snapshot when the fetch succeeds in time. -/
theorem outcome_describe_eq_some :
    ((source.collector c).describe.run w t).outcome = some ((shapes, some samples), ready) ↔
      ∃ batch, (source.fetch.attempt.run w t).outcome = some (.ok batch, ready) ∧
        ready ≤ t + c.limit ∧ shapes = shapesOf samples [] ∧
        samples = snapshotOf source c.deployment.labels c.naming batch (ready - t) := by
  show ((describeSource source c).run w t).outcome = _ ↔ _
  rw [run_describeSource]
  constructor
  · intro h
    simp only [Option.some.injEq, Prod.mk.injEq] at h
    obtain ⟨⟨hshapes, hreading⟩, hready⟩ := h
    rw [hreading] at hshapes
    unfold reading at hreading
    split at hreading
    · rename_i batch hbatch
      obtain ⟨fetched, hfetch, hle⟩ := Session.valueWithin_eq_some.1 hbatch
      rw [Session.readyWithin_of_le hfetch hle] at hready hreading
      cases hready
      exact ⟨batch, hfetch, hle, hshapes.symm, (Option.some.inj hreading).symm⟩
    · cases hreading
  · rintro ⟨batch, hfetch, hle, rfl, rfl⟩
    have hvalue := Session.valueWithin_eq_some.2 ⟨ready, hfetch, hle⟩
    rw [reading, hvalue, Session.readyWithin_of_le hfetch hle]
    rfl

/-- A sample of a snapshot comes from a document, was ready or tells the time taken. -/
theorem origin_of_mem_snapshotOf
    (hs : s ∈ snapshotOf source base naming batch elapsed) :
    s = timingSample source.family elapsed ∨
      (∃ f ∈ batch.documents, s ∈ documentSamples naming base f) ∨
      ∃ x ∈ batch.samples ++ source.augment batch.documents, s = withBase base x := by
  have hmem := Exposition.mem_of_mem_latest hs
  rw [List.mem_append, List.mem_append, List.mem_flatMap, List.mem_map, List.mem_singleton] at hmem
  rcases hmem with (hwalked | ⟨x, hx, rfl⟩) | htiming
  · exact .inr (.inl hwalked)
  · exact .inr (.inr ⟨x, hx, rfl⟩)
  · exact .inl htiming

/-- The time taken is put last, so no other sample of its series remains. -/
theorem timingSample_mem_snapshotOf (source : Source) (base : Labels) (naming : Naming)
    (batch : Batch) (elapsed : Duration) :
    timingSample source.family elapsed ∈ snapshotOf source base naming batch elapsed := by
  unfold snapshotOf
  rw [Sample.mem_latest, Sample.lastOf_append_singleton, if_pos rfl]

/-- The name and the labels under which the time taken stands. -/
def IsTiming (family : String) (s : Sample) : Prop :=
  s.name = "mongodb_collector_scrape_time_ms" ∧
    s.labels.toList = [("collector", family), ("exporter", "mongodb")]

instance (family : String) (s : Sample) : Decidable (IsTiming family s) :=
  inferInstanceAs (Decidable (_ ∧ _))

theorem isTiming_iff (family : String) (elapsed : Duration) (s : Sample) :
    IsTiming family s ↔ s.series = (timingSample family elapsed).series := by
  have htiming : (timingSample family elapsed).labels.toList =
      [("collector", family), ("exporter", "mongodb")] := rfl
  constructor
  · rintro ⟨hname, hlabels⟩
    have h : s.labels = (timingSample family elapsed).labels := Keyed.ext (hlabels.trans htiming.symm)
    rw [Sample.series, h, hname]
    rfl
  · intro h
    exact ⟨congrArg Series.name h, (congrArg (fun k => k.labels.toList) h).trans htiming⟩

theorem filter_isTiming_snapshotOf (source : Source) (base : Labels) (naming : Naming)
    (batch : Batch) (elapsed : Duration) :
    (snapshotOf source base naming batch elapsed).filter (IsTiming source.family ·) =
      [timingSample source.family elapsed] := by
  simp only [isTiming_iff source.family elapsed]
  exact Sample.filter_series_of_mem (Sample.nodup_series_latest _)
    (timingSample_mem_snapshotOf source base naming batch elapsed)

/-- In the legacy naming neither the deployment nor a document has a label with the name of a
section's. -/
def AvoidsSections (c : Conditions) (batch : Batch) : Prop :=
  c.naming = .legacy → LeavesSections c.deployment.labels ∧
    ∀ f ∈ batch.documents, LeavesSections f.labels

/-- How the samples of a reading are labelled. -/
structure LabelledSnapshot (source : Source) (c : Conditions) (batch : Batch) (elapsed : Duration)
    (samples : List Sample) : Prop where
  /-- No series occurs twice. -/
  series : (samples.map Sample.series).Nodup
  /-- The time taken is there once, under two labels. -/
  timing : samples.filter (IsTiming source.family ·) = [timingSample source.family elapsed]
  /-- Every other sample has the labels of the deployment, and those of the document that it comes
  from, or else its own; these count where both have a label. -/
  labels : AvoidsSections c batch →
    ∀ s ∈ samples, s = timingSample source.family elapsed ∨
      (∃ f ∈ batch.documents, s ∈ documentSamples c.naming c.deployment.labels f ∧
        Labelled c.deployment.labels f.labels s.labels) ∨
      ∃ x ∈ batch.samples ++ source.augment batch.documents, s = withBase c.deployment.labels x ∧
        Labelled c.deployment.labels x.labels s.labels
  /-- All samples of a document have the labels that were given to it. -/
  documents : AvoidsSections c batch →
    ∀ f ∈ batch.documents, ∀ s ∈ documentSamples c.naming c.deployment.labels f,
      Labelled c.deployment.labels f.labels s.labels

theorem labelledSnapshot_snapshotOf (source : Source) (c : Conditions) (batch : Batch)
    (elapsed : Duration) : LabelledSnapshot source c batch elapsed
      (snapshotOf source c.deployment.labels c.naming batch elapsed) where
  series := Sample.nodup_series_latest _
  timing := filter_isTiming_snapshotOf source _ _ batch elapsed
  labels h s hs := by
    rcases origin_of_mem_snapshotOf hs with htiming | ⟨f, hf, hwalked⟩ | ⟨x, hx, rfl⟩
    · exact .inl htiming
    · have hleaves : c.naming = .legacy →
          LeavesSections c.deployment.labels ∧ LeavesSections f.labels :=
        fun hnaming => ⟨(h hnaming).1, (h hnaming).2 f hf⟩
      exact .inr (.inl ⟨f, hf, hwalked, labelled_of_mem_documentSamples hleaves hwalked⟩)
    · exact .inr (.inr ⟨x, hx, rfl, labelled_withBase _ x⟩)
  documents h f hf s hs :=
    labelled_of_mem_documentSamples (fun hnaming => ⟨(h hnaming).1, (h hnaming).2 f hf⟩) hs

end Scrape

end MongoMetrics
