/-
Scrapes of valid members. A member is valid when it is the process, or a source of valid batches with
allowed labels of its deployment; what it builds then is valid, whatever the server answers. Main
statement (`outcome_gather_of_valid`): a scrape of valid members always is ready and comes to families
that are well formed and can be read back from their text; and the members stay valid.
-/
import MongoMetrics.Proofs.Exposition.Decoding
import MongoMetrics.Proofs.Scrape.Agreement
import MongoMetrics.Proofs.Source.Validity

namespace MongoMetrics.Scrape

open MongoMetrics.Exposition MongoMetrics.Session

variable {w : World} {t : Instant}

/-! ## What members build -/

theorem valid_of_mem_processSamples {bootMillis : Int} {uptime : Duration}
    {resident threads : Option Nat} :
    ∀ s ∈ processSamples bootMillis uptime resident threads, ValidSample s := by
  intro s hs
  unfold processSamples at hs
  rw [List.mem_append, List.mem_append, Option.mem_toList, Option.mem_toList, List.mem_cons,
    List.mem_singleton] at hs
  rcases hs with ((rfl | rfl) | hs) | hs
  · exact validSample_gauge (by decide) ValidLabels.empty
  · exact validSample_gauge (by decide) ValidLabels.empty
  · obtain ⟨bytes, -, rfl⟩ := Option.map_eq_some_iff.1 hs
    exact validSample_gauge (by decide) ValidLabels.empty
  · obtain ⟨n, -, rfl⟩ := Option.map_eq_some_iff.1 hs
    exact validSample_gauge (by decide) ValidLabels.empty

theorem validSample_timing (family : String) (elapsed : Duration) :
    ValidSample (timingSample family elapsed) :=
  validSample_gauge (by decide) ((ValidLabels.single (by decide)).insert (by decide))

/-- All samples of a valid batch are valid, those that are added and the timing as well. -/
theorem valid_of_mem_snapshotOf {source : Source} (hsource : Source.Valid source) {base : Labels}
    (hbase : ValidLabels base) {batch : Batch} (hbatch : Source.ValidBatch batch)
    (naming : Extraction.Naming) (elapsed : Duration) :
    ∀ s ∈ snapshotOf source base naming batch elapsed, ValidSample s := by
  intro s hs
  have hmem := mem_of_mem_latest hs
  rw [List.mem_append, List.mem_append] at hmem
  rcases hmem with (hwalked | hready) | htiming
  · obtain ⟨f, hf, hs⟩ := List.mem_flatMap.1 hwalked
    exact Extraction.valid_of_mem_extract (hbase.override (hbatch.documents f hf)) naming f.path
      f.document s hs
  · obtain ⟨plain, hplain, rfl⟩ := List.mem_map.1 hready
    have hvalid : ValidSample plain := by
      rcases List.mem_append.1 hplain with h | h
      · exact hbatch.samples plain h
      · exact hsource.augment batch.documents plain h
    exact ⟨hvalid.name, hvalid.labels.fill hbase⟩
  · rw [List.mem_singleton.1 htiming]
    exact validSample_timing source.family elapsed

namespace Member

/-- The source is valid, and so are the labels of the deployment. -/
def Valid : Member → Prop
  | process .. => True
  | source s c => Source.Valid s ∧ ValidLabels c.deployment.labels

theorem valid_of_mem_built {m : Member} (h : m.Valid) : ∀ s ∈ m.built w t, ValidSample s := by
  intro s hs
  cases m with
  | process started bootMillis => exact valid_of_mem_processSamples s hs
  | source source c =>
    have hreading : s ∈ (reading source c w t).getD [] := hs
    unfold reading at hreading
    split at hreading
    · rename_i batch hbatch
      exact valid_of_mem_snapshotOf h.1 h.2 (h.1.fetch.of_valueWithin hbatch batch rfl) _ _ s hreading
    · cases hreading

end Member

/-! ## Families -/

/-- Families that make a well-formed exposition: besides being orderly, their names and the label
names of their samples are allowed, and the label names of each sample ascend strictly. -/
structure WellFormed (families : List Family) : Prop extends Orderly families where
  names : ∀ f ∈ families, isMetricName f.name = true
  labelNames : ∀ f ∈ families, ∀ s ∈ f.samples, ∀ k ∈ s.labels.keys, isLabelName k = true
  labelsAscending : ∀ f ∈ families, ∀ s ∈ f.samples, s.labels.keys.Pairwise (· < ·)

theorem mem_of_mem_familiesOf {samples : List Sample} {f : Family} (hf : f ∈ familiesOf samples)
    {s : Sample} (hs : s ∈ f.samples) : s ∈ samples := by
  unfold familiesOf at hf
  rw [Family.samples_of_mem_byName hf] at hs
  have hagree : s ∈ Family.agreeing (Sample.collapse samples) := (List.mem_filter.1 hs).1
  have hcollapse : s ∈ Sample.collapse samples := (List.mem_filter.1 hagree).1
  rw [← Sample.latest_eq_collapse] at hcollapse
  exact mem_of_mem_latest hcollapse

theorem wellFormed_familiesOf {samples : List Sample} (h : ∀ s ∈ samples, ValidSample s) :
    WellFormed (familiesOf samples) where
  toOrderly := orderly_familiesOf samples
  names := by
    intro f hf
    have horderly := orderly_familiesOf samples
    obtain ⟨s, hs⟩ := List.exists_mem_of_ne_nil _ (horderly.inhabited f hf)
    rw [← (horderly.uniform f hf s hs).1]
    exact (h s (mem_of_mem_familiesOf hf hs)).name
  labelNames f hf s hs := (h s (mem_of_mem_familiesOf hf hs)).labels
  labelsAscending _ _ s _ := s.labels.ascending

/-- Well-formed families can be read back from their text. -/
theorem WellFormed.read?_text {families : List Family} (h : WellFormed families) :
    read? (text families) = some (families.map blockOf) :=
  Exposition.read?_text fun f hf =>
    ⟨h.names f hf, fun s hs => (h.uniform f hf s hs).1, h.labelNames f hf⟩

/-- The samples of a series in families. -/
def samplesOf (families : List Family) (k : Series) : List Sample :=
  (families.flatMap Family.samples).filter (·.series = k)

/-- The series of the first sample of a name always gets into the families, with its last sample. -/
theorem samplesOf_familiesOf_of_first {before after : List Sample} {s last : Sample}
    (h : ∀ x ∈ before, x.name ≠ s.name)
    (hlast : Sample.lastOf (before ++ s :: after) s.series = some last) :
    samplesOf (familiesOf (before ++ s :: after)) s.series = [last] := by
  have hseries := (Sample.series_of_lastOf hlast).2
  have hfind := Sample.find?_collapse_of_first h after
  rw [hlast] at hfind
  have hmem : last ∈ (familiesOf (before ++ s :: after)).flatMap Family.samples := by
    refine Family.mem_samples_byName.2 (List.mem_filter.2 ⟨List.mem_of_find?_eq_some hfind, ?_⟩)
    have hname : last.name = s.name := congrArg Series.name hseries
    simp [hname, hfind]
  have honly := Sample.filter_series_of_mem (orderly_familiesOf (before ++ s :: after)).distinct hmem
  rwa [hseries] at honly

/-! ## Scrapes -/

namespace Roster

/-- A roster of valid members, whatever they remember. -/
def Valid (r : Roster) : Prop :=
  ∃ members : List (Member × Snapshot), r = ofMembers members ∧ ∀ m ∈ members, m.1.Valid

theorem outcome_gather_ofMembers (members : List (Member × Snapshot)) (w : World) (t : Instant) :
    ∃ ready, ((ofMembers members).gather.run w t).outcome =
      some ((familiesOf (members.flatMap fun m => m.1.built w t),
        ofMembers (members.map fun m => (m.1, m.1.snapshot w t))), ready) := by
  have h := (ofMembers members).outcome_gather w t
  rw [answers_ofMembers, Option.map_some, sequential_ofMembers, remember_ofMembers,
    Option.map_eq_some_iff] at h
  obtain ⟨⟨result, ready⟩, hg, rfl⟩ := h
  exact ⟨ready, hg⟩

/-- A scrape of valid members is ready, its families are well formed, and the members stay valid. -/
theorem outcome_gather_of_valid {r : Roster} (h : r.Valid) (w : World) (t : Instant) :
    ∃ families r' ready, (r.gather.run w t).outcome = some ((families, r'), ready) ∧
      WellFormed families ∧ r'.Valid := by
  obtain ⟨members, rfl, hvalid⟩ := h
  obtain ⟨ready, hg⟩ := outcome_gather_ofMembers members w t
  refine ⟨_, _, ready, hg, ?_, _, rfl, fun m hm => ?_⟩
  · refine wellFormed_familiesOf fun s hs => ?_
    obtain ⟨m, hm, hs⟩ := List.mem_flatMap.1 hs
    exact Member.valid_of_mem_built (hvalid m hm) s hs
  · obtain ⟨m', hm', rfl⟩ := List.mem_map.1 hm
    exact hvalid m' hm'

end Roster

end MongoMetrics.Scrape
