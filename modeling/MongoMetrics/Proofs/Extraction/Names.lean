/-
Samples with names that the exposition format allows. Whatever is done with label maps keeps their
names allowed, and so does the choice of one sample for each series. Documents may have any keys: a
metric name is made of a fixed beginning and characters that may follow it, and a label name is one of
a few fixed ones, perhaps with a number, so all samples of a document are allowed
(`valid_of_mem_extract`).
-/
import MongoMetrics.Exposition.Identifier
import MongoMetrics.Proofs.Extraction.Account
import MongoMetrics.Proofs.Extraction.Words
import MongoMetrics.Proofs.Family.Grouping

namespace MongoMetrics

/-! ## Names in label maps -/

namespace Keyed

variable {β : Type} {m m' : Keyed β} {k x : String}

theorem mem_keys_override : x ∈ (m.override m').keys ↔ x ∈ m.keys ∨ x ∈ m'.keys := by
  rw [mem_keys_iff, mem_keys_iff, mem_keys_iff, get?_override, Option.isSome_or, Bool.or_eq_true,
    or_comm]

theorem mem_keys_fill : x ∈ (m.fill m').keys ↔ x ∈ m.keys ∨ x ∈ m'.keys := by
  rw [mem_keys_iff, mem_keys_iff, mem_keys_iff, get?_fill, Option.isSome_or, Bool.or_eq_true]

end Keyed

namespace Exposition

/-- All label names are names that the format allows. -/
def ValidLabels (labels : Labels) : Prop := ∀ k ∈ labels.keys, isLabelName k = true

namespace ValidLabels

variable {a b : Labels} {k v : String}

theorem empty : ValidLabels {} := fun k hk => by cases hk

theorem insert (h : ValidLabels a) (hk : isLabelName k = true) : ValidLabels (a.insert k v) := by
  intro x hx
  rcases Keyed.mem_keys_insert.1 hx with rfl | hx
  · exact hk
  · exact h x hx

theorem single (hk : isLabelName k = true) : ValidLabels (Keyed.single k v) := empty.insert hk

theorem override (ha : ValidLabels a) (hb : ValidLabels b) : ValidLabels (a.override b) := by
  intro x hx
  rcases Keyed.mem_keys_override.1 hx with hx | hx
  · exact ha x hx
  · exact hb x hx

theorem fill (ha : ValidLabels a) (hb : ValidLabels b) : ValidLabels (a.fill b) := by
  intro x hx
  rcases Keyed.mem_keys_fill.1 hx with hx | hx
  · exact ha x hx
  · exact hb x hx

end ValidLabels

/-- The metric name and the label names are names that the format allows. -/
structure ValidSample (s : Sample) : Prop where
  name : isMetricName s.name = true
  labels : ValidLabels s.labels

theorem validSample_gauge {name help : String} {x : Float} {labels : Labels}
    (hn : isMetricName name = true) (hl : ValidLabels labels) :
    ValidSample (Sample.gauge name help x labels) :=
  ⟨hn, hl⟩

theorem validSample_counter {name help : String} {x : Float} {labels : Labels}
    (hn : isMetricName name = true) (hl : ValidLabels labels) :
    ValidSample (Sample.counter name help x labels) :=
  ⟨hn, hl⟩

theorem mem_of_mem_latest {l : List Sample} {s : Sample} (h : s ∈ Sample.latest l) : s ∈ l :=
  (Sample.series_of_lastOf (Sample.lastOf_of_mem_latest h)).1

end Exposition

namespace Extraction

open MongoMetrics.Exposition

/-! ## Metric names -/

/-- The characters of a normalised text: letters, digits and underscores. -/
def isNormal (c : Char) : Bool := isNameChar c || c == '_'

theorem isNormal_of_mem_normalize {raw : String} {x : Char} (h : x ∈ (normalize raw).toList) :
    isNormal x = true := by
  rw [toList_normalize] at h
  unfold isNormal
  rcases mem_joined h with rfl | h
  · rfl
  · rw [flatten_words] at h
    rw [(List.mem_filter.1 h).2, Bool.true_or]

theorem continuesMetric_of_isNormal {c : Char} (h : isNormal c = true) : continuesMetric c = true := by
  unfold isNormal isNameChar Char.isAlphanum at h
  unfold continuesMetric beginsMetric beginsLabel
  rw [Bool.or_eq_true, Bool.or_eq_true] at h
  rcases h with (h | h) | h
  · simp [h]
  · simp [h]
  · simp [h]

/-- A fixed beginning with a normalised text behind it is a metric name. -/
theorem isMetricName_append_normalize {start : String} (h : isMetricName start = true) (raw : String) :
    isMetricName (start ++ normalize raw) = true :=
  isIdentifier_append h fun _ hx => continuesMetric_of_isNormal (isNormal_of_mem_normalize hx)

theorem isMetricName_metricName (naming : Naming) (path : String) :
    isMetricName (metricName naming path) = true := by
  cases naming
  · exact isMetricName_append_normalize (by decide) path
  · exact isMetricName_append_normalize (by decide) (shorten path)

theorem valid_of_legacySection {naming : Naming} {parent : String} {legacy : LegacySection}
    (h : legacySection? naming parent = some legacy) :
    isMetricName legacy.metric = true ∧ isLabelName legacy.label = true := by
  have hall : ∀ x ∈ legacySections, isMetricName x.metric = true ∧ isLabelName x.label = true := by
    decide
  exact hall legacy (mem_legacySections h)

/-! ## Label names of array elements -/

theorem isLabelName_append_natText {base : String} (h : isLabelName base = true) (n : Nat) :
    isLabelName (base ++ Number.natText n) = true := by
  refine isIdentifier_append h fun c hc => ?_
  simp [continuesLabel, Number.isDigit_of_mem_natText hc]

theorem isLabelName_numberedLabel {base : String} (h : isLabelName base = true) (labels : Labels)
    (tries n : Nat) : isLabelName (numberedLabel labels base tries n) = true := by
  induction tries generalizing n with
  | zero => exact h
  | succ tries ih =>
    unfold numberedLabel
    dsimp only
    split
    · exact ih (n + 1)
    · exact isLabelName_append_natText h n

theorem isLabelName_freshLabel {base : String} (h : isLabelName base = true) (labels : Labels) :
    isLabelName (freshLabel labels base) = true := by
  unfold freshLabel
  split
  · exact isLabelName_numberedLabel h labels _ _
  · exact h

theorem validLabels_withPosition {labels : Labels} (h : ValidLabels labels) (index : Nat) :
    ValidLabels (withPosition labels index) :=
  h.insert (isLabelName_freshLabel (by decide) labels)

theorem validLabels_elementLabels {labels : Labels} (h : ValidLabels labels) (index : Nat)
    (element : Document) : ValidLabels (elementLabels labels index element) := by
  have hmember : isLabelName (freshLabel labels memberLabel) = true :=
    isLabelName_freshLabel (by decide) labels
  have hstate : isLabelName (freshLabel labels memberStateLabel) = true :=
    isLabelName_freshLabel (by decide) labels
  unfold elementLabels
  split
  · dsimp only
    split
    · exact (h.insert hmember).insert hstate
    · exact h.insert hmember
  · exact validLabels_withPosition h index

/-! ## Documents -/

theorem validLabels_enter {s : Scope} (h : ValidLabels s.labels) (stop : Stop) :
    ValidLabels (s.enter stop).labels := by
  unfold Scope.enter
  split
  · exact h
  · exact validLabels_elementLabels h _ _
  · exact h

/-- The labels where a leaf is held, by induction on the way to it. -/
theorem validLabels_scope {start : Scope} (h : ValidLabels start.labels) (l : Leaf) :
    ValidLabels (l.scope start).labels := by
  unfold Leaf.scope
  induction l.trail generalizing start with
  | nil => exact h
  | cons stop rest ih => exact ih (validLabels_enter h stop)

theorem valid_of_section {naming : Naming} {start : Scope} {l : Leaf} {legacy : LegacySection}
    (h : l.section? naming start = some legacy) :
    isMetricName legacy.metric = true ∧ isLabelName legacy.label = true :=
  valid_of_legacySection (legacySection_of_section h)

theorem isMetricName_metric (naming : Naming) (start : Scope) (l : Leaf) :
    isMetricName (l.metric naming start) = true := by
  unfold Leaf.metric
  split
  · rename_i legacy hs
    exact (valid_of_section hs).1
  · exact isMetricName_metricName naming _

theorem validLabels_labels {start : Scope} (h : ValidLabels start.labels) (naming : Naming) (l : Leaf) :
    ValidLabels (l.labels naming start) := by
  have hscope := validLabels_scope h l
  unfold Leaf.labels
  split
  · split
    · rename_i legacy hs
      exact hscope.insert (valid_of_section hs).2
    · exact hscope
  · exact validLabels_withPosition hscope _
  · exact hscope

/-- The sample that a leaf gives is allowed, whatever the keys on the way to it. -/
theorem valid_of_answer {naming : Naming} {start : Scope} (h : ValidLabels start.labels) {l : Leaf}
    {s : Sample} (hs : l.answer naming start = some (.sample s)) : ValidSample s := by
  obtain ⟨hname, hlabels⟩ := series_of_answer hs
  exact ⟨hname ▸ isMetricName_metric naming start l, hlabels ▸ validLabels_labels h naming l⟩

/-- Each sample is one that a leaf of the document gives. -/
theorem exists_leaf_of_mem_extract {naming : Naming} {path : String} {labels : Labels} {d : Document}
    {s : Sample} (h : s ∈ (extract naming path labels d).samples) :
    ∃ l : Leaf, l.In d ∧ l.answer naming ⟨path, labels⟩ = some (.sample s) := by
  obtain ⟨found, hfound, hsample⟩ := List.mem_filterMap.1 (mem_of_mem_latest h)
  rw [findings_eq_filterMap_answer] at hfound
  obtain ⟨l, hl, hanswer⟩ := List.mem_filterMap.1 hfound
  cases found with
  | sample s' =>
    cases hsample
    exact ⟨l, mem_leaves.1 hl, hanswer⟩
  | refusal f => cases hsample

/-- All samples of a document are allowed. -/
theorem valid_of_mem_extract {labels : Labels} (h : ValidLabels labels) (naming : Naming)
    (path : String) (d : Document) :
    ∀ s ∈ (extract naming path labels d).samples, ValidSample s := by
  have hstart : ValidLabels (⟨path, labels⟩ : Scope).labels := h
  intro s hs
  obtain ⟨l, -, hanswer⟩ := exists_leaf_of_mem_extract hs
  exact valid_of_answer hstart hanswer

end Extraction

end MongoMetrics
