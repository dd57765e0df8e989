/-
The two namings of one document. A path that holds a letter or a digit gives a name in both namings, for
short forms hold letters too; so both find a sample, or both refuse or pass over, at each leaf, and what
they find differs in the name, in the kind and in the label of an array position or of a shared section.
Main statement (`namings_correspond`): leaf by leaf the samples have the same help text and value, and
the refusals are the same.
-/
import MongoMetrics.Proofs.Extraction.Lossless
import MongoMetrics.Proofs.Extraction.ShortForms
import MongoMetrics.Proofs.Extraction.Words
import Mathlib.Data.List.Forall2

namespace MongoMetrics.Extraction

/-! ## Texts that give names -/

/-- The text holds a letter or a digit. -/
def Nameable (s : String) : Prop := ∃ c ∈ s.toList, isNameChar c = true

instance (s : String) : Decidable (Nameable s) :=
  decidable_of_iff (s.toList.any isNameChar = true) List.any_eq_true

theorem Nameable.append_left {s : String} (h : Nameable s) (t : String) : Nameable (s ++ t) := by
  obtain ⟨c, hc, hname⟩ := h
  refine ⟨c, ?_, hname⟩
  rw [String.toList_append, List.mem_append]
  exact .inl hc

theorem Nameable.append_right {t : String} (h : Nameable t) (s : String) : Nameable (s ++ t) := by
  obtain ⟨c, hc, hname⟩ := h
  refine ⟨c, ?_, hname⟩
  rw [String.toList_append, List.mem_append]
  exact .inr hc

/-- The path of a field holds what the path around it holds. -/
theorem Nameable.join_left {path : String} (h : Nameable path) (key : String) :
    Nameable (join path key) := by
  unfold Extraction.join
  split
  · rename_i hempty
    obtain ⟨c, hc, -⟩ := h
    rw [String.isEmpty_iff.1 hempty] at hc
    cases hc
  · rw [String.append_assoc]
    exact h.append_left _

theorem Nameable.join_right {key : String} (h : Nameable key) (path : String) :
    Nameable (join path key) := by
  unfold Extraction.join
  split
  · exact h
  · exact h.append_right _

/-! ## Normalised names -/

/-- Letters and digits go into the name. -/
theorem Nameable.normalize {raw : String} (h : Nameable raw) : Nameable (normalize raw) := by
  obtain ⟨c, hc, hname⟩ := h
  have hmem : c ∈ (Extraction.normalize raw).toList.filter isNameChar := by
    rw [filter_normalize]
    exact List.mem_filter.2 ⟨hc, hname⟩
  exact ⟨c, (List.mem_filter.1 hmem).1, hname⟩

theorem nameable_shortForms : ∀ p ∈ shortForms, Nameable p.2 := by decide

theorem Nameable.shortenBy {table : List (String × String)} (htable : ∀ p ∈ table, Nameable p.2)
    {path : String} (h : Nameable path) : Nameable (shortenBy table path) := by
  rcases shortenBy_cases table path with ⟨entry, hentry, rest, -, hshort⟩ | hpath
  · rw [hshort]
    exact (htable entry hentry).append_left rest
  · rwa [hpath]

theorem Nameable.stem {path : String} (h : Nameable path) (naming : Naming) :
    Nameable (stem naming path) := by
  cases naming with
  | full => exact h.normalize
  | legacy => exact (h.shortenBy nameable_shortForms).normalize

theorem metricName_ne_of_nameable {path : String} (h : Nameable path) (naming : Naming) :
    metricName naming path ≠ namespaceText := by
  intro hname
  have hempty : stem naming path = "" := String.isEmpty_iff.1 (metricName_eq_namespaceText.1 hname)
  obtain ⟨c, hc, -⟩ := h.stem naming
  rw [hempty] at hc
  cases hc

/-! ## The paths of leaves -/

theorem nameable_enter {s : Scope} (h : Nameable s.path) (stop : Stop) : Nameable (s.enter stop).path := by
  unfold Scope.enter
  split
  · exact h.join_left _
  · exact h
  · exact h.join_left _

theorem nameable_scope {start : Scope} (h : Nameable start.path) (l : Leaf) :
    Nameable (l.scope start).path := by
  unfold Leaf.scope
  induction l.trail generalizing start with
  | nil => exact h
  | cons stop rest ih => exact ih (nameable_enter h stop)

theorem nameable_namePath_of_scope {start : Scope} {l : Leaf} (h : Nameable (l.scope start).path)
    (naming : Naming) : Nameable (l.namePath naming start) := by
  have hsubject : Nameable (l.subject start) := by
    unfold Leaf.subject
    split <;> exact h.join_left _
  unfold Leaf.namePath
  split
  · exact h
  · exact hsubject

/-- The beginning of the paths gives names: the path of the document does, or each of its keys. -/
def NameableBelow (path : String) (d : Document) : Prop := Nameable path ∨ ∀ f ∈ d, Nameable f.1

/-- Then every leaf is named after a path that gives a name. -/
theorem NameableBelow.namePath {path : String} {d : Document} (h : NameableBelow path d) (labels : Labels)
    {l : Leaf} (hl : l.In d) (naming : Naming) : Nameable (l.namePath naming ⟨path, labels⟩) := by
  rcases h with hpath | hkeys
  · have hstart : Nameable (⟨path, labels⟩ : Scope).path := hpath
    exact nameable_namePath_of_scope (nameable_scope hstart l) naming
  · obtain ⟨-, hleads⟩ := hl
    obtain ⟨trail, slot, v⟩ := l
    -- the way to the leaf begins with one of the keys, and either ends there or goes on below it
    cases trail with
    | nil =>
      cases hleads with
      | @field _ i key _ hi => exact (hkeys _ (List.mem_of_getElem? hi)).join_right path
    | cons stop rest =>
      obtain ⟨outer, container⟩ := stop
      obtain ⟨hfirst, -⟩ := hleads
      cases hfirst with
      | @field _ i key _ hi =>
        have hentered : Nameable (⟨join path key, labels⟩ : Scope).path :=
          (hkeys _ (List.mem_of_getElem? hi)).join_right path
        apply nameable_namePath_of_scope
        exact nameable_scope hentered ⟨rest, slot, v⟩

theorem metric_ne_of_nameable {naming : Naming} {start : Scope} {l : Leaf}
    (h : Nameable (l.namePath naming start)) : l.metric naming start ≠ namespaceText := by
  unfold Leaf.metric
  split
  · rename_i legacy hsection
    exact legacySection_metric_ne (legacySection_of_section hsection)
  · exact metricName_ne_of_nameable h naming

/-! ## Two namings of one leaf -/

/-- Two samples of one leaf, in the full and in the legacy naming. They measure the same; over the labels
that they share, the full naming may have the position in an array, and the legacy one the key in a shared
section. -/
structure Renamed (full legacy : Sample) : Prop where
  help : full.help = legacy.help
  value : full.value = legacy.value
  labels : ∃ shared : Labels,
    (full.labels = shared ∨ ∃ index, full.labels = withPosition shared index) ∧
    (legacy.labels = shared ∨ ∃ s ∈ legacySections, ∃ key, legacy.labels = shared.insert s.label key)

/-- Two findings of one leaf: samples that measure the same, or one refusal. -/
inductive Corresponds : Finding → Finding → Prop
  | sample {full legacy : Sample} (h : Renamed full legacy) : Corresponds (.sample full) (.sample legacy)
  | refusal (f : Fault) : Corresponds (.refusal f) (.refusal f)

/-- The labels of a leaf in the two namings. -/
theorem labels_correspond (start : Scope) (l : Leaf) : ∃ shared : Labels,
    (l.labels .full start = shared ∨ ∃ index, l.labels .full start = withPosition shared index) ∧
    (l.labels .legacy start = shared ∨
      ∃ s ∈ legacySections, ∃ key, l.labels .legacy start = shared.insert s.label key) := by
  refine ⟨(l.scope start).labels, ?_⟩
  obtain ⟨trail, slot, v⟩ := l
  cases slot with
  | item i => exact ⟨.inr ⟨i, rfl⟩, .inl rfl⟩
  | field i key =>
    refine ⟨.inl rfl, ?_⟩
    unfold Leaf.labels
    cases hsection : (⟨trail, .field i key, v⟩ : Leaf).section? .legacy start with
    | none => exact .inl rfl
    | some legacy =>
      have hmem : legacy ∈ legacySections := mem_legacySections (legacySection_of_section hsection)
      exact .inr ⟨legacy, hmem, key, rfl⟩

/-- What a leaf gives whose paths give names in both namings. -/
theorem answers_correspond {start : Scope} {l : Leaf}
    (h : ∀ naming, Nameable (l.namePath naming start)) :
    Option.Rel Corresponds (l.answer .full start) (l.answer .legacy start) := by
  unfold Leaf.answer
  cases Reading.of l.value with
  | silent => exact .none
  | unsupported what => exact .some (.refusal _)
  | value x nature =>
    have hfull := metric_ne_of_nameable (h .full)
    have hlegacy := metric_ne_of_nameable (h .legacy)
    simp only [if_neg hfull, if_neg hlegacy]
    exact .some (.sample ⟨rfl, rfl, labels_correspond start l⟩)

/-! ## Two namings of one document -/

theorem findings_correspond {path : String} {d : Document} (h : NameableBelow path d) (labels : Labels) :
    List.Forall₂ Corresponds (findings .full path labels d) (findings .legacy path labels d) := by
  rw [findings_eq_filterMap_answer, findings_eq_filterMap_answer]
  have hsame : List.Forall₂ (fun a b => a = b ∧ a ∈ leaves d) (leaves d) (leaves d) :=
    List.forall₂_same.2 fun l hl => ⟨rfl, hl⟩
  refine List.rel_filterMap ?_ hsame
  rintro l l' ⟨rfl, hl⟩
  exact answers_correspond fun naming => h.namePath labels (mem_leaves.1 hl) naming

end MongoMetrics.Extraction

namespace MongoMetrics.Leaf

/-- The number that the leaf converts to, if it does. -/
def number? (l : Leaf) : Option Float :=
  match Extraction.Reading.of l.value with
  | .value x _ => some x
  | _ => none

/-- The path of the leaf with its number. -/
def source? (start : Extraction.Scope) (l : Leaf) : Option (String × Float) :=
  l.number?.map fun x => (l.subject start, x)

end MongoMetrics.Leaf

namespace MongoMetrics.Extraction

/-- Help texts and values of the samples in either naming, read off the leaves. -/
theorem sources_of_findings {path : String} {d : Document} (h : NameableBelow path d) (labels : Labels)
    (naming : Naming) :
    ((findings naming path labels d).filterMap Finding.sample?).map (fun s => (s.help, s.value)) =
      (leaves d).filterMap (Leaf.source? ⟨path, labels⟩) := by
  rw [findings_eq_filterMap_answer, List.filterMap_filterMap, List.map_filterMap]
  refine List.filterMap_congr fun l hl => ?_
  have hname := metric_ne_of_nameable (h.namePath labels (mem_leaves.1 hl) naming)
  unfold Leaf.answer Leaf.source? Leaf.number?
  cases Reading.of l.value with
  | silent => rfl
  | unsupported what => rfl
  | value x nature =>
    simp only [if_neg hname]
    rfl

/-- The namings differ in names only. When the path of a document or each of its keys holds a letter or a
digit, the samples of the two namings come in pairs, in document order: each pair has one help text and
one value, and its labels are the same but for the position in an array or the key in a shared section.
The pairs are those of the leaves that convert, with their paths and numbers, and the refusals are the
same in both namings. -/
theorem namings_correspond (path : String) (labels : Labels) (d : Document) (h : NameableBelow path d) :
    List.Forall₂ Renamed ((findings .full path labels d).filterMap Finding.sample?)
      ((findings .legacy path labels d).filterMap Finding.sample?) ∧
    (∀ naming, ((findings naming path labels d).filterMap Finding.sample?).map (fun s => (s.help, s.value)) =
      (leaves d).filterMap (Leaf.source? ⟨path, labels⟩)) ∧
    (extract .full path labels d).refusals = (extract .legacy path labels d).refusals := by
  have hpairs := findings_correspond h labels
  refine ⟨?_, sources_of_findings h labels, ?_⟩
  · refine List.rel_filterMap ?_ hpairs
    rintro _ _ (hrenamed | fault)
    · exact .some hrenamed
    · exact .none
  · have hrefusals : List.Forall₂ (· = ·) ((findings .full path labels d).filterMap Finding.refusal?)
        ((findings .legacy path labels d).filterMap Finding.refusal?) := by
      refine List.rel_filterMap ?_ hpairs
      rintro _ _ (hrenamed | fault)
      · exact .none
      · exact .some rfl
    rwa [List.forall₂_eq_eq_eq] at hrefusals

/-- A document with a shared section, an array and a leaf of an unsupported kind. -/
def statusDocument : Document :=
  [("connections", .document [("current", .int32 5)]), ("loads", .array [.int64 7, .undefined])]

/-- The two namings of this document. -/
theorem namings_correspond_of_status : NameableBelow "serverStatus" statusDocument ∧
    List.Forall₂ Renamed ((findings .full "serverStatus" {} statusDocument).filterMap Finding.sample?)
      ((findings .legacy "serverStatus" {} statusDocument).filterMap Finding.sample?) ∧
    (extract .full "serverStatus" {} statusDocument).refusals =
      (extract .legacy "serverStatus" {} statusDocument).refusals ∧
    ((findings .full "serverStatus" {} statusDocument).filterMap Finding.sample?).map Sample.name =
      ["mongodb_serverStatus_connections_current", "mongodb_serverStatus_loads"] ∧
    ((findings .legacy "serverStatus" {} statusDocument).filterMap Finding.sample?).map Sample.name =
      ["mongodb_connections", "mongodb_ss_loads_0"] := by
  have hnameable : NameableBelow "serverStatus" statusDocument := .inl (by decide)
  obtain ⟨hpairs, -, hrefusals⟩ := namings_correspond "serverStatus" {} statusDocument hnameable
  exact ⟨hnameable, hpairs, hrefusals, by decide, by decide⟩

/-- Without a letter or digit around it, an array gives names in the legacy naming only. -/
example : ((findings .full "" {} [("$", .array [.int32 1])]).filterMap Finding.sample?).length = 0 ∧
    ((findings .legacy "" {} [("$", .array [.int32 1])]).filterMap Finding.sample?).length = 1 := by
  decide

end MongoMetrics.Extraction
