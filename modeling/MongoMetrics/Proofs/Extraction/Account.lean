/-
What each leaf of a document gives, said for the leaf alone: the way to the leaf decides its path and
its labels, and these with its value decide the sample or the refusal. Main statement: the findings
of a document are those of its leaves, in document order (`findings_eq_filterMap_answer`); so no leaf
is lost and nothing is found that is not a leaf's.
-/
import MongoMetrics.Extraction.Walk
import MongoMetrics.Proofs.Document.Leaves

namespace MongoMetrics.Extraction

/-! ## What the way decides -/

/-- Where the walk stands: the path so far and the labels. -/
structure Scope where
  path : String
  labels : Labels

/-- The scope inside a container. A document of an array keeps the path of the array and gets labels
of its own; all other containers extend the path. -/
def Scope.enter (s : Scope) (stop : Stop) : Scope :=
  match stop.slot, stop.container with
  | .field _ key, _ => ⟨join s.path key, s.labels⟩
  | .item i, .document fields => ⟨s.path, elementLabels s.labels i fields⟩
  | .item i, _ => ⟨join s.path (Number.natText i), s.labels⟩

end MongoMetrics.Extraction

namespace MongoMetrics.Leaf

open MongoMetrics.Extraction

/-- The scope of the container that holds the leaf. -/
def scope (start : Scope) (l : Leaf) : Scope := l.trail.foldl Scope.enter start

/-- The path of the leaf itself, with the position of an item as its last component. -/
def subject (start : Scope) (l : Leaf) : String :=
  match l.slot with
  | .field _ key => join (l.scope start).path key
  | .item i => join (l.scope start).path (Number.natText i)

/-- The section whose metric the leaf shares; items of arrays share none. -/
def section? (naming : Naming) (start : Scope) (l : Leaf) : Option LegacySection :=
  match l.slot with
  | .field .. => legacySection? naming (l.scope start).path
  | .item _ => none

/-- The path that the metric is named after. In the full naming all items of an array share one. -/
def namePath (naming : Naming) (start : Scope) (l : Leaf) : String :=
  match l.slot, naming with
  | .item _, .full => (l.scope start).path
  | _, _ => l.subject start

def metric (naming : Naming) (start : Scope) (l : Leaf) : String :=
  match l.section? naming start with
  | some legacy => legacy.metric
  | none => metricName naming (l.namePath naming start)

def kind (naming : Naming) (start : Scope) (nature : Nature) (l : Leaf) : Kind :=
  match l.section? naming start with
  | some legacy => legacy.kind
  | none => kindOf (l.namePath naming start) nature

/-- The labels of the leaf's sample: those of its scope, with the key in a shared section and the
position in a shared array. -/
def labels (naming : Naming) (start : Scope) (l : Leaf) : Labels :=
  match l.slot, naming with
  | .field _ key, _ =>
    match l.section? naming start with
    | some legacy => (l.scope start).labels.insert legacy.label key
    | none => (l.scope start).labels
  | .item i, .full => withPosition (l.scope start).labels i
  | .item _, .legacy => (l.scope start).labels

/-- What the leaf gives: a sample, a refusal or nothing. -/
def answer (naming : Naming) (start : Scope) (l : Leaf) : Option Finding :=
  match Reading.of l.value with
  | .value x nature =>
    if l.metric naming start = namespaceText then
      some (.refusal (.malformedField (l.subject start) "key does not produce a valid metric name"))
    else
      some (.sample ⟨l.metric naming start, l.subject start, l.kind naming start nature, x,
        l.labels naming start⟩)
  | .unsupported what =>
    some (.refusal (.malformedField (l.subject start) ("don't know how to handle " ++ what ++ " values")))
  | .silent => none

theorem answer_under (naming : Naming) (start : Scope) (stop : Stop) (l : Leaf) :
    (l.under stop).answer naming start = l.answer naming (start.enter stop) := rfl

end MongoMetrics.Leaf

namespace MongoMetrics.Extraction

/-! ## One leaf -/

theorem metricName_eq_namespaceText {naming : Naming} {path : String} :
    metricName naming path = namespaceText ↔ (stem naming path).isEmpty = true := by
  unfold metricName
  rw [String.isEmpty_iff]
  constructor
  · intro h
    have := congrArg String.toList h
    simpa [String.toList_append] using this
  · intro h
    rw [h, String.append_empty]

theorem mem_legacySections {naming : Naming} {parent : String} {legacy : LegacySection}
    (h : legacySection? naming parent = some legacy) : legacy ∈ legacySections := by
  cases naming with
  | full => cases h
  | legacy =>
    have hfind : legacySections.find? (·.path == parent) = some legacy := h
    exact List.mem_of_find?_eq_some hfind

/-- The section of a leaf is that of the path around it. -/
theorem legacySection_of_section {naming : Naming} {start : Scope} {l : Leaf} {legacy : LegacySection}
    (h : l.section? naming start = some legacy) :
    legacySection? naming (l.scope start).path = some legacy := by
  unfold Leaf.section? at h
  split at h
  · exact h
  · cases h

/-- The shared metrics all have a name. -/
theorem legacySection_metric_ne {naming : Naming} {parent : String} {legacy : LegacySection}
    (h : legacySection? naming parent = some legacy) : legacy.metric ≠ namespaceText := by
  have hall : ∀ x ∈ legacySections, x.metric ≠ namespaceText := by decide
  exact hall legacy (mem_legacySections h)

theorem ofLeaf_eq_answer (naming : Naming) (s : Scope) (i : Nat) (key : String) (v : Value) :
    ofLeaf naming s.path key s.labels v =
      ((⟨[], .field i key, v⟩ : Leaf).answer naming s).toList := by
  unfold ofLeaf Leaf.answer
  cases hr : Reading.of v with
  | silent => rfl
  | unsupported what => rfl
  | value x nature =>
    cases hs : legacySection? naming s.path with
    | some legacy =>
      have hm : (⟨[], .field i key, v⟩ : Leaf).metric naming s = legacy.metric := by
        simp [Leaf.metric, Leaf.section?, Leaf.scope, hs]
      simp [hm, legacySection_metric_ne hs, Leaf.kind, Leaf.labels, Leaf.section?, Leaf.scope,
        Leaf.subject, hs]
    | none =>
      have hm : (⟨[], .field i key, v⟩ : Leaf).metric naming s = metricName naming (join s.path key) := by
        simp [Leaf.metric, Leaf.section?, Leaf.namePath, Leaf.subject, Leaf.scope, hs]
      simp only [hm, metricName_eq_namespaceText, named]
      split <;> simp [Leaf.kind, Leaf.labels, Leaf.section?, Leaf.scope, Leaf.subject, Leaf.namePath, hs]

theorem ofElement_eq_answer (naming : Naming) (s : Scope) (i : Nat) (v : Value) :
    ofElement naming s.path s.labels i v = ((⟨[], .item i, v⟩ : Leaf).answer naming s).toList := by
  unfold ofElement Leaf.answer
  cases hr : Reading.of v with
  | silent => rfl
  | unsupported what => rfl
  | value x nature =>
    cases naming with
    | legacy =>
      have hm : (⟨[], .item i, v⟩ : Leaf).metric .legacy s =
          metricName .legacy (join s.path (Number.natText i)) := rfl
      simp only [hm, metricName_eq_namespaceText, named]
      split <;> rfl
    | full =>
      have hm : (⟨[], .item i, v⟩ : Leaf).metric .full s = metricName .full s.path := rfl
      simp only [hm, metricName_eq_namespaceText, named]
      split <;> rfl

/-- A sample has the name and the labels of its leaf. -/
theorem series_of_answer {naming : Naming} {start : Scope} {l : Leaf} {s : Sample}
    (h : l.answer naming start = some (.sample s)) :
    s.name = l.metric naming start ∧ s.labels = l.labels naming start := by
  unfold Leaf.answer at h
  split at h
  · split at h
    · cases h
    · cases h
      exact ⟨rfl, rfl⟩
  · cases h
  · cases h

/-! ## The walk -/

theorem ofField_leaf {v : Value} (h : v.isLeaf = true) (naming : Naming) (path : String)
    (labels : Labels) (key : String) :
    ofField naming path labels key v = ofLeaf naming path key labels v := by
  cases v <;> simp_all [Value.isLeaf, ofField]

theorem ofItem_leaf {v : Value} (h : v.isLeaf = true) (naming : Naming) (path : String)
    (labels : Labels) (index : Nat) :
    ofItem naming path labels index v = ofElement naming path labels index v := by
  cases v <;> simp_all [Value.isLeaf, ofItem]

theorem filterMap_answer_under (naming : Naming) (start : Scope) (stop : Stop) (l : List Leaf) :
    (l.map (Leaf.under stop)).filterMap (Leaf.answer naming start) =
      l.filterMap (Leaf.answer naming (start.enter stop)) := by
  rw [List.filterMap_map]
  exact List.filterMap_congr fun m _ => Leaf.answer_under naming start stop m

/-- A leaf is accounted for where it stands, whether in a field or in an array. -/
theorem ofField_leaf_eq {v : Value} (h : v.isLeaf = true) (naming : Naming) (s : Scope) (i : Nat)
    (key : String) : ofField naming s.path s.labels key v =
      (leavesAt (.field i key) v).filterMap (Leaf.answer naming s) := by
  rw [ofField_leaf h, leavesAt_leaf h, ofLeaf_eq_answer naming s i]
  cases ha : (⟨[], .field i key, v⟩ : Leaf).answer naming s <;> simp [ha]

theorem ofItem_leaf_eq {v : Value} (h : v.isLeaf = true) (naming : Naming) (s : Scope) (i : Nat) :
    ofItem naming s.path s.labels i v = (leavesAt (.item i) v).filterMap (Leaf.answer naming s) := by
  rw [ofItem_leaf h, leavesAt_leaf h, ofElement_eq_answer]
  cases ha : (⟨[], .item i, v⟩ : Leaf).answer naming s <;> simp [ha]

mutual

theorem ofFields_eq (naming : Naming) (s : Scope) (n : Nat) : ∀ fields : List (String × Value),
    ofFields naming s.path s.labels fields =
      (leavesOfFields n fields).filterMap (Leaf.answer naming s)
  | [] => rfl
  | (key, v) :: rest => by
    rw [ofFields, leavesOfFields, List.filterMap_append, ofField_eq naming s n key v,
      ofFields_eq naming s (n + 1) rest]

theorem ofField_eq (naming : Naming) (s : Scope) (i : Nat) (key : String) : ∀ v : Value,
    ofField naming s.path s.labels key v =
      (leavesAt (.field i key) v).filterMap (Leaf.answer naming s)
  | .document fields => by
    rw [ofField, leavesAt, filterMap_answer_under]
    exact ofFields_eq naming ⟨join s.path key, s.labels⟩ 0 fields
  | .array items => by
    rw [ofField, leavesAt, filterMap_answer_under]
    exact ofItems_eq naming ⟨join s.path key, s.labels⟩ 0 items
  | .null | .boolean _ | .string _ | .int32 _ | .int64 _ | .double _ | .dateTime _
  | .timestamp .. | .objectId _ | .decimal128 _ | .binary .. | .regex .. | .javaScript _
  | .scopedJavaScript .. | .symbol _ | .undefined | .minKey | .maxKey | .dbPointer .. =>
    ofField_leaf_eq rfl naming s i key

theorem ofItems_eq (naming : Naming) (s : Scope) (n : Nat) : ∀ items : List Value,
    ofItems naming s.path s.labels n items =
      (leavesOfItems n items).filterMap (Leaf.answer naming s)
  | [] => rfl
  | v :: rest => by
    rw [ofItems, leavesOfItems, List.filterMap_append, ofItem_eq naming s n v,
      ofItems_eq naming s (n + 1) rest]

theorem ofItem_eq (naming : Naming) (s : Scope) (i : Nat) : ∀ v : Value,
    ofItem naming s.path s.labels i v = (leavesAt (.item i) v).filterMap (Leaf.answer naming s)
  | .document fields => by
    rw [ofItem, leavesAt, filterMap_answer_under]
    exact ofFields_eq naming ⟨s.path, elementLabels s.labels i fields⟩ 0 fields
  | .array items => by
    rw [ofItem, leavesAt, filterMap_answer_under]
    exact ofItems_eq naming ⟨join s.path (Number.natText i), s.labels⟩ 0 items
  | .null | .boolean _ | .string _ | .int32 _ | .int64 _ | .double _ | .dateTime _
  | .timestamp .. | .objectId _ | .decimal128 _ | .binary .. | .regex .. | .javaScript _
  | .scopedJavaScript .. | .symbol _ | .undefined | .minKey | .maxKey | .dbPointer .. =>
    ofItem_leaf_eq rfl naming s i

end

/-- The walk finds what the leaves give, in document order. -/
theorem findings_eq_filterMap_answer (naming : Naming) (path : String) (labels : Labels)
    (d : Document) :
    findings naming path labels d = (leaves d).filterMap (Leaf.answer naming ⟨path, labels⟩) :=
  ofFields_eq naming ⟨path, labels⟩ 0 d

end MongoMetrics.Extraction
