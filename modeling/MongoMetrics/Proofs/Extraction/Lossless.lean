/-
Extraction loses nothing and invents nothing. The values at the leaves fall into three classes: those
that convert to a number, those that are refused and those that say nothing. Main statement
(`extract_accounts_for_leaves`): every leaf gives exactly what its class says, the samples of a
document are those of its leaves with one kept for each series, and the refusals are those of its
leaves, in document order.
-/
import MongoMetrics.Proofs.Extraction.Account
import MongoMetrics.Proofs.Sample.Latest

namespace MongoMetrics.Extraction

/-! ## The classes of values -/

/-- The values that convert, with the numbers they convert to. -/
inductive Converts : Value → Float → Prop
  | int32 (n : Int32) : Converts (.int32 n) (Float.ofInt n.toInt)
  | int64 (n : Int64) : Converts (.int64 n) (Float.ofInt n.toInt)
  | double (x : Float) : Converts (.double x) x
  | boolean (b : Bool) : Converts (.boolean b) (if b then 1 else 0)
  | dateTime (millis : Int64) : Converts (.dateTime millis) (Float.ofInt millis.toInt / 1000)
  | timestamp (seconds increment : UInt32) :
      Converts (.timestamp seconds increment) (Float.ofNat seconds.toNat)

/-- The values of kinds that no number stands for, with the names of the kinds. -/
inductive Unsupported : Value → String → Prop
  | decimal128 (digits : String) : Unsupported (.decimal128 digits) "decimal128"
  | binary (subtype : UInt8) (hex : String) : Unsupported (.binary subtype hex) "binary"
  | regex (pattern options : String) : Unsupported (.regex pattern options) "regular expression"
  | javaScript (code : String) : Unsupported (.javaScript code) "javascript"
  | scopedJavaScript (code : String) (scope : Document) :
      Unsupported (.scopedJavaScript code scope) "javascript"
  | symbol (s : String) : Unsupported (.symbol s) "symbol"
  | undefined : Unsupported .undefined "undefined"
  | minKey : Unsupported .minKey "min/max key"
  | maxKey : Unsupported .maxKey "min/max key"
  | dbPointer (ns hex : String) : Unsupported (.dbPointer ns hex) "db pointer"

/-- The values that are passed over. -/
inductive Silent : Value → Prop
  | string (s : String) : Silent (.string s)
  | null : Silent .null
  | objectId (hex : String) : Silent (.objectId hex)

/-- The classes cover the leaves. -/
theorem converts_or_unsupported_or_silent {v : Value} (h : v.isLeaf = true) :
    (∃ x, Converts v x) ∨ (∃ what, Unsupported v what) ∨ Silent v := by
  cases v with
  | array _ | document _ => cases h
  | null | string _ | objectId _ => exact .inr (.inr (by constructor))
  | boolean b => exact .inl ⟨_, .boolean b⟩
  | int32 n => exact .inl ⟨_, .int32 n⟩
  | int64 n => exact .inl ⟨_, .int64 n⟩
  | double x => exact .inl ⟨_, .double x⟩
  | dateTime millis => exact .inl ⟨_, .dateTime millis⟩
  | timestamp seconds increment => exact .inl ⟨_, .timestamp seconds increment⟩
  | _ => exact .inr (.inl ⟨_, by constructor⟩)

/-! ## What a leaf of each class gives -/

theorem reading_of_converts {v : Value} {x : Float} (h : Converts v x) :
    ∃ nature, Reading.of v = .value x nature := by
  cases h <;> exact ⟨_, rfl⟩

theorem reading_of_unsupported {v : Value} {what : String} (h : Unsupported v what) :
    Reading.of v = .unsupported what := by
  cases h <;> rfl

theorem reading_of_silent {v : Value} (h : Silent v) : Reading.of v = .silent := by
  cases h <;> rfl

/-- A leaf that converts gives one sample, or one refusal when its metric has no name. -/
theorem answer_of_converts {l : Leaf} {x : Float} (h : Converts l.value x) (naming : Naming)
    (start : Scope) :
    if l.metric naming start = namespaceText then
      l.answer naming start = some (.refusal
        (.malformedField (l.subject start) "key does not produce a valid metric name"))
    else
      ∃ nature, l.answer naming start = some (.sample ⟨l.metric naming start, l.subject start,
        l.kind naming start nature, x, l.labels naming start⟩) := by
  obtain ⟨nature, hr⟩ := reading_of_converts h
  unfold Leaf.answer
  rw [hr]
  by_cases hm : l.metric naming start = namespaceText
  · simp only [if_pos hm]
  · simp only [if_neg hm]
    exact ⟨nature, rfl⟩

theorem answer_of_unsupported {l : Leaf} {what : String} (h : Unsupported l.value what)
    (naming : Naming) (start : Scope) :
    l.answer naming start = some (.refusal
      (.malformedField (l.subject start) ("don't know how to handle " ++ what ++ " values"))) := by
  unfold Leaf.answer
  rw [reading_of_unsupported h]

theorem answer_of_silent {l : Leaf} (h : Silent l.value) (naming : Naming) (start : Scope) :
    l.answer naming start = none := by
  unfold Leaf.answer
  rw [reading_of_silent h]

/-! ## The whole document -/

/-- Every leaf of the document is accounted for. The leaves are exactly the ends of the ways into the
document, each once and in document order. One that converts gives a sample of its number, or a
refusal when its metric has no name; an unsupported one gives a refusal, a silent one nothing. The
samples of the document are those of the leaves: one for each series, in the order in which the
series occur first, each the last one of its series. The refusals are those of the leaves. -/
theorem extract_accounts_for_leaves (naming : Naming) (path : String) (labels : Labels) (d : Document) :
    let start : Scope := ⟨path, labels⟩
    let answers := (leaves d).filterMap (Leaf.answer naming start)
    let candidates := answers.filterMap Finding.sample?
    let extracted := extract naming path labels d
    ((∀ l, l ∈ leaves d ↔ l.In d) ∧ (leaves d).Pairwise Leaf.Before) ∧
    (∀ l ∈ leaves d,
      ((∃ x, Converts l.value x) ∨ (∃ what, Unsupported l.value what) ∨ Silent l.value) ∧
      (∀ x, Converts l.value x →
        if l.metric naming start = namespaceText then
          l.answer naming start = some (.refusal
            (.malformedField (l.subject start) "key does not produce a valid metric name"))
        else
          ∃ nature, l.answer naming start = some (.sample ⟨l.metric naming start, l.subject start,
            l.kind naming start nature, x, l.labels naming start⟩)) ∧
      (∀ what, Unsupported l.value what → l.answer naming start = some (.refusal
        (.malformedField (l.subject start) ("don't know how to handle " ++ what ++ " values")))) ∧
      (Silent l.value → l.answer naming start = none)) ∧
    (extracted.samples.map Sample.series = (candidates.map Sample.series).eraseDups ∧
      ∀ s ∈ extracted.samples, Sample.lastOf candidates s.series = some s) ∧
    extracted.refusals = answers.filterMap Finding.refusal? := by
  intro start answers candidates extracted
  have hfound : findings naming path labels d = answers :=
    findings_eq_filterMap_answer naming path labels d
  have hsamples : extracted.samples = Sample.latest candidates := by
    show Sample.latest ((findings naming path labels d).filterMap Finding.sample?) = _
    rw [hfound]
  refine ⟨⟨fun l => mem_leaves, leaves_ascending d⟩, fun l hl => ?_, ⟨?_, fun s hs => ?_⟩, ?_⟩
  · exact ⟨converts_or_unsupported_or_silent (mem_leaves.1 hl).1,
      fun x hx => answer_of_converts hx naming start,
      fun what hw => answer_of_unsupported hw naming start,
      fun hs => answer_of_silent hs naming start⟩
  · rw [hsamples, Sample.series_latest]
  · exact Sample.lastOf_of_mem_latest (hsamples ▸ hs)
  · show (findings naming path labels d).filterMap Finding.refusal? = _
    rw [hfound]

end MongoMetrics.Extraction
