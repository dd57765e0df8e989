/-
Leaves of unsupported kinds disturb nothing around them. Any set of them can be blanked, that is replaced
by nulls: then every leaf is reached as before, with the same path and the same labels, even where a blanked
one stood under a key that the walk reads of an element. Main statement (`unsupported_leaves_are_contained`):
the samples stay as they are, and of the refusals exactly those of the blanked leaves are gone.
-/
import MongoMetrics.Proofs.Extraction.Labels
import MongoMetrics.Proofs.Extraction.Lossless
import Mathlib.Data.List.Forall2

namespace MongoMetrics

/-! ## Blanking -/

/-- The kinds that no number stands for. -/
def Value.isUnsupported : Value → Bool
  | .decimal128 _ | .binary .. | .regex .. | .javaScript _ | .scopedJavaScript .. | .symbol _
  | .undefined | .minKey | .maxKey | .dbPointer .. => true
  | _ => false

mutual

/-- The value with nulls in the place of the chosen unsupported leaves. A leaf is chosen by its address
below the value. -/
def Value.blank (chosen : List Nat → Bool) : Value → Value
  | .document fields => .document (blankFields chosen 0 fields)
  | .array items => .array (blankItems chosen 0 items)
  | v => if chosen [] && v.isUnsupported then .null else v

def blankFields (chosen : List Nat → Bool) (position : Nat) :
    List (String × Value) → List (String × Value)
  | [] => []
  | (key, v) :: rest =>
    (key, v.blank fun address => chosen (position :: address)) :: blankFields chosen (position + 1) rest

def blankItems (chosen : List Nat → Bool) (position : Nat) : List Value → List Value
  | [] => []
  | v :: rest =>
    (v.blank fun address => chosen (position :: address)) :: blankItems chosen (position + 1) rest

end

/-- The document with nulls in the place of the chosen unsupported leaves. -/
def Document.blank (d : Document) (chosen : List Nat → Bool) : Document := blankFields chosen 0 d

theorem Value.blank_leaf {v : Value} (h : v.isLeaf = true) (chosen : List Nat → Bool) :
    v.blank chosen = if chosen [] && v.isUnsupported then .null else v := by
  cases v <;> simp_all [Value.isLeaf, Value.blank]

theorem Value.isLeaf_blank {v : Value} (h : v.isLeaf = true) (chosen : List Nat → Bool) :
    (v.blank chosen).isLeaf = true := by
  rw [blank_leaf h]
  split
  · rfl
  · exact h

/-! ## What the walk reads of an element -/

def Value.text? : Value → Option String
  | .string s => some s
  | _ => none

/-- Texts are neither blanked nor what a leaf is blanked to. -/
theorem Value.text?_blank (chosen : List Nat → Bool) (v : Value) :
    (v.blank chosen).text? = v.text? := by
  cases hleaf : v.isLeaf with
  | false => cases v <;> simp_all [Value.isLeaf, Value.blank, Value.text?]
  | true =>
    rw [blank_leaf hleaf]
    split
    · rename_i hblank
      cases v <;> simp_all [Value.isUnsupported, Value.text?]
    · rfl

namespace Document

theorem string?_eq_bind (d : Document) (key : String) :
    string? d key = (get? d key).bind Value.text? := by
  unfold string?
  cases get? d key with
  | none => rfl
  | some v => cases v <;> rfl

/-- A text under a key is read as before, and nothing is read where there was no text. -/
theorem string?_blankFields (chosen : List Nat → Bool) (key : String) (n : Nat) (fields : Document) :
    string? (blankFields chosen n fields) key = string? fields key := by
  rw [string?_eq_bind, string?_eq_bind]
  unfold get?
  induction fields generalizing n with
  | nil => rw [blankFields]
  | cons f rest ih =>
    obtain ⟨k, v⟩ := f
    rw [blankFields, Keyed.lookup_entry, Keyed.lookup_entry]
    split
    · exact Value.text?_blank _ v
    · exact ih (n + 1)

end Document

namespace Extraction

theorem elementLabels_blankFields (chosen : List Nat → Bool) (labels : Labels) (i n : Nat)
    (fields : Document) : elementLabels labels i (blankFields chosen n fields) =
      elementLabels labels i fields := by
  rw [elementLabels_eq, elementLabels_eq]
  unfold discriminants discriminant
  rw [Document.string?_blankFields, Document.string?_blankFields]

/-- Entering a container does not depend on the blanked leaves in it. -/
theorem enter_document (chosen : List Nat → Bool) (s : Scope) (slot : Slot) (fields : Document) :
    s.enter ⟨slot, .document (blankFields chosen 0 fields)⟩ = s.enter ⟨slot, .document fields⟩ := by
  cases slot with
  | field => rfl
  | item i => exact congrArg (Scope.mk s.path) (elementLabels_blankFields chosen s.labels i 0 fields)

theorem enter_array (s : Scope) (slot : Slot) (items items' : List Value) :
    s.enter ⟨slot, .array items⟩ = s.enter ⟨slot, .array items'⟩ := by
  cases slot <;> rfl

end Extraction

/-! ## Leaves -/

namespace Leaf

open Extraction

variable {chosen : List Nat → Bool} {l m : Leaf}

/-- The leaf is one of those that are blanked. -/
def isBlanked (chosen : List Nat → Bool) (l : Leaf) : Bool := chosen l.address && l.value.isUnsupported

/-- `m` is what becomes of the leaf `l`: it stands in the same place, is reached with the same path and
labels, and only if `l` is blanked its value is another one, null. -/
structure Blanked (chosen : List Nat → Bool) (l m : Leaf) : Prop where
  slot : m.slot = l.slot
  trail : m.trail.map Stop.slot = l.trail.map Stop.slot
  value : m.value = if l.isBlanked chosen then .null else l.value
  scope : ∀ start, m.scope start = l.scope start

/-- One more container around a leaf and around what becomes of it. -/
theorem Blanked.under {stop stop' : Stop} (hslot : stop'.slot = stop.slot)
    (henter : ∀ s : Scope, s.enter stop' = s.enter stop)
    (h : Blanked (fun address => chosen (stop.slot.position :: address)) l m) :
    Blanked chosen (l.under stop) (m.under stop') where
  slot := h.slot
  trail := by
    show stop'.slot :: m.trail.map Stop.slot = stop.slot :: l.trail.map Stop.slot
    rw [hslot, h.trail]
  value := h.value
  scope start := by
    show m.scope (start.enter stop') = l.scope (start.enter stop)
    rw [henter, h.scope]

/-- What a leaf gives is decided by its slot, its scope and its value. -/
theorem answer_congr (hslot : m.slot = l.slot) (hscope : ∀ start, m.scope start = l.scope start)
    (hvalue : m.value = l.value) (naming : Naming) (start : Scope) :
    m.answer naming start = l.answer naming start := by
  unfold answer metric kind labels namePath section? subject
  rw [hslot, hscope, hvalue]

/-- A blanked leaf gives nothing any more, every other one what it gave. -/
theorem Blanked.answer (h : Blanked chosen l m) (naming : Naming) (start : Scope) :
    m.answer naming start = if l.isBlanked chosen then none else l.answer naming start := by
  have hvalue := h.value
  split at hvalue
  · rename_i hblanked
    rw [if_pos hblanked]
    exact answer_of_silent (hvalue ▸ .null) naming start
  · rename_i hkept
    rw [if_neg hkept]
    exact answer_congr h.slot h.scope hvalue naming start

end Leaf

open Leaf

theorem leavesAt_blank_leaf {v : Value} (h : v.isLeaf = true) (chosen : List Nat → Bool) (slot : Slot) :
    List.Forall₂ (Blanked chosen) (leavesAt slot v)
      (leavesAt slot (v.blank fun address => chosen (slot.position :: address))) := by
  rw [leavesAt_leaf h, leavesAt_leaf (Value.isLeaf_blank h _), Value.blank_leaf h]
  exact .cons ⟨rfl, rfl, rfl, fun _ => rfl⟩ .nil

mutual

theorem leavesAt_blank (chosen : List Nat → Bool) (slot : Slot) : ∀ v : Value,
    List.Forall₂ (Blanked chosen) (leavesAt slot v)
      (leavesAt slot (v.blank fun address => chosen (slot.position :: address)))
  | .document fields => by
    rw [Value.blank, leavesAt, leavesAt, List.forall₂_map_left_iff, List.forall₂_map_right_iff]
    exact (leavesOfFields_blank _ 0 fields).imp fun _ _ h =>
      h.under rfl fun s => Extraction.enter_document _ s slot fields
  | .array items => by
    rw [Value.blank, leavesAt, leavesAt, List.forall₂_map_left_iff, List.forall₂_map_right_iff]
    exact (leavesOfItems_blank _ 0 items).imp fun _ _ h =>
      h.under rfl fun s => Extraction.enter_array s slot _ items
  | .null | .boolean _ | .string _ | .int32 _ | .int64 _ | .double _ | .dateTime _
  | .timestamp .. | .objectId _ | .decimal128 _ | .binary .. | .regex .. | .javaScript _
  | .scopedJavaScript .. | .symbol _ | .undefined | .minKey | .maxKey | .dbPointer .. =>
    leavesAt_blank_leaf rfl chosen slot

theorem leavesOfFields_blank (chosen : List Nat → Bool) (n : Nat) : ∀ fields : List (String × Value),
    List.Forall₂ (Blanked chosen) (leavesOfFields n fields)
      (leavesOfFields n (blankFields chosen n fields))
  | [] => .nil
  | (key, v) :: rest => by
    rw [blankFields, leavesOfFields, leavesOfFields]
    exact List.rel_append (leavesAt_blank chosen (.field n key) v)
      (leavesOfFields_blank chosen (n + 1) rest)

theorem leavesOfItems_blank (chosen : List Nat → Bool) (n : Nat) : ∀ items : List Value,
    List.Forall₂ (Blanked chosen) (leavesOfItems n items)
      (leavesOfItems n (blankItems chosen n items))
  | [] => .nil
  | v :: rest => by
    rw [blankItems, leavesOfItems, leavesOfItems]
    exact List.rel_append (leavesAt_blank chosen (.item n) v)
      (leavesOfItems_blank chosen (n + 1) rest)

end

/-- Blanking keeps the leaves in their places, one for one. -/
theorem leaves_blank (chosen : List Nat → Bool) (d : Document) :
    List.Forall₂ (Blanked chosen) (leaves d) (leaves (d.blank chosen)) :=
  leavesOfFields_blank chosen 0 d

/-! ## Containment -/

/-- What the leaf is refused for, if it is. -/
def Leaf.refusal? (naming : Extraction.Naming) (start : Extraction.Scope) (l : Leaf) : Option Fault :=
  (l.answer naming start).bind Extraction.Finding.refusal?

namespace Extraction

theorem refusals_eq (naming : Naming) (path : String) (labels : Labels) (d : Document) :
    (extract naming path labels d).refusals = (leaves d).filterMap (Leaf.refusal? naming ⟨path, labels⟩) := by
  show (findings naming path labels d).filterMap Finding.refusal? = _
  rw [findings_eq_filterMap_answer, List.filterMap_filterMap]
  rfl

/-- In a document with blanked leaves the walk finds what the other leaves give. -/
theorem findings_blank (chosen : List Nat → Bool) (naming : Naming) (path : String) (labels : Labels)
    (d : Document) : findings naming path labels (d.blank chosen) =
      ((leaves d).filter fun l => !l.isBlanked chosen).filterMap (Leaf.answer naming ⟨path, labels⟩) := by
  rw [findings_eq_filterMap_answer, List.filterMap_filter]
  have hsame : ∀ x : Option Finding, Option.Rel (· = ·) x x
    | none => .none
    | some _ => .some rfl
  have hfound : List.Forall₂ (· = ·)
      ((leaves (d.blank chosen)).filterMap (Leaf.answer naming ⟨path, labels⟩))
      ((leaves d).filterMap fun l =>
        if !l.isBlanked chosen then l.answer naming ⟨path, labels⟩ else none) := by
    refine List.rel_filterMap (fun m l h => ?_) (leaves_blank chosen d).flip
    rw [h.answer]
    cases l.isBlanked chosen <;> exact hsame _
  rwa [List.forall₂_eq_eq_eq] at hfound

theorem isUnsupported_iff {v : Value} : v.isUnsupported = true ↔ ∃ what, Unsupported v what := by
  constructor
  · intro h
    cases v <;> first | exact ⟨_, by constructor⟩ | cases h
  · rintro ⟨what, h⟩
    cases h <;> rfl

/-- A refused leaf gives no sample, so none is lost with the blanked leaves. -/
theorem samples_blank (chosen : List Nat → Bool) (naming : Naming) (path : String) (labels : Labels)
    (d : Document) :
    (extract naming path labels (d.blank chosen)).samples = (extract naming path labels d).samples := by
  show Sample.latest ((findings naming path labels (d.blank chosen)).filterMap Finding.sample?) =
    Sample.latest ((findings naming path labels d).filterMap Finding.sample?)
  rw [findings_blank, findings_eq_filterMap_answer, List.filterMap_filterMap, List.filterMap_filterMap,
    List.filterMap_filter]
  refine congrArg Sample.latest (List.filterMap_congr fun l _ => ?_)
  cases hblanked : l.isBlanked chosen with
  | false => rfl
  | true =>
    obtain ⟨what, hwhat⟩ := isUnsupported_iff.1 (Bool.and_eq_true_iff.1 hblanked).2
    rw [answer_of_unsupported hwhat]
    rfl

/-- Leaves of unsupported kinds are contained. Whatever set of them is replaced by nulls, at any depth and
under any keys, all leaves stay in their places and are reached with the same paths and labels, and no other
value changes; then the samples are the same as before. The refusals are those of the leaves in document
order, before and after, only that the replaced leaves, each of which was refused for its kind, are not
among them any more. -/
theorem unsupported_leaves_are_contained (naming : Naming) (path : String) (labels : Labels) (d : Document)
    (chosen : List Nat → Bool) :
    let start : Scope := ⟨path, labels⟩
    let before := extract naming path labels d
    let after := extract naming path labels (d.blank chosen)
    List.Forall₂ (Leaf.Blanked chosen) (leaves d) (leaves (d.blank chosen)) ∧
    after.samples = before.samples ∧
    before.refusals = (leaves d).filterMap (Leaf.refusal? naming start) ∧
    after.refusals =
      ((leaves d).filter fun l => !l.isBlanked chosen).filterMap (Leaf.refusal? naming start) ∧
    ∀ l ∈ leaves d, l.isBlanked chosen = true → ∃ what, Unsupported l.value what ∧
      l.refusal? naming start = some
        (.malformedField (l.subject start) ("don't know how to handle " ++ what ++ " values")) := by
  intro start before after
  refine ⟨leaves_blank chosen d, samples_blank chosen naming path labels d,
    refusals_eq naming path labels d, ?_, fun l _ hblanked => ?_⟩
  · show (findings naming path labels (d.blank chosen)).filterMap Finding.refusal? = _
    rw [findings_blank, List.filterMap_filterMap]
    rfl
  · obtain ⟨what, hwhat⟩ := isUnsupported_iff.1 (Bool.and_eq_true_iff.1 hblanked).2
    refine ⟨what, hwhat, ?_⟩
    unfold Leaf.refusal?
    rw [answer_of_unsupported hwhat]
    rfl

/-- An element whose name is of an unsupported kind is told apart by its position in both cases. -/
example :
    let d : Document := [("members", .array [.document [("name", .minKey), ("up", .int32 1)]])]
    let after := extract .full "rs" {} (d.blank fun _ => true)
    after.samples.map (·.labels.toList) = [[("index", "0")]] ∧
      (extract .full "rs" {} d).refusals.length = 1 ∧ after.refusals = [] := by decide +kernel

end Extraction

end MongoMetrics
