/-
The leaves of a document: the values that are no containers, each with the way that leads to it.
`leaves` lists them by recursion over the document; what it lists is said without the recursion:
`mem_leaves` (every leaf that the fields and items of the document lead to, and nothing else) and
`leaves_ascending` (in the order of their addresses, so that each is listed once).
-/
import MongoMetrics.Document.Value
import Mathlib.Data.List.Basic
import Mathlib.Order.Basic

namespace MongoMetrics

/-! ## Ways into a document -/

/-- A place in a container: a field of a document or an item of an array, by its position. -/
inductive Slot where
  | field (position : Nat) (key : String)
  | item (position : Nat)
  deriving DecidableEq, Repr

def Slot.position : Slot → Nat
  | field i _ => i
  | item i => i

/-- A container on the way to a leaf, with the slot it stands in. -/
structure Stop where
  slot : Slot
  container : Value

/-- A value at the end of a way: the containers passed, from the outermost one, and the slot in the
last of them. -/
structure Leaf where
  trail : List Stop
  slot : Slot
  value : Value

def Value.isLeaf : Value → Bool
  | .document _ | .array _ => false
  | _ => true

/-- What a slot of a container holds. -/
inductive Value.Holds : Value → Slot → Value → Prop
  | field {fields : Document} {i : Nat} {key : String} {v : Value} :
      fields[i]? = some (key, v) → Holds (.document fields) (.field i key) v
  | item {items : List Value} {i : Nat} {v : Value} :
      items[i]? = some v → Holds (.array items) (.item i) v

/-- A way from `v` to `w`: each container holds the next one, and the last one holds `w`. -/
def Value.Leads (v : Value) : List Stop → Slot → Value → Prop
  | [], slot, w => v.Holds slot w
  | stop :: trail, slot, w => v.Holds stop.slot stop.container ∧ stop.container.Leads trail slot w

namespace Leaf

/-- The leaf is one of the document. -/
def In (l : Leaf) (d : Document) : Prop :=
  l.value.isLeaf = true ∧ (Value.document d).Leads l.trail l.slot l.value

/-- The positions passed, from the outermost one. -/
def address (l : Leaf) : List Nat := l.trail.map (·.slot.position) ++ [l.slot.position]

/-- Document order. -/
def Before (a b : Leaf) : Prop := a.address < b.address

/-- The leaf as seen from outside one more container. -/
def under (stop : Stop) (l : Leaf) : Leaf := { l with trail := stop :: l.trail }

end Leaf

/-! ## Listing -/

mutual

/-- The leaves of the value in a slot: itself, or those below it. -/
def leavesAt (slot : Slot) : Value → List Leaf
  | .document fields => (leavesOfFields 0 fields).map (Leaf.under ⟨slot, .document fields⟩)
  | .array items => (leavesOfItems 0 items).map (Leaf.under ⟨slot, .array items⟩)
  | v => [⟨[], slot, v⟩]

def leavesOfFields (position : Nat) : List (String × Value) → List Leaf
  | [] => []
  | (key, v) :: rest => leavesAt (.field position key) v ++ leavesOfFields (position + 1) rest

def leavesOfItems (position : Nat) : List Value → List Leaf
  | [] => []
  | v :: rest => leavesAt (.item position) v ++ leavesOfItems (position + 1) rest

end

/-- All leaves of a document. -/
def leaves (d : Document) : List Leaf := leavesOfFields 0 d

/-- The leaves below a container. -/
def leavesBelow : Value → List Leaf
  | .document fields => leavesOfFields 0 fields
  | .array items => leavesOfItems 0 items
  | _ => []

theorem leavesAt_leaf {v : Value} (h : v.isLeaf = true) (slot : Slot) :
    leavesAt slot v = [⟨[], slot, v⟩] := by
  cases v <;> simp_all [Value.isLeaf, leavesAt]

theorem leavesAt_container {v : Value} (h : v.isLeaf = false) (slot : Slot) :
    leavesAt slot v = (leavesBelow v).map (Leaf.under ⟨slot, v⟩) := by
  cases v <;> simp_all [Value.isLeaf, leavesAt, leavesBelow]

/-! ## What is listed -/

theorem mem_leavesOfFields {l : Leaf} : ∀ {n : Nat} {fields : List (String × Value)},
    l ∈ leavesOfFields n fields ↔
      ∃ i key v, fields[i]? = some (key, v) ∧ l ∈ leavesAt (.field (n + i) key) v
  | n, [] => by simp [leavesOfFields]
  | n, (key, v) :: rest => by
    rw [leavesOfFields, List.mem_append, mem_leavesOfFields]
    constructor
    · rintro (h | ⟨i, k, w, hi, h⟩)
      · exact ⟨0, key, v, rfl, h⟩
      · refine ⟨i + 1, k, w, by simpa using hi, ?_⟩
        rwa [show n + (i + 1) = n + 1 + i by omega]
    · rintro ⟨i, k, w, hi, h⟩
      cases i with
      | zero =>
        simp only [List.getElem?_cons_zero, Option.some.injEq, Prod.mk.injEq] at hi
        obtain ⟨rfl, rfl⟩ := hi
        exact .inl h
      | succ i =>
        refine .inr ⟨i, k, w, by simpa using hi, ?_⟩
        rwa [show n + 1 + i = n + (i + 1) by omega]

theorem mem_leavesOfItems {l : Leaf} : ∀ {n : Nat} {items : List Value},
    l ∈ leavesOfItems n items ↔ ∃ i v, items[i]? = some v ∧ l ∈ leavesAt (.item (n + i)) v
  | n, [] => by simp [leavesOfItems]
  | n, v :: rest => by
    rw [leavesOfItems, List.mem_append, mem_leavesOfItems]
    constructor
    · rintro (h | ⟨i, w, hi, h⟩)
      · exact ⟨0, v, rfl, h⟩
      · refine ⟨i + 1, w, by simpa using hi, ?_⟩
        rwa [show n + (i + 1) = n + 1 + i by omega]
    · rintro ⟨i, w, hi, h⟩
      cases i with
      | zero =>
        simp only [List.getElem?_cons_zero, Option.some.injEq] at hi
        subst hi
        exact .inl h
      | succ i =>
        refine .inr ⟨i, w, by simpa using hi, ?_⟩
        rwa [show n + 1 + i = n + (i + 1) by omega]

/-- The leaves below a container are those of the values that it holds. -/
theorem mem_leavesBelow {l : Leaf} {v : Value} :
    l ∈ leavesBelow v ↔ ∃ slot w, v.Holds slot w ∧ l ∈ leavesAt slot w := by
  constructor
  · intro h
    cases v with
    | document fields =>
      obtain ⟨i, key, w, hi, hl⟩ := mem_leavesOfFields.1 h
      rw [Nat.zero_add] at hl
      exact ⟨_, w, .field hi, hl⟩
    | array items =>
      obtain ⟨i, w, hi, hl⟩ := mem_leavesOfItems.1 h
      rw [Nat.zero_add] at hl
      exact ⟨_, w, .item hi, hl⟩
    | _ => simp [leavesBelow] at h
  · rintro ⟨slot, w, hw, hl⟩
    cases hw with
    | @field fields i key _ hi =>
      exact mem_leavesOfFields.2 ⟨i, key, w, hi, by rwa [Nat.zero_add]⟩
    | @item items i _ hi => exact mem_leavesOfItems.2 ⟨i, w, hi, by rwa [Nat.zero_add]⟩

theorem mem_leavesAt {l : Leaf} {slot : Slot} {v : Value} :
    l ∈ leavesAt slot v ↔ (v.isLeaf = true ∧ l = ⟨[], slot, v⟩) ∨
      (v.isLeaf = false ∧ ∃ m ∈ leavesBelow v, l = m.under ⟨slot, v⟩) := by
  cases h : v.isLeaf with
  | true => simp [leavesAt_leaf h]
  | false =>
    rw [leavesAt_container h, List.mem_map]
    simp [eq_comm]

theorem isLeaf_of_holds {v w : Value} {slot : Slot} (h : v.Holds slot w) : v.isLeaf = false := by
  cases h <;> rfl

/-- The leaves below a container are the ends of the ways that begin in it. The induction follows
the way. -/
theorem mem_leavesBelow_iff_leads (slot : Slot) (w : Value) : ∀ (trail : List Stop) (v : Value),
    (⟨trail, slot, w⟩ : Leaf) ∈ leavesBelow v ↔ w.isLeaf = true ∧ v.Leads trail slot w
  | [], v => by
    rw [mem_leavesBelow]
    constructor
    · rintro ⟨s, u, hu, hl⟩
      rcases mem_leavesAt.1 hl with ⟨hleaf, he⟩ | ⟨-, m, -, he⟩
      · cases he
        exact ⟨hleaf, hu⟩
      · cases he
    · rintro ⟨hleaf, hu⟩
      exact ⟨slot, w, hu, mem_leavesAt.2 (.inl ⟨hleaf, rfl⟩)⟩
  | stop :: trail, v => by
    rw [mem_leavesBelow]
    constructor
    · rintro ⟨s, u, hu, hl⟩
      rcases mem_leavesAt.1 hl with ⟨-, he⟩ | ⟨-, m, hm, he⟩
      · cases he
      · cases he
        have := (mem_leavesBelow_iff_leads m.slot m.value m.trail u).1 hm
        exact ⟨this.1, hu, this.2⟩
    · rintro ⟨hleaf, hu, hl⟩
      have hm := (mem_leavesBelow_iff_leads slot w trail stop.container).2 ⟨hleaf, hl⟩
      obtain ⟨s, x, hx, -⟩ := mem_leavesBelow.1 hm
      exact ⟨stop.slot, stop.container, hu,
        mem_leavesAt.2 (.inr ⟨isLeaf_of_holds hx, _, hm, rfl⟩)⟩

/-- Exactly the leaves of the document are listed. -/
theorem mem_leaves {l : Leaf} {d : Document} : l ∈ leaves d ↔ l.In d :=
  mem_leavesBelow_iff_leads l.slot l.value l.trail (.document d)

/-! ## The order of listing -/

theorem address_under (stop : Stop) (l : Leaf) :
    (l.under stop).address = stop.slot.position :: l.address := rfl

theorem head_address_of_mem_leavesAt {l : Leaf} {slot : Slot} {v : Value} (h : l ∈ leavesAt slot v) :
    ∃ rest, l.address = slot.position :: rest := by
  rcases mem_leavesAt.1 h with ⟨-, rfl⟩ | ⟨-, m, -, rfl⟩
  · exact ⟨[], rfl⟩
  · exact ⟨m.address, rfl⟩

/-- Leaves in different slots of one container are ordered as the slots. -/
theorem before_of_position_lt {a b : Leaf} {i j : Nat} {u v : List Nat} (ha : a.address = i :: u)
    (hb : b.address = j :: v) (h : i < j) : a.Before b := by
  show a.address < b.address
  rw [ha, hb, List.cons_lt_cons_iff]
  exact .inl h

theorem ascending_map_under (stop : Stop) {l : List Leaf} (h : l.Pairwise Leaf.Before) :
    (l.map (Leaf.under stop)).Pairwise Leaf.Before := by
  refine h.map _ fun a b hab => ?_
  show (a.under stop).address < (b.under stop).address
  rw [address_under, address_under, List.cons_lt_cons_iff]
  exact .inr ⟨rfl, hab⟩

mutual

theorem leavesAt_ascending (slot : Slot) : ∀ v : Value, (leavesAt slot v).Pairwise Leaf.Before
  | .document fields => ascending_map_under _ (leavesOfFields_ascending 0 fields)
  | .array items => ascending_map_under _ (leavesOfItems_ascending 0 items)
  | .null | .boolean _ | .string _ | .int32 _ | .int64 _ | .double _ | .dateTime _
  | .timestamp .. | .objectId _ | .decimal128 _ | .binary .. | .regex .. | .javaScript _
  | .scopedJavaScript .. | .symbol _ | .undefined | .minKey | .maxKey | .dbPointer .. =>
    List.pairwise_singleton ..

theorem leavesOfFields_ascending (n : Nat) :
    ∀ fields : List (String × Value), (leavesOfFields n fields).Pairwise Leaf.Before
  | [] => .nil
  | (key, v) :: rest => by
    rw [leavesOfFields, List.pairwise_append]
    refine ⟨leavesAt_ascending _ v, leavesOfFields_ascending (n + 1) rest, fun a ha b hb => ?_⟩
    obtain ⟨u, hu⟩ := head_address_of_mem_leavesAt ha
    obtain ⟨i, k, w, -, hb⟩ := mem_leavesOfFields.1 hb
    obtain ⟨x, hx⟩ := head_address_of_mem_leavesAt hb
    exact before_of_position_lt hu hx (by simp only [Slot.position]; omega)

theorem leavesOfItems_ascending (n : Nat) :
    ∀ items : List Value, (leavesOfItems n items).Pairwise Leaf.Before
  | [] => .nil
  | v :: rest => by
    rw [leavesOfItems, List.pairwise_append]
    refine ⟨leavesAt_ascending _ v, leavesOfItems_ascending (n + 1) rest, fun a ha b hb => ?_⟩
    obtain ⟨u, hu⟩ := head_address_of_mem_leavesAt ha
    obtain ⟨i, w, -, hb⟩ := mem_leavesOfItems.1 hb
    obtain ⟨x, hx⟩ := head_address_of_mem_leavesAt hb
    exact before_of_position_lt hu hx (by simp only [Slot.position]; omega)

end

/-- The leaves are listed in document order, each once. -/
theorem leaves_ascending (d : Document) : (leaves d).Pairwise Leaf.Before :=
  leavesOfFields_ascending 0 d

end MongoMetrics
