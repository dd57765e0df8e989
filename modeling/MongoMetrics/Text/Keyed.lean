/-
Finite maps with text keys, kept in ascending order of their keys, so that two maps with the same
entries are equal. Main statements: an entry that was put is found again, putting changes no other
entry, and of two maps put together one decides and the other fills in.
-/
namespace MongoMetrics

/-- A finite map from texts; the keys ascend strictly. -/
structure Keyed (β : Type) where
  toList : List (String × β)
  ascending : (toList.map Prod.fst).Pairwise (· < ·)
  deriving DecidableEq

namespace Keyed

variable {β : Type}

/-! ## Entries in order -/

/-- Puts an entry into an ascending list; an entry of the same key is replaced. -/
def put (k : String) (v : β) : List (String × β) → List (String × β)
  | [] => [(k, v)]
  | (k', v') :: rest =>
    if k < k' then (k, v) :: (k', v') :: rest
    else if k = k' then (k, v) :: rest
    else (k', v') :: put k v rest

theorem lt_of_not_lt_of_ne {a b : String} (h : ¬ a < b) (hne : a ≠ b) : b < a :=
  Decidable.byContradiction fun h2 =>
    hne (String.le_antisymm (String.not_lt.1 h2) (String.not_lt.1 h))

theorem mem_keys_put {k x : String} {v : β} {l : List (String × β)} :
    x ∈ (put k v l).map Prod.fst ↔ x = k ∨ x ∈ l.map Prod.fst := by
  induction l with
  | nil => simp [put]
  | cons p rest ih =>
    obtain ⟨k', v'⟩ := p
    simp only [put]
    split
    · simp
    · split
      · rename_i h; simp [h]
      · simp only [List.map_cons, List.mem_cons, ih, or_left_comm]

theorem ascending_put (k : String) (v : β) (l : List (String × β))
    (h : (l.map Prod.fst).Pairwise (· < ·)) : ((put k v l).map Prod.fst).Pairwise (· < ·) := by
  induction l with
  | nil => simp [put]
  | cons p rest ih =>
    obtain ⟨k', v'⟩ := p
    simp only [List.map_cons, List.pairwise_cons] at h
    simp only [put]
    split
    · rename_i hk
      simp only [List.map_cons, List.pairwise_cons]
      refine ⟨fun x hx => ?_, h⟩
      rcases List.mem_cons.1 hx with rfl | hx
      · exact hk
      · exact String.lt_trans hk (h.1 x hx)
    · rename_i hk
      split
      · rename_i he; subst he
        simp only [List.map_cons, List.pairwise_cons]; exact h
      · rename_i hne
        simp only [List.map_cons, List.pairwise_cons]
        refine ⟨fun x hx => ?_, ih h.2⟩
        rcases mem_keys_put.1 hx with rfl | hx
        · exact lt_of_not_lt_of_ne hk hne
        · exact h.1 x hx

/-- An entry behind all others is put at the end. -/
theorem put_of_forall_lt {k : String} (v : β) {l : List (String × β)}
    (h : ∀ x ∈ l.map Prod.fst, x < k) : put k v l = l ++ [(k, v)] := by
  induction l with
  | nil => rfl
  | cons p rest ih =>
    obtain ⟨k', v'⟩ := p
    rw [List.map_cons, List.forall_mem_cons] at h
    have hne : k ≠ k' := fun he => String.lt_irrefl k (he ▸ h.1)
    have hnl : ¬ k < k' := fun hk => String.lt_irrefl k (String.lt_trans hk h.1)
    rw [put, if_neg hnl, if_neg hne, ih h.2]
    rfl

/-! ## Maps -/

def empty : Keyed β := ⟨[], by simp⟩

instance : EmptyCollection (Keyed β) := ⟨empty⟩

instance : Inhabited (Keyed β) := ⟨empty⟩

/-- The map with `v` under `k` and all other entries as before. -/
def insert (m : Keyed β) (k : String) (v : β) : Keyed β :=
  ⟨put k v m.toList, ascending_put k v m.toList m.ascending⟩

def get? (m : Keyed β) (k : String) : Option β := m.toList.lookup k

def contains (m : Keyed β) (k : String) : Bool := (m.get? k).isSome

def keys (m : Keyed β) : List String := m.toList.map Prod.fst

def values (m : Keyed β) : List β := m.toList.map Prod.snd

def isEmpty (m : Keyed β) : Bool := m.toList.isEmpty

/-- The entries put one after the other. -/
def ofList (l : List (String × β)) : Keyed β := l.foldl (fun m (k, v) => m.insert k v) empty

def single (k : String) (v : β) : Keyed β := empty.insert k v

/-- Both maps together; the second decides on common keys. -/
def override (m m' : Keyed β) : Keyed β := m'.toList.foldl (fun m (k, v) => m.insert k v) m

/-- Both maps together; the first decides on common keys. -/
def fill (m m' : Keyed β) : Keyed β :=
  m'.toList.foldl (fun m (k, v) => if m.contains k then m else m.insert k v) m

/-! ## Laws -/

@[ext] theorem ext {m m' : Keyed β} (h : m.toList = m'.toList) : m = m' := by
  cases m; cases m'; simp_all

theorem lookup_entry (k x : String) (v : β) (l : List (String × β)) :
    ((k, v) :: l).lookup x = if x = k then some v else l.lookup x := by
  by_cases h : x = k
  · simp [h]
  · have hf : (x == k) = false := by simpa using h
    rw [List.lookup_cons, hf, if_neg h]

theorem lookup_put (k x : String) (v : β) (l : List (String × β)) :
    (put k v l).lookup x = if x = k then some v else l.lookup x := by
  induction l with
  | nil => exact lookup_entry k x v []
  | cons p rest ih =>
    obtain ⟨k', v'⟩ := p
    simp only [put]
    split
    · exact lookup_entry k x v _
    · split
      · rename_i h; subst h
        simp only [lookup_entry]
        split <;> rfl
      · rename_i hne
        simp only [lookup_entry, ih]
        split
        · rename_i h; subst h; rw [if_neg (Ne.symm hne)]
        · rfl

theorem get?_insert (m : Keyed β) (k x : String) (v : β) :
    (m.insert k v).get? x = if x = k then some v else m.get? x :=
  lookup_put k x v m.toList

@[simp] theorem get?_insert_self (m : Keyed β) (k : String) (v : β) :
    (m.insert k v).get? k = some v := by simp [get?_insert]

@[simp] theorem get?_empty (x : String) : (empty : Keyed β).get? x = none := rfl

theorem lookup_eq_none {k : String} {l : List (String × β)} (h : k ∉ l.map Prod.fst) :
    l.lookup k = none := by
  induction l with
  | nil => rfl
  | cons p rest ih =>
    obtain ⟨k', v'⟩ := p
    simp only [List.map_cons, List.mem_cons, not_or] at h
    rw [lookup_entry, if_neg h.1, ih h.2]

theorem get?_foldl_insert (l : List (String × β)) (h : (l.map Prod.fst).Pairwise (· < ·))
    (m : Keyed β) (x : String) :
    (l.foldl (fun m (k, v) => m.insert k v) m).get? x = (l.lookup x).or (m.get? x) := by
  induction l generalizing m with
  | nil => rfl
  | cons p rest ih =>
    obtain ⟨k, v⟩ := p
    simp only [List.map_cons, List.pairwise_cons] at h
    rw [List.foldl_cons, ih h.2, get?_insert, lookup_entry]
    by_cases hx : x = k
    · subst hx
      have hk : x ∉ rest.map Prod.fst := fun hm => String.lt_irrefl x (h.1 x hm)
      simp [lookup_eq_none hk]
    · simp [hx]

/-- The second map decides, and the first one fills in. -/
theorem get?_override (m m' : Keyed β) (x : String) :
    (m.override m').get? x = (m'.get? x).or (m.get? x) :=
  get?_foldl_insert m'.toList m'.ascending m x

theorem get?_foldl_fill (l : List (String × β)) (m : Keyed β) (x : String) :
    (l.foldl (fun m (k, v) => if m.contains k then m else m.insert k v) m).get? x =
      (m.get? x).or (l.lookup x) := by
  induction l generalizing m with
  | nil => simp
  | cons p rest ih =>
    obtain ⟨k, v⟩ := p
    rw [List.foldl_cons, ih, lookup_entry]
    by_cases hx : x = k
    · subst hx
      by_cases hc : (m.get? x).isSome
      · obtain ⟨w, hw⟩ := Option.isSome_iff_exists.1 hc
        simp [contains, hw]
      · simp only [Option.not_isSome_iff_eq_none] at hc
        simp [contains, hc]
    · by_cases hc : m.contains k <;> simp [hc, get?_insert, hx]

/-- The first map decides, and the second one fills in. -/
theorem get?_fill (m m' : Keyed β) (x : String) :
    (m.fill m').get? x = (m.get? x).or (m'.get? x) :=
  get?_foldl_fill m'.toList m x

theorem toList_foldl_insert (l : List (String × β)) (m : Keyed β)
    (h : ((m.toList ++ l).map Prod.fst).Pairwise (· < ·)) :
    (l.foldl (fun m (k, v) => m.insert k v) m).toList = m.toList ++ l := by
  induction l generalizing m with
  | nil => simp
  | cons p rest ih =>
    obtain ⟨k, v⟩ := p
    have hlast : (m.insert k v).toList = m.toList ++ [(k, v)] := by
      rw [List.map_append, List.pairwise_append] at h
      exact put_of_forall_lt v fun x hx => h.2.2 x hx k (by simp)
    rw [List.foldl_cons, ih (m.insert k v) (by rw [hlast]; simpa using h), hlast, List.append_assoc]
    rfl

/-- A map is made of its own entries. -/
theorem ofList_toList (m : Keyed β) : ofList m.toList = m :=
  ext (toList_foldl_insert m.toList empty m.ascending)

end Keyed

end MongoMetrics
