/-
Label names that are not in use. A base stands for a row of names, its ordinals: the base itself and
the base with the numbers from 2 on. The name that is chosen is the first ordinal that no label has
(`freshLabel_eq`), so a value put under it replaces nothing. Main statement (`get?_ordinal_foldl_mark`):
where the labels had no ordinal of a base, the values put for the base are read back in the order in
which they were put.
-/
import MongoMetrics.Extraction.Walk
import MongoMetrics.Proofs.Family.Grouping

namespace MongoMetrics

/-! ## Maps within maps -/

namespace Keyed

variable {β : Type} {m m' m'' : Keyed β} {k x : String} {v : β}

/-- Every entry of the first map is one of the second. -/
def Within (m m' : Keyed β) : Prop := ∀ k v, m.get? k = some v → m'.get? k = some v

theorem Within.refl (m : Keyed β) : m.Within m := fun _ _ h => h

theorem Within.trans (h : m.Within m') (h' : m'.Within m'') : m.Within m'' :=
  fun k v hk => h' k v (h k v hk)

theorem contains_eq_false : m.contains k = false ↔ m.get? k = none := by
  rw [contains, Option.isSome_eq_false_iff, Option.isNone_iff_eq_none]

theorem contains_iff_mem_keys : m.contains k = true ↔ k ∈ m.keys := mem_keys_iff.symm

theorem get?_insert_of_ne (h : x ≠ k) : (m.insert k v).get? x = m.get? x := by
  rw [get?_insert, if_neg h]

/-- An entry under a new key leaves all others. -/
theorem within_insert (h : m.get? k = none) (v : β) : m.Within (m.insert k v) := by
  intro x w hx
  have hne : x ≠ k := fun he => by rw [he, h] at hx; cases hx
  rw [get?_insert_of_ne hne, hx]

end Keyed

namespace Extraction

/-! ## Ordinals of a base -/

/-- The names of a base, in the order in which they are tried. -/
def ordinal (base : String) : Nat → String
  | 0 => base
  | n + 1 => base ++ Number.natText (n + 2)

example : (List.range 3).map (ordinal positionLabel) = ["index", "index2", "index3"] := by decide

/-- The base ends in no digit, so that a number behind it can be told from it. -/
def Unnumbered (base : String) : Prop :=
  base.toList.reverse.dropWhile Char.isDigit = base.toList.reverse

instance (base : String) : Decidable (Unnumbered base) := inferInstanceAs (Decidable (_ = _))

theorem dropWhile_isDigit_ordinal {base : String} (h : Unnumbered base) (n : Nat) :
    (ordinal base n).toList.reverse.dropWhile Char.isDigit = base.toList.reverse := by
  cases n with
  | zero => exact h
  | succ n =>
    rw [ordinal, String.toList_append, List.reverse_append, List.dropWhile_append_of_pos]
    · exact h
    · exact fun c hc => Number.isDigit_of_mem_natText (List.mem_reverse.1 hc)

theorem ordinal_injective (base : String) : Function.Injective (ordinal base) := by
  have hself : ∀ n, base ≠ base ++ Number.natText n := fun n he => by
    have hnil : (Number.natText n).toList = [] := by
      simpa [String.toList_append] using congrArg String.toList he
    exact Number.natText_ne_empty n hnil
  intro i j h
  cases i with
  | zero =>
    cases j with
    | zero => rfl
    | succ j => exact absurd h (hself _)
  | succ i =>
    cases j with
    | zero => exact absurd h.symm (hself _)
    | succ j =>
      have hnumber : i + 2 = j + 2 := Number.natText_injective (String.append_right_inj base |>.1 h)
      omega

/-- Names of different bases differ. -/
theorem ordinal_ne_ordinal {a b : String} (ha : Unnumbered a) (hb : Unnumbered b) (hne : a ≠ b)
    (i j : Nat) : ordinal a i ≠ ordinal b j := by
  intro h
  have hreverse : a.toList.reverse = b.toList.reverse := by
    rw [← dropWhile_isDigit_ordinal ha i, h, dropWhile_isDigit_ordinal hb j]
  exact hne (String.toList_inj.1 (List.reverse_injective hreverse))

/-! ## The choice -/

/-- The search finds the least number whose name is free, if it lies within the tries. -/
theorem numberedLabel_eq {labels : Labels} {base : String} {k : Nat} : ∀ {tries n : Nat}, k < tries →
    labels.contains (base ++ Number.natText (n + k)) = false →
    (∀ j < k, labels.contains (base ++ Number.natText (n + j)) = true) →
    numberedLabel labels base tries n = base ++ Number.natText (n + k) := by
  induction k with
  | zero =>
    intro tries n htries hfree _
    obtain ⟨tries, rfl⟩ : ∃ t, tries = t + 1 := ⟨tries - 1, by omega⟩
    rw [numberedLabel]
    exact if_neg (by simpa using hfree)
  | succ k ih =>
    intro tries n htries hfree hused
    obtain ⟨tries, rfl⟩ : ∃ t, tries = t + 1 := ⟨tries - 1, by omega⟩
    have hshift : ∀ j, n + (j + 1) = n + 1 + j := fun j => by omega
    rw [numberedLabel]
    have hfirst : labels.contains (base ++ Number.natText n) = true := hused 0 (by omega)
    rw [if_pos hfirst, hshift k]
    refine ih (by omega) (hshift k ▸ hfree) fun j hj => ?_
    rw [← hshift j]
    exact hused (j + 1) (by omega)

/-- More names than there are labels cannot all be in use. -/
theorem exists_free_ordinal (labels : Labels) (base : String) :
    ∃ n ≤ labels.toList.length, labels.contains (ordinal base n) = false := by
  by_contra hnone
  have hused : ∀ n ≤ labels.toList.length, labels.contains (ordinal base n) = true := fun n hn => by
    by_contra hfree
    exact hnone ⟨n, hn, by simpa using hfree⟩
  have hnodup : ((List.range (labels.toList.length + 1)).map (ordinal base)).Nodup :=
    List.nodup_range.map (ordinal_injective base)
  have hsubset : (List.range (labels.toList.length + 1)).map (ordinal base) ⊆ labels.keys := by
    intro x hx
    obtain ⟨n, hn, rfl⟩ := List.mem_map.1 hx
    exact Keyed.contains_iff_mem_keys.1 (hused n (Nat.le_of_lt_succ (List.mem_range.1 hn)))
  have hlength := (List.subperm_of_subset hnodup hsubset).length_le
  simp [Keyed.keys] at hlength

/-- The chosen name is the first ordinal of the base that is free. -/
theorem freshLabel_eq {labels : Labels} {base : String} {n : Nat}
    (hfree : labels.contains (ordinal base n) = false)
    (hused : ∀ j < n, labels.contains (ordinal base j) = true) :
    freshLabel labels base = ordinal base n := by
  unfold freshLabel
  cases n with
  | zero => exact if_neg (by simpa [ordinal] using hfree)
  | succ n =>
    have hbase : labels.contains base = true := hused 0 (by omega)
    -- the free ordinal lies within the tries, as the labels cannot hold all names tried
    have hbound : n < labels.toList.length + 1 := by
      obtain ⟨m, hm, hmfree⟩ := exists_free_ordinal labels base
      by_contra hn
      rw [hused m (by omega)] at hmfree
      cases hmfree
    have hcomm : ∀ j, 2 + j = j + 2 := fun j => by omega
    rw [if_pos hbase, ordinal, ← hcomm n]
    refine numberedLabel_eq hbound (hcomm n ▸ hfree) fun j hj => ?_
    rw [hcomm j]
    exact hused (j + 1) (by omega)

theorem exists_freshLabel_eq (labels : Labels) (base : String) :
    ∃ n, freshLabel labels base = ordinal base n ∧ labels.contains (ordinal base n) = false ∧
      ∀ j < n, labels.contains (ordinal base j) = true := by
  obtain ⟨m, -, hm⟩ := exists_free_ordinal labels base
  have hex : ∃ n, labels.contains (ordinal base n) = false := ⟨m, hm⟩
  have hused : ∀ j < Nat.find hex, labels.contains (ordinal base j) = true := fun j hj => by
    simpa using Nat.find_min hex hj
  exact ⟨Nat.find hex, freshLabel_eq (Nat.find_spec hex) hused, Nat.find_spec hex, hused⟩

/-- No label has the chosen name. -/
@[simp] theorem get?_freshLabel (labels : Labels) (base : String) :
    labels.get? (freshLabel labels base) = none := by
  obtain ⟨n, heq, hfree, -⟩ := exists_freshLabel_eq labels base
  rw [heq]
  exact Keyed.contains_eq_false.1 hfree

/-- The choice depends only on which ordinals of the base are in use. -/
theorem freshLabel_congr {labels labels' : Labels} {base : String}
    (h : ∀ j, labels'.get? (ordinal base j) = labels.get? (ordinal base j)) :
    freshLabel labels' base = freshLabel labels base := by
  obtain ⟨n, heq, hfree, hused⟩ := exists_freshLabel_eq labels base
  have hcontains : ∀ j, labels'.contains (ordinal base j) = labels.contains (ordinal base j) :=
    fun j => congrArg Option.isSome (h j)
  rw [heq]
  exact freshLabel_eq (hcontains n ▸ hfree) fun j hj => hcontains j ▸ hused j hj

theorem freshLabel_ne_ordinal {a b : String} (ha : Unnumbered a) (hb : Unnumbered b) (hne : a ≠ b)
    (labels : Labels) (j : Nat) : ordinal b j ≠ freshLabel labels a := by
  obtain ⟨n, heq, -, -⟩ := exists_freshLabel_eq labels a
  rw [heq]
  exact ordinal_ne_ordinal hb ha hne.symm j n

/-! ## Marks -/

/-- The labels with a value put under the first free name of its base. -/
def mark (labels : Labels) (m : String × String) : Labels := labels.insert (freshLabel labels m.1) m.2

theorem within_mark (labels : Labels) (m : String × String) : labels.Within (mark labels m) :=
  Keyed.within_insert (get?_freshLabel labels m.1) m.2

theorem get?_mark_self (labels : Labels) (m : String × String) :
    (mark labels m).get? (freshLabel labels m.1) = some m.2 :=
  Keyed.get?_insert_self ..

theorem get?_mark_ordinal {m : String × String} {base : String} (hm : Unnumbered m.1)
    (hb : Unnumbered base) (hne : m.1 ≠ base) (labels : Labels) (j : Nat) :
    (mark labels m).get? (ordinal base j) = labels.get? (ordinal base j) :=
  Keyed.get?_insert_of_ne (freshLabel_ne_ordinal hm hb hne labels j)

/-- A mark of another base does not change the choice. -/
theorem freshLabel_mark {m : String × String} {base : String} (hm : Unnumbered m.1)
    (hb : Unnumbered base) (hne : m.1 ≠ base) (labels : Labels) :
    freshLabel (mark labels m) base = freshLabel labels base :=
  freshLabel_congr (get?_mark_ordinal hm hb hne labels)

theorem within_foldl_mark (marks : List (String × String)) (labels : Labels) :
    labels.Within (marks.foldl mark labels) := by
  induction marks generalizing labels with
  | nil => exact .refl labels
  | cons m rest ih => exact (within_mark labels m).trans (ih (mark labels m))

/-- A mark is found again under the name that was free when it was put. -/
theorem get?_foldl_mark (before after : List (String × String)) (m : String × String)
    (labels : Labels) :
    ((before ++ m :: after).foldl mark labels).get? (freshLabel (before.foldl mark labels) m.1) =
      some m.2 := by
  rw [List.foldl_append, List.foldl_cons]
  exact within_foldl_mark after _ _ _ (get?_mark_self _ m)

/-- The values put for a base, in the order in which they are put. -/
def valuesOf (base : String) (marks : List (String × String)) : List String :=
  (marks.filter (·.1 = base)).map Prod.snd

theorem valuesOf_append_singleton (base : String) (marks : List (String × String))
    (m : String × String) :
    valuesOf base (marks ++ [m]) =
      if m.1 = base then valuesOf base marks ++ [m.2] else valuesOf base marks := by
  unfold valuesOf
  rw [List.filter_append]
  by_cases h : m.1 = base
  · simp [h]
  · simp [h]

/-- The ordinals of a base read the values put for it, the first one under the base itself. The
induction takes the last mark off: it is put under the ordinal that follows those already read. -/
theorem get?_ordinal_foldl_mark {base : String} (hb : Unnumbered base) {labels : Labels}
    (hnone : ∀ j, labels.get? (ordinal base j) = none) {marks : List (String × String)}
    (hmarks : ∀ m ∈ marks, Unnumbered m.1) (j : Nat) :
    (marks.foldl mark labels).get? (ordinal base j) = (valuesOf base marks)[j]? := by
  induction marks using List.reverseRecOn generalizing j with
  | nil => exact hnone j
  | append_singleton marks m ih =>
    have hread := ih fun x hx => hmarks x (List.mem_append_left _ hx)
    rw [List.foldl_append, List.foldl_cons, List.foldl_nil, valuesOf_append_singleton]
    by_cases hm : m.1 = base
    · have hfresh : freshLabel (marks.foldl mark labels) m.1 =
          ordinal base (valuesOf base marks).length := by
        rw [hm]
        -- one ordinal is in use for each value read so far, and the next one is free
        refine freshLabel_eq (Keyed.contains_eq_false.2 ?_) fun i hi => ?_
        · rw [hread, List.getElem?_length]
        · rw [Keyed.contains, hread, List.getElem?_eq_getElem hi]
          rfl
      rw [if_pos hm, mark, hfresh]
      by_cases hj : j = (valuesOf base marks).length
      · rw [hj, Keyed.get?_insert_self, List.getElem?_concat_length]
      · rw [Keyed.get?_insert_of_ne ((ordinal_injective base).ne hj), hread]
        by_cases hlt : j < (valuesOf base marks).length
        · rw [List.getElem?_append_left hlt]
        · rw [List.getElem?_eq_none (by omega), List.getElem?_eq_none (by simp; omega)]
    · have hnumber : Unnumbered m.1 := hmarks m (List.mem_append_right _ (List.mem_singleton_self m))
      rw [if_neg hm, get?_mark_ordinal hnumber hb hm, hread]

/-- The keys are those that were there and ordinals of the bases of the marks. -/
theorem mem_keys_foldl_mark {marks : List (String × String)} {labels : Labels} {k : String}
    (h : k ∈ (marks.foldl mark labels).keys) :
    k ∈ labels.keys ∨ ∃ m ∈ marks, ∃ j, k = ordinal m.1 j := by
  induction marks generalizing labels with
  | nil => exact .inl h
  | cons m rest ih =>
    rcases ih h with h | ⟨m', hm', j, hj⟩
    · rcases Keyed.mem_keys_insert.1 h with h | h
      · obtain ⟨n, heq, -, -⟩ := exists_freshLabel_eq labels m.1
        exact .inr ⟨m, List.mem_cons_self .., n, h.trans heq⟩
      · exact .inl h
    · exact .inr ⟨m', List.mem_cons_of_mem _ hm', j, hj⟩

end Extraction

end MongoMetrics
