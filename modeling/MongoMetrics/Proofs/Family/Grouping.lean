/-
Families from samples, without the map that they are collected in. Within each name, the samples of
another kind than the first one are left out (`agreeing`); the others are put together under their
names, which ascend (`byName`). `group_eq` says that grouping is this. The families ascend strictly by
name, none is empty, and each holds samples of its own name and kind only; if the samples have
distinct series, so have those of all families together.
-/
import MongoMetrics.Family
import MongoMetrics.Proofs.Sample.Latest
import Mathlib.Data.List.Sort
import Mathlib.Data.String.Basic

namespace MongoMetrics

/-! ## Maps by their entries -/

namespace Keyed

variable {β : Type}

theorem lookup_of_mem {l : List (String × β)} (h : (l.map Prod.fst).Pairwise (· < ·)) {k : String}
    {v : β} (hm : (k, v) ∈ l) : l.lookup k = some v := by
  induction l with
  | nil => cases hm
  | cons p rest ih =>
    obtain ⟨k', v'⟩ := p
    rw [List.map_cons, List.pairwise_cons] at h
    rw [lookup_entry]
    rcases List.mem_cons.1 hm with he | hm
    · cases he
      rw [if_pos rfl]
    · have hlt : k' < k := h.1 k (List.mem_map.2 ⟨_, hm, rfl⟩)
      rw [if_neg (ne_of_gt hlt), ih h.2 hm]

theorem mem_of_get? {m : Keyed β} {k : String} {v : β} (h : m.get? k = some v) :
    (k, v) ∈ m.toList := by
  obtain ⟨before, after, hl, -⟩ := List.lookup_eq_some_iff.1 h
  rw [hl]
  exact List.mem_append_right _ (List.mem_cons_self ..)

theorem mem_toList {m : Keyed β} {k : String} {v : β} : (k, v) ∈ m.toList ↔ m.get? k = some v :=
  ⟨lookup_of_mem m.ascending, mem_of_get?⟩

/-- Maps that give the same under every key are equal. -/
theorem ext_get? {m m' : Keyed β} (h : ∀ k, m.get? k = m'.get? k) : m = m' := by
  have hasc : ∀ n : Keyed β, n.toList.Pairwise fun a b => a.1 < b.1 := fun n =>
    List.pairwise_map.1 n.ascending
  refine ext (List.Perm.eq_of_pairwise (fun a b _ _ hab hba => ?_) (hasc m) (hasc m') ?_)
  · exact absurd hab (lt_asymm hba)
  · have hnodup : ∀ n : Keyed β, n.toList.Nodup := fun n => (hasc n).imp fun hlt he =>
      ne_of_lt hlt (congrArg Prod.fst he)
    exact (List.perm_ext_iff_of_nodup (hnodup m) (hnodup m')).2 fun p => by
      rw [mem_toList, mem_toList, h]

/-- Filling an empty map copies. -/
theorem empty_fill (m : Keyed β) : ({} : Keyed β).fill m = m := by
  refine ext_get? fun k => ?_
  rw [get?_fill]
  exact Option.none_or

theorem mem_keys_insert {m : Keyed β} {k x : String} {v : β} :
    x ∈ (m.insert k v).keys ↔ x = k ∨ x ∈ m.keys :=
  mem_keys_put

theorem mem_keys_iff {m : Keyed β} {k : String} : k ∈ m.keys ↔ (m.get? k).isSome = true := by
  constructor
  · intro h
    obtain ⟨⟨_, v⟩, hm, rfl⟩ := List.mem_map.1 h
    rw [get?, lookup_of_mem m.ascending hm]
    rfl
  · intro h
    by_contra hk
    rw [get?, lookup_eq_none hk] at h
    cases h

/-- The values are found under the keys. -/
theorem values_eq_filterMap (m : Keyed β) : m.values = m.keys.filterMap m.get? := by
  unfold values keys
  rw [List.filterMap_map]
  calc m.toList.map Prod.snd = m.toList.filterMap (some ∘ Prod.snd) := by
        rw [List.filterMap_eq_map]
    _ = m.toList.filterMap (m.get? ∘ Prod.fst) :=
      List.filterMap_congr fun p hp => (lookup_of_mem m.ascending hp).symm

end Keyed

namespace Family

/-! ## The rule without the map -/

/-- The samples of a name. -/
def named (l : List Sample) (n : String) : List Sample := l.filter (·.name = n)

/-- The samples whose kind is the one of the first sample of their name. -/
def agreeing (l : List Sample) : List Sample :=
  l.filter fun s => (l.find? (·.name = s.name)).map Sample.kind = some s.kind

/-- The distinct names in ascending order. -/
def sortedNames (l : List Sample) : List String :=
  (l.map (·.name)).eraseDups.mergeSort (fun a b => a ≤ b)

/-- The family of samples that have one name; the first one tells name, help and kind. -/
def founded? : List Sample → Option Family
  | [] => none
  | s :: rest => some ⟨s.name, s.help, s.kind, s :: rest⟩

/-- One family for each name. -/
def byName (l : List Sample) : List Family := (sortedNames l).filterMap fun n => founded? (named l n)

/-- The samples whose kind is the one of the first sample. -/
def ofFirstKind : List Sample → List Sample
  | [] => []
  | s :: rest => s :: rest.filter (·.kind = s.kind)

theorem name_of_mem_named {l : List Sample} {n : String} {s : Sample} (h : s ∈ named l n) :
    s.name = n := by
  simpa using (List.mem_filter.1 h).2

theorem named_append_singleton (l : List Sample) (s : Sample) (n : String) :
    named (l ++ [s]) n = if s.name = n then named l n ++ [s] else named l n := by
  unfold named
  rw [List.filter_append]
  by_cases h : s.name = n
  · simp [h]
  · simp [h]

/-- Within one name, agreeing with the first sample of the name is agreeing with the first sample. -/
theorem named_agreeing (l : List Sample) (n : String) :
    named (agreeing l) n = ofFirstKind (named l n) := by
  have h : named (agreeing l) n =
      (named l n).filter fun s => (named l n).head?.map Sample.kind = some s.kind := by
    unfold named agreeing
    rw [List.filter_filter, List.filter_filter]
    refine List.filter_congr fun s _ => ?_
    by_cases hn : s.name = n
    · subst hn
      simp
    · simp [hn]
  rw [h]
  cases named l n with
  | nil => rfl
  | cons s rest => simp [ofFirstKind, eq_comm]

/-! ## The map -/

theorem get?_assign (families : Keyed Family) (s : Sample) (n : String) :
    (assign families s).get? n =
      if n = s.name then
        some (match families.get? s.name with
          | some f => f.add s
          | none => of s)
      else families.get? n := by
  unfold assign
  cases families.get? s.name <;> exact Keyed.get?_insert ..

/-- The family that the map has under a name after all samples. -/
theorem get?_foldl_assign (l : List Sample) (n : String) :
    (l.foldl assign {}).get? n = founded? (ofFirstKind (named l n)) := by
  induction l using List.reverseRecOn generalizing n with
  | nil => rfl
  | append_singleton l s ih =>
    rw [List.foldl_append, List.foldl_cons, List.foldl_nil, get?_assign, named_append_singleton]
    by_cases h : s.name = n
    · -- the new sample is the first of its name, or is held against the kind of the first one
      subst h
      rw [if_pos rfl, if_pos rfl, ih]
      cases hl : named l s.name with
      | nil => rfl
      | cons t rest =>
        simp only [ofFirstKind, founded?, List.cons_append, List.filter_append, add]
        by_cases hk : t.kind = s.kind
        · simp [hk]
        · simp [hk, Ne.symm hk]
    · rw [if_neg (Ne.symm h), if_neg h, ih]

/-! ## Names in order -/

theorem mem_sortedNames {l : List Sample} {n : String} :
    n ∈ sortedNames l ↔ ∃ s ∈ l, s.name = n := by
  unfold sortedNames
  rw [List.mem_mergeSort, List.mem_eraseDups, List.mem_map]

theorem sortedNames_ascending (l : List Sample) : (sortedNames l).Pairwise (· < ·) := by
  have hle : (sortedNames l).Pairwise (· ≤ ·) := List.pairwise_mergeSort' (· ≤ ·) _
  have hne : (sortedNames l).Nodup := List.nodup_mergeSort.2 (Sample.nodup_eraseDups _)
  exact (hle.and hne).imp fun h => lt_of_le_of_ne h.1 h.2

theorem named_ne_nil_iff {l : List Sample} {n : String} : named l n ≠ [] ↔ ∃ s ∈ l, s.name = n := by
  simp [named]

/-- Names that ascend and are the names of some samples are the sorted names of them. -/
theorem eq_sortedNames {names : List String} {l : List Sample} (h : names.Pairwise (· < ·))
    (hm : ∀ n, n ∈ names ↔ named l n ≠ []) : names = sortedNames l :=
  h.eq_of_mem_iff (sortedNames_ascending l) fun n => by
    rw [hm, named_ne_nil_iff, mem_sortedNames]

/-! ## Grouping -/

theorem founded?_isSome {l : List Sample} : (founded? l).isSome = true ↔ l ≠ [] := by
  cases l <;> simp [founded?]

/-- Grouping leaves out the samples that disagree and puts the others together by name. -/
theorem group_eq (l : List Sample) : group l = byName (agreeing l) := by
  have hget : (l.foldl assign {}).get? = fun n => founded? (named (agreeing l) n) := by
    funext n
    rw [get?_foldl_assign, named_agreeing]
  have hkeys : (l.foldl assign {}).keys = sortedNames (agreeing l) :=
    eq_sortedNames (l.foldl assign {}).ascending fun n => by
      rw [Keyed.mem_keys_iff, hget, founded?_isSome]
  unfold group byName
  rw [Keyed.values_eq_filterMap, hkeys, hget]

/-! ## What the families are -/

theorem mem_byName {l : List Sample} {f : Family} (h : f ∈ byName l) :
    ∃ s rest, named l f.name = s :: rest ∧ f = ⟨s.name, s.help, s.kind, s :: rest⟩ := by
  obtain ⟨n, -, hf⟩ := List.mem_filterMap.1 h
  cases hl : named l n with
  | nil => rw [hl] at hf; cases hf
  | cons s rest =>
    rw [hl] at hf
    cases hf
    have hn : s.name = n := name_of_mem_named (hl ▸ List.mem_cons_self ..)
    exact ⟨s, rest, by rw [hn, hl], rfl⟩

theorem samples_of_mem_byName {l : List Sample} {f : Family} (h : f ∈ byName l) :
    f.samples = named l f.name := by
  obtain ⟨s, rest, hl, rfl⟩ := mem_byName h
  exact hl.symm

theorem samples_ne_nil_of_mem_byName {l : List Sample} {f : Family} (h : f ∈ byName l) :
    f.samples ≠ [] := by
  obtain ⟨s, rest, -, rfl⟩ := mem_byName h
  exact List.cons_ne_nil _ _

/-- Putting samples together by name loses none and adds none. -/
theorem mem_samples_byName {l : List Sample} {s : Sample} :
    s ∈ (byName l).flatMap Family.samples ↔ s ∈ l := by
  constructor
  · intro h
    obtain ⟨f, hf, hs⟩ := List.mem_flatMap.1 h
    rw [samples_of_mem_byName hf] at hs
    exact (List.mem_filter.1 hs).1
  · intro h
    have hs : s ∈ named l s.name := List.mem_filter.2 ⟨h, by simp⟩
    obtain ⟨f, hf⟩ := Option.isSome_iff_exists.1 (founded?_isSome.2 (List.ne_nil_of_mem hs))
    have hmem : f ∈ byName l := List.mem_filterMap.2 ⟨s.name, mem_sortedNames.2 ⟨s, h, rfl⟩, hf⟩
    refine List.mem_flatMap.2 ⟨f, hmem, ?_⟩
    have hname : f.name = s.name := by
      cases hl : named l s.name with
      | nil =>
        rw [hl] at hs
        cases hs
      | cons x rest =>
        rw [hl] at hf
        cases hf
        exact name_of_mem_named (hl ▸ List.mem_cons_self ..)
    rwa [samples_of_mem_byName hmem, hname]

theorem map_name_byName (l : List Sample) : (byName l).map Family.name = sortedNames l := by
  unfold byName
  rw [List.map_filterMap]
  calc (sortedNames l).filterMap (fun n => (founded? (named l n)).map Family.name)
      = (sortedNames l).filterMap some := List.filterMap_congr fun n hn => by
        cases hl : named l n with
        | nil => exact absurd hl (named_ne_nil_iff.2 (mem_sortedNames.1 hn))
        | cons s rest =>
          have : s.name = n := name_of_mem_named (hl ▸ List.mem_cons_self ..)
          simp [founded?, this]
    _ = sortedNames l := List.filterMap_some

/-- Family names ascend strictly. -/
theorem group_names_ascending (l : List Sample) : ((group l).map Family.name).Pairwise (· < ·) := by
  rw [group_eq, map_name_byName]
  exact sortedNames_ascending _

/-- No family is empty. -/
theorem group_samples_ne_nil {l : List Sample} {f : Family} (h : f ∈ group l) : f.samples ≠ [] :=
  samples_ne_nil_of_mem_byName (group_eq l ▸ h)

/-- A family holds samples of its own name and kind. -/
theorem group_samples_agree {l : List Sample} {f : Family} (h : f ∈ group l) :
    ∀ s ∈ f.samples, s.name = f.name ∧ s.kind = f.kind := by
  intro s hs
  rw [group_eq] at h
  obtain ⟨t, rest, hl, hf⟩ := mem_byName h
  have hs' : s ∈ named (agreeing l) f.name := samples_of_mem_byName h ▸ hs
  refine ⟨name_of_mem_named hs', ?_⟩
  rw [named_agreeing] at hs' hl
  cases hn : named l f.name with
  | nil => rw [hn] at hl; cases hl
  | cons a as =>
    rw [hn] at hs' hl
    simp only [ofFirstKind, List.cons.injEq] at hl
    have hk : f.kind = a.kind := by rw [hf, hl.1]
    rcases List.mem_cons.1 hs' with rfl | hs'
    · exact hk.symm
    · rw [hk]
      simpa using (List.mem_filter.1 hs').2

/-- The samples of all families are among those that were grouped, and if these have distinct series
then so have those. -/
theorem nodup_series_group {l : List Sample} (h : (l.map Sample.series).Nodup) :
    (((group l).flatMap Family.samples).map Sample.series).Nodup := by
  rw [group_eq, List.map_flatMap, List.nodup_flatMap]
  have hl : ((agreeing l).map Sample.series).Nodup := h.sublist ((List.filter_sublist).map _)
  refine ⟨fun f hf => ?_, ?_⟩
  · rw [samples_of_mem_byName hf]
    exact hl.sublist ((List.filter_sublist).map _)
  · have hne : (byName (agreeing l)).Pairwise fun f g => f.name < g.name :=
      List.pairwise_map.1 (map_name_byName (agreeing l) ▸ sortedNames_ascending _)
    refine List.Pairwise.imp_of_mem ?_ hne
    -- series of different families differ in their names
    intro f g hf hg hlt k hkf hkg
    obtain ⟨s, hs, rfl⟩ := List.mem_map.1 hkf
    obtain ⟨t, ht, hst⟩ := List.mem_map.1 hkg
    rw [samples_of_mem_byName hf] at hs
    rw [samples_of_mem_byName hg] at ht
    have hn : t.name = s.name := congrArg Series.name hst
    rw [name_of_mem_named hs, name_of_mem_named ht] at hn
    exact absurd hn (ne_of_gt hlt)

end Family

end MongoMetrics
