/-
Choosing one sample for each series in several passes. What `latest` gives depends on its list in two
ways only: the series in order of first occurrence, and the last sample of each (`latest_congr`). A pass
over a part of the list changes neither, so choosing again, choosing in the parts first and leaving out
series before or after all come to the same (`latest_append_congr`, `latest_filter`).
-/
import MongoMetrics.Proofs.Sample.Latest

namespace MongoMetrics.Sample

/-! ## Distinct elements -/

section

variable {α : Type} [BEq α] [LawfulBEq α]

theorem eraseDups_of_nodup : ∀ {l : List α}, l.Nodup → l.eraseDups = l
  | [], _ => rfl
  | a :: rest, h => by
    rw [List.nodup_cons] at h
    have hrest : (rest.filter fun b => !b == a) = rest := List.filter_eq_self.2 fun b hb => by
      have hne : b ≠ a := fun he => h.1 (he ▸ hb)
      simpa using hne
    rw [List.eraseDups_cons, hrest, eraseDups_of_nodup h.2]

theorem eraseDups_filter (p : α → Bool) (l : List α) :
    (l.filter p).eraseDups = l.eraseDups.filter p := by
  induction l using List.reverseRecOn with
  | nil => rfl
  | append_singleton l a ih =>
    rw [List.filter_append, eraseDups_append_singleton]
    by_cases hp : p a = true
    · have hone : [a].filter p = [a] := List.filter_cons_of_pos hp
      rw [hone, eraseDups_append_singleton, ih]
      by_cases ha : a ∈ l
      · rw [if_pos ha, if_pos (List.mem_filter.2 ⟨ha, hp⟩)]
      · rw [if_neg ha, if_neg fun h => ha (List.mem_filter.1 h).1, List.filter_append, hone]
    · have hnone : [a].filter p = [] := List.filter_cons_of_neg hp
      rw [hnone, List.append_nil, ih]
      split
      · rfl
      · rw [List.filter_append, hnone, List.append_nil]

/-- Distinct elements of both parts are distinct elements of the whole. -/
theorem eraseDups_append_eraseDups (l m : List α) :
    (l.eraseDups ++ m.eraseDups).eraseDups = (l ++ m).eraseDups := by
  have hparts : m.eraseDups.removeAll l.eraseDups = (m.removeAll l).eraseDups := by
    unfold List.removeAll
    rw [eraseDups_filter]
    exact List.filter_congr fun a _ => by simp
  rw [List.eraseDups_append, List.eraseDups_append, hparts, eraseDups_of_nodup (nodup_eraseDups l),
    eraseDups_of_nodup (nodup_eraseDups _)]

end

/-! ## What decides the choice -/

theorem latest_congr {l m : List Sample} (hseries : (l.map series).eraseDups = (m.map series).eraseDups)
    (hlast : ∀ k, lastOf l k = lastOf m k) : latest l = latest m := by
  rw [latest_eq_collapse, latest_eq_collapse, collapse, collapse, hseries, funext hlast]

theorem lastOf_latest (l : List Sample) (k : Series) : lastOf (latest l) k = lastOf l k := by
  cases h : lastOf l k with
  | none =>
    refine lastOf_eq_none fun s hs => ?_
    exact lastOf_eq_none_iff.1 h s (series_of_lastOf (lastOf_of_mem_latest hs)).1
  | some s =>
    obtain ⟨-, rfl⟩ := series_of_lastOf h
    exact lastOf_of_nodup (nodup_series_latest l) (mem_latest.2 h)

theorem lastOf_filter (p : Series → Bool) (l : List Sample) (k : Series) :
    lastOf (l.filter fun s => p s.series) k = if p k then lastOf l k else none := by
  unfold lastOf
  rw [List.filter_filter]
  split
  · rename_i hp
    refine congrArg List.getLast? (List.filter_congr fun s _ => ?_)
    by_cases hs : s.series = k
    · simp [hs, hp]
    · simp [hs]
  · rename_i hp
    rw [List.filter_eq_nil_iff.2 fun s _ => ?_]
    · rfl
    · by_cases hs : s.series = k
      · simp [hs, hp]
      · simp [hs]

/-! ## Passes -/

/-- Nothing is left out where all series differ. -/
theorem latest_of_nodup {l : List Sample} (h : (l.map series).Nodup) : latest l = l := by
  rw [latest_eq_collapse, collapse, eraseDups_of_nodup h, List.filterMap_map]
  calc l.filterMap (lastOf l ∘ series) = l.filterMap some :=
        List.filterMap_congr fun s hs => lastOf_of_nodup h hs
    _ = l := List.filterMap_some

theorem latest_latest (l : List Sample) : latest (latest l) = latest l :=
  latest_of_nodup (nodup_series_latest l)

theorem latest_append_latest (l m : List Sample) : latest (latest l ++ latest m) = latest (l ++ m) := by
  refine latest_congr ?_ fun k => ?_
  · rw [List.map_append, series_latest, series_latest, eraseDups_append_eraseDups, List.map_append]
  · rw [lastOf_append, lastOf_append, lastOf_latest, lastOf_latest]

/-- In a list, a part may be exchanged for one that comes to the same. -/
theorem latest_append_congr {l l' m m' : List Sample} (hl : latest l = latest l')
    (hm : latest m = latest m') : latest (l ++ m) = latest (l' ++ m') := by
  rw [← latest_append_latest, hl, hm, latest_append_latest]

theorem latest_flatMap_congr {α : Type} {f g : α → List Sample} {parts : List α}
    (h : ∀ a ∈ parts, latest (f a) = latest (g a)) :
    latest (parts.flatMap f) = latest (parts.flatMap g) := by
  induction parts with
  | nil => rfl
  | cons a parts ih =>
    rw [List.forall_mem_cons] at h
    rw [List.flatMap_cons, List.flatMap_cons]
    exact latest_append_congr h.1 (ih h.2)

/-- Series may be left out before the choice or after it. -/
theorem latest_filter (p : Series → Bool) (l : List Sample) :
    latest (l.filter fun s => p s.series) = (latest l).filter fun s => p s.series := by
  have hnodup : (((latest l).filter fun s => p s.series).map series).Nodup :=
    (List.filter_sublist.map series).nodup (nodup_series_latest l)
  rw [← latest_of_nodup hnodup]
  refine latest_congr ?_ fun k => ?_
  · have hmap : ∀ m : List Sample, (m.filter fun s => p s.series).map series = (m.map series).filter p :=
      fun m => (List.filter_map ..).symm
    rw [hmap, hmap, series_latest, eraseDups_filter, eraseDups_filter,
      eraseDups_of_nodup (nodup_eraseDups _)]
  · rw [lastOf_filter, lastOf_filter, lastOf_latest]

end MongoMetrics.Sample
