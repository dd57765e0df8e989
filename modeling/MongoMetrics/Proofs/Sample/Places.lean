/-
The choice of one sample for each series with a table of places. The samples stand in an array that only
grows, and a table gives each series the place of its sample; a sample is written over the one of its
series, or pushed when there is none. That table and array agree is part of the type (`Placed.at_place`),
so no place is out of bounds. Main statement: what stands in the array is `latest` (`toList_ofList`).
-/
import MongoMetrics.Proofs.Sample.Latest
import Std.Data.HashMap

namespace MongoMetrics

instance : Hashable Series := ⟨fun k => mixHash (hash k.name) (hash k.labels.toList)⟩

namespace Sample

/-- Samples of distinct series, and the place of each series. -/
structure Placed where
  samples : Array Sample
  places : Std.HashMap Series Nat
  at_place : ∀ k i, places[k]? = some i ↔ samples[i]?.map series = some k

namespace Placed

def empty : Placed := ⟨#[], ∅, fun k i => by simp⟩

theorem lt_of_place (t : Placed) {k : Series} {i : Nat} (h : t.places[k]? = some i) :
    i < t.samples.size := by
  obtain ⟨s, hs, -⟩ := Option.map_eq_some_iff.1 ((t.at_place k i).1 h)
  exact (Array.getElem?_eq_some_iff.1 hs).1

/-- A sample of the same series at its place changes no series. -/
theorem at_place_set (t : Placed) {s : Sample} {i : Nat} (h : t.places[s.series]? = some i)
    (k : Series) (j : Nat) :
    t.places[k]? = some j ↔ (t.samples.set i s (t.lt_of_place h))[j]?.map series = some k := by
  rw [t.at_place, Array.getElem?_set]
  split
  · rename_i hj
    rw [← hj, (t.at_place _ i).1 h]
    rfl
  · exact Iff.rfl

theorem series_ne_of_no_place (t : Placed) {k : Series} (h : t.places[k]? = none) (i : Nat) :
    t.samples[i]?.map series ≠ some k := fun hi => by
  rw [(t.at_place k i).2 hi] at h
  cases h

/-- A sample of a new series gets the next place. -/
theorem at_place_push (t : Placed) {s : Sample} (h : t.places[s.series]? = none) (k : Series) (j : Nat) :
    (t.places.insert s.series t.samples.size)[k]? = some j ↔
      (t.samples.push s)[j]?.map series = some k := by
  rw [Std.HashMap.getElem?_insert, Array.getElem?_push]
  by_cases hj : j = t.samples.size
  · have hlast : t.places[k]? ≠ some j := fun hp => Nat.ne_of_lt (t.lt_of_place hp) hj
    rw [if_pos hj, Option.map_some, Option.some.injEq]
    split
    · rename_i hk
      exact iff_of_true (congrArg some hj.symm) (beq_iff_eq.1 hk)
    · rename_i hk
      exact iff_of_false hlast (by simpa using hk)
  · rw [if_neg hj]
    split
    · rename_i hk
      have hnew : t.samples[j]?.map series ≠ some k :=
        beq_iff_eq.1 hk ▸ t.series_ne_of_no_place h j
      exact iff_of_false (fun he => hj (Option.some.inj he).symm) hnew
    · exact t.at_place k j

/-- Writes the sample over the one of its series, or pushes it when there is none. -/
def put (t : Placed) (s : Sample) : Placed :=
  match h : t.places[s.series]? with
  | some i => ⟨t.samples.set i s (t.lt_of_place h), t.places, t.at_place_set h⟩
  | none => ⟨t.samples.push s, t.places.insert s.series t.samples.size, t.at_place_push h⟩

def ofList (l : List Sample) : Placed := l.foldl put empty

end Placed

/-! ## The same choice -/

theorem record_of_new {s : Sample} {l : List Sample} (h : ∀ t ∈ l, t.series ≠ s.series) :
    record s l = l ++ [s] := by
  induction l with
  | nil => rfl
  | cons t rest ih =>
    rw [List.forall_mem_cons] at h
    rw [record, if_neg h.1, ih h.2, List.cons_append]

/-- The first sample of the series is written over. -/
theorem record_of_place {s : Sample} {l : List Sample} {i : Nat}
    (h : l[i]?.map series = some s.series) (hfirst : ∀ j < i, l[j]?.map series ≠ some s.series) :
    record s l = l.set i s := by
  induction l generalizing i with
  | nil => cases h
  | cons t rest ih =>
    cases i with
    | zero =>
      have ht : t.series = s.series := Option.some.inj h
      rw [record, if_pos ht, List.set_cons_zero]
    | succ i =>
      have ht : t.series ≠ s.series := fun he => hfirst 0 (Nat.succ_pos i) (congrArg some he)
      rw [record, if_neg ht, List.set_cons_succ,
        ih h fun j hj => hfirst (j + 1) (Nat.succ_lt_succ hj)]

namespace Placed

theorem toList_put (t : Placed) (s : Sample) :
    (t.put s).samples.toList = record s t.samples.toList := by
  unfold put
  split
  · rename_i i h
    rw [Array.toList_set, record_of_place]
    · rw [Array.getElem?_toList]
      exact (t.at_place _ i).1 h
    · -- the table has one place for the series, so no sample before it is of this series
      intro j hj hseries
      rw [Array.getElem?_toList, ← t.at_place, h] at hseries
      exact Nat.ne_of_gt hj (Option.some.inj hseries)
  · rename_i h
    rw [Array.toList_push, record_of_new]
    intro u hu hseries
    obtain ⟨i, hi⟩ := List.mem_iff_getElem?.1 hu
    rw [Array.getElem?_toList] at hi
    exact t.series_ne_of_no_place h i (by rw [hi, Option.map_some, hseries])

theorem toList_foldl_put (l : List Sample) (t : Placed) :
    (l.foldl put t).samples.toList = l.foldl (fun seen s => record s seen) t.samples.toList := by
  induction l generalizing t with
  | nil => rfl
  | cons s rest ih => rw [List.foldl_cons, List.foldl_cons, ih, toList_put]

/-- With and without a table of places, the choice is the same. -/
theorem toList_ofList (l : List Sample) : (ofList l).samples.toList = latest l :=
  toList_foldl_put l empty

end Placed

end Sample

end MongoMetrics
