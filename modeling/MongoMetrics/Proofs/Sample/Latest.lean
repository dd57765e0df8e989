/-
One sample per series. `latest` keeps, for each series, the place of its first sample and the value
of its last one: the series of the result are the distinct series in order of first occurrence, and
each is carried by the last sample that has it. This determines the result, so `latest` is equal to
`collapse`, which is said without the loop.
-/
import MongoMetrics.Sample
import Mathlib.Data.List.Induction
import Mathlib.Data.List.Nodup

namespace MongoMetrics.Sample

/-! ## The rule without the loop -/

/-- The last sample of a series. -/
def lastOf (l : List Sample) (k : Series) : Option Sample := (l.filter (·.series = k)).getLast?

/-- The distinct series in order of first occurrence, each with its last sample. -/
def collapse (l : List Sample) : List Sample := (l.map series).eraseDups.filterMap (lastOf l)

theorem lastOf_append_singleton (l : List Sample) (s : Sample) (k : Series) :
    lastOf (l ++ [s]) k = if s.series = k then some s else lastOf l k := by
  unfold lastOf
  rw [List.filter_append]
  by_cases h : s.series = k
  · simp [h]
  · simp [h]

theorem series_of_lastOf {l : List Sample} {k : Series} {s : Sample} (h : lastOf l k = some s) :
    s ∈ l ∧ s.series = k := by
  have hs := List.mem_of_getLast? h
  simpa using List.mem_filter.1 hs

theorem lastOf_append (l m : List Sample) (k : Series) :
    lastOf (l ++ m) k = (lastOf m k).or (lastOf l k) := by
  unfold lastOf
  rw [List.filter_append, List.getLast?_append]

theorem lastOf_eq_none {l : List Sample} {k : Series} (h : ∀ s ∈ l, s.series ≠ k) :
    lastOf l k = none := by
  unfold lastOf
  rw [List.filter_eq_nil_iff.2 fun s hs => by simpa using h s hs]
  rfl

theorem lastOf_eq_none_iff {l : List Sample} {k : Series} :
    lastOf l k = none ↔ ∀ s ∈ l, s.series ≠ k := by
  refine ⟨fun h s hs he => ?_, lastOf_eq_none⟩
  have hmem : s ∈ l.filter (·.series = k) := List.mem_filter.2 ⟨hs, by simpa using he⟩
  rw [lastOf, List.getLast?_eq_none_iff] at h
  rw [h] at hmem
  cases hmem

theorem nodup_eraseDups {α : Type} [BEq α] [LawfulBEq α] : ∀ l : List α, l.eraseDups.Nodup
  | [] => by simp
  | a :: rest => by
    have hlen : (rest.filter fun b => !b == a).length < rest.length + 1 :=
      Nat.lt_succ_of_le (List.length_filter_le _ _)
    rw [List.eraseDups_cons, List.nodup_cons, List.mem_eraseDups, List.mem_filter]
    exact ⟨by simp, nodup_eraseDups (rest.filter fun b => !b == a)⟩
termination_by l => l.length

theorem eraseDups_append_singleton {α : Type} [BEq α] [LawfulBEq α] (l : List α) (a : α) :
    (l ++ [a]).eraseDups = if a ∈ l then l.eraseDups else l.eraseDups ++ [a] := by
  rw [List.eraseDups_append]
  by_cases h : a ∈ l
  · simp [List.removeAll, h]
  · simp [List.removeAll, h, List.eraseDups_cons]

/-! ## One step -/

theorem series_record (s : Sample) (l : List Sample) :
    (record s l).map series =
      if s.series ∈ l.map series then l.map series else l.map series ++ [s.series] := by
  induction l with
  | nil => rfl
  | cons t rest ih =>
    by_cases h : t.series = s.series
    · simp [record, h]
    · simp only [record, if_neg h, List.map_cons, ih, List.mem_cons, Ne.symm h, false_or]
      split <;> rfl

/-- Recording a sample replaces the sample of its series and keeps all others. -/
theorem mem_record {s x : Sample} {l : List Sample} (hl : (l.map series).Nodup) :
    x ∈ record s l ↔ x = s ∨ (x ∈ l ∧ x.series ≠ s.series) := by
  induction l with
  | nil => simp [record]
  | cons t rest ih =>
    simp only [List.map_cons, List.nodup_cons] at hl
    by_cases h : t.series = s.series
    · -- no other sample of the list has the series of the replaced one
      have hr : ∀ y ∈ rest, y.series ≠ s.series := fun y hy e =>
        hl.1 (List.mem_map.2 ⟨y, hy, e.trans h.symm⟩)
      simp only [record, if_pos h, List.mem_cons]
      constructor
      · rintro (rfl | hx)
        · exact .inl rfl
        · exact .inr ⟨.inr hx, hr x hx⟩
      · rintro (rfl | ⟨rfl | hx, hne⟩)
        · exact .inl rfl
        · exact absurd h hne
        · exact .inr hx
    · simp only [record, if_neg h, List.mem_cons, ih hl.2]
      constructor
      · rintro (rfl | rfl | ⟨hx, hne⟩)
        · exact .inr ⟨.inl rfl, h⟩
        · exact .inl rfl
        · exact .inr ⟨.inr hx, hne⟩
      · rintro (rfl | ⟨rfl | hx, hne⟩)
        · exact .inr (.inl rfl)
        · exact .inl rfl
        · exact .inr (.inr ⟨hx, hne⟩)

/-! ## The whole list -/

theorem latest_append_singleton (l : List Sample) (s : Sample) :
    latest (l ++ [s]) = record s (latest l) := by
  unfold latest
  rw [List.foldl_append]
  rfl

/-- The series come in order of first occurrence. -/
theorem series_latest (l : List Sample) : (latest l).map series = (l.map series).eraseDups := by
  induction l using List.reverseRecOn with
  | nil => rfl
  | append_singleton l s ih =>
    rw [latest_append_singleton, series_record, ih, List.map_append, List.map_singleton,
      eraseDups_append_singleton]
    simp only [List.mem_eraseDups]

/-- No two samples of the result have one series. -/
theorem nodup_series_latest (l : List Sample) : ((latest l).map series).Nodup := by
  rw [series_latest]
  exact nodup_eraseDups _

/-- Each sample of the result is the last one of its series. -/
theorem lastOf_of_mem_latest {l : List Sample} {s : Sample} (h : s ∈ latest l) :
    lastOf l s.series = some s := by
  induction l using List.reverseRecOn generalizing s with
  | nil => simp [latest] at h
  | append_singleton l t ih =>
    rw [latest_append_singleton, mem_record (nodup_series_latest l)] at h
    rw [lastOf_append_singleton]
    rcases h with rfl | ⟨h, hne⟩
    · rw [if_pos rfl]
    · rw [if_neg (Ne.symm hne), ih h]

/-- The loop computes the rule. -/
theorem latest_eq_collapse (l : List Sample) : latest l = collapse l := by
  unfold collapse
  rw [← series_latest, List.filterMap_map]
  calc latest l = (latest l).filterMap some := (List.filterMap_some).symm
    _ = (latest l).filterMap (lastOf l ∘ series) :=
      List.filterMap_congr fun s hs => (lastOf_of_mem_latest hs).symm

/-- Among samples of distinct series each is the only one of its series. -/
theorem filter_series_of_mem {l : List Sample} (h : (l.map series).Nodup) {s : Sample} (hs : s ∈ l) :
    l.filter (·.series = s.series) = [s] := by
  induction l with
  | nil => cases hs
  | cons x rest ih =>
    rw [List.map_cons, List.nodup_cons] at h
    rcases List.mem_cons.1 hs with rfl | hs
    · have hrest : rest.filter (·.series = s.series) = [] := by
        refine List.filter_eq_nil_iff.2 fun y hy => ?_
        have : y.series ≠ s.series := fun he => h.1 (List.mem_map.2 ⟨y, hy, he⟩)
        simpa using this
      rw [List.filter_cons_of_pos (by simp), hrest]
    · have hne : x.series ≠ s.series := fun he => h.1 (List.mem_map.2 ⟨s, hs, he.symm⟩)
      rw [List.filter_cons_of_neg (by simpa using hne), ih h.2 hs]

theorem mem_latest {l : List Sample} {s : Sample} :
    s ∈ latest l ↔ lastOf l s.series = some s := by
  refine ⟨lastOf_of_mem_latest, fun h => ?_⟩
  rw [latest_eq_collapse]
  refine List.mem_filterMap.2 ⟨s.series, List.mem_eraseDups.2 ?_, h⟩
  exact List.mem_map.2 ⟨s, (series_of_lastOf h).1, rfl⟩

theorem lastOf_of_nodup {l : List Sample} (h : (l.map series).Nodup) {s : Sample} (hs : s ∈ l) :
    lastOf l s.series = some s := by
  rw [lastOf, filter_series_of_mem h hs]
  rfl

/-- Samples of distinct series are all kept when none of their series occurs behind them. -/
theorem mem_latest_append {l after : List Sample} (before : List Sample) (h : (l.map series).Nodup)
    (hafter : ∀ x ∈ after, ∀ s ∈ l, x.series ≠ s.series) {s : Sample} (hs : s ∈ l) :
    s ∈ latest (before ++ l ++ after) := by
  rw [mem_latest, lastOf_append, lastOf_eq_none fun x hx => hafter x hx s hs, Option.none_or,
    lastOf_append, lastOf_of_nodup h hs, Option.some_or]

/-- Of lists that each have distinct series, the last one with the series decides. -/
theorem lastOf_flatMap {α : Type} {f : α → List Sample} (hf : ∀ a, ((f a).map series).Nodup)
    {l : List α} {s : Sample} : lastOf (l.flatMap f) s.series = some s ↔
      ∃ before a after, l = before ++ a :: after ∧ s ∈ f a ∧
        ∀ b ∈ after, ∀ x ∈ f b, x.series ≠ s.series := by
  induction l with
  | nil => simp [lastOf]
  | cons a rest ih =>
    rw [List.flatMap_cons, lastOf_append, Option.or_eq_some_iff, ih]
    constructor
    · rintro (⟨before, b, after, rfl, hs, hafter⟩ | ⟨hnone, hs⟩)
      · exact ⟨a :: before, b, after, rfl, hs, hafter⟩
      · refine ⟨[], a, rest, rfl, (series_of_lastOf hs).1, fun b hb x hx => ?_⟩
        exact lastOf_eq_none_iff.1 hnone x (List.mem_flatMap.2 ⟨b, hb, hx⟩)
    · rintro ⟨before, b, after, hl, hs, hafter⟩
      cases before with
      | nil =>
        obtain ⟨rfl, rfl⟩ := List.cons.inj hl
        refine .inr ⟨lastOf_eq_none fun x hx => ?_, lastOf_of_nodup (hf a) hs⟩
        obtain ⟨b, hb, hx⟩ := List.mem_flatMap.1 hx
        exact hafter b hb x hx
      | cons a' before =>
        obtain ⟨rfl, rfl⟩ := List.cons.inj hl
        exact .inl ⟨before, b, after, rfl, hs, hafter⟩

/-- The first sample of a name decides which series of the name comes first. -/
theorem find?_collapse_of_first {before : List Sample} {s : Sample}
    (h : ∀ x ∈ before, x.name ≠ s.name) (after : List Sample) :
    (collapse (before ++ s :: after)).find? (·.name = s.name) =
      lastOf (before ++ s :: after) s.series := by
  obtain ⟨last, hlast⟩ : ∃ last, lastOf (before ++ s :: after) s.series = some last := by
    have hmem : s ∈ (before ++ s :: after).filter (·.series = s.series) := by simp
    exact Option.isSome_iff_exists.1 (List.getLast?_isSome.2 (List.ne_nil_of_mem hmem))
  have hnew : s.series ∉ before.map series := by
    intro hmem
    obtain ⟨x, hx, hseries⟩ := List.mem_map.1 hmem
    exact h x hx (congrArg Series.name hseries)
  have hkeys : ∃ rest, ((before ++ s :: after).map series).eraseDups =
      (before.map series).eraseDups ++ s.series :: rest := by
    rw [List.map_append, List.map_cons, List.eraseDups_append]
    have hremove : (s.series :: after.map series).removeAll (before.map series) =
        s.series :: (after.map series).removeAll (before.map series) := by
      unfold List.removeAll
      exact List.filter_cons_of_pos (by simpa using hnew)
    rw [hremove, List.eraseDups_cons]
    exact ⟨_, rfl⟩
  obtain ⟨rest, hrest⟩ := hkeys
  have hbefore : ((before.map series).eraseDups.filterMap (lastOf (before ++ s :: after))).find?
      (·.name = s.name) = none := by
    refine List.find?_eq_none.2 fun x hx => ?_
    obtain ⟨k, hk, hx⟩ := List.mem_filterMap.1 hx
    obtain ⟨y, hy, rfl⟩ := List.mem_map.1 (List.mem_eraseDups.1 hk)
    have hname : x.name = y.name := congrArg Series.name (series_of_lastOf hx).2
    simpa [hname] using h y hy
  have hname : last.name = s.name := congrArg Series.name (series_of_lastOf hlast).2
  unfold collapse
  rw [hrest, List.filterMap_append, List.find?_append, hbefore, Option.none_or,
    List.filterMap_cons_some hlast, hlast]
  exact List.find?_cons_of_pos (by simpa using hname)

end MongoMetrics.Sample
