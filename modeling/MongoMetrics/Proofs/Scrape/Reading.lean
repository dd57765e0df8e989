/-
What collectors do when they are asked on their own. A description of a source always is ready, at
the limit at the latest, and leaves the reading that it made: the samples of a fetch that succeeded
in time, and nothing otherwise (`run_describeSource`). It announces each schema of its reading once
(`nodup_shapesOf`, `mem_shapesOf`), and collecting gives the reading back.
-/
import MongoMetrics.Scrape.Process
import MongoMetrics.Proofs.Server.Runs

namespace MongoMetrics.Scrape

open MongoMetrics.Session

variable {w : World} {t : Instant}

/-! ## Readings -/

/-- The samples that a description of the source from `t` on makes, if the fetch succeeds in time. -/
def reading (source : Source) (c : Conditions) (w : World) (t : Instant) : Snapshot :=
  match valueWithin c.limit source.fetch.attempt w t with
  | some (.ok batch) => some (snapshotOf source c.deployment.labels c.naming batch
      (readyWithin c.limit source.fetch.attempt w t - t))
  | _ => none

/-- What the description announces of a reading. -/
def announced (s : Snapshot) : List Shape := s.elim [] fun samples => shapesOf samples []

theorem run_describeSource (source : Source) (c : Conditions) (w : World) (t : Instant) :
    (describeSource source c).run w t =
      ⟨some ((announced (reading source c w t), reading source c w t),
          readyWithin c.limit source.fetch.attempt w t),
        ((source.fetch.attempt.within c.limit).run w t).events⟩ := by
  unfold describeSource
  rw [run_bind (outcome_now w t), run_bind (outcome_within c.limit source.fetch.attempt)]
  unfold reading
  -- only a batch in time makes a reading; every other end of the fetch leaves none
  cases valueWithin c.limit source.fetch.attempt w t with
  | none => simp [announced, Session.now]
  | some result =>
    cases result with
    | error e => simp [announced, Session.now]
    | ok batch =>
      simp only
      rw [run_bind (outcome_now w _)]
      simp [announced, Session.now]

theorem run_describeProcess (started : Instant) (bootMillis : Int) :
    (describeProcess started bootMillis).run w t =
      ⟨some (((processSamples bootMillis (t - started) (w.residentBytes t) w.parallelism).map
          Sample.shape,
        some (processSamples bootMillis (t - started) (w.residentBytes t) w.parallelism)), t), []⟩ :=
  rfl

theorem run_replay (s : Snapshot) : (replay s).run w t = ⟨some (s.getD [], t), []⟩ := rfl

/-! ## Schemas -/

theorem mem_shapesOf {l : List Sample} {seen : List Schema} {k : Schema} :
    k ∈ (shapesOf l seen).map Shape.schema ↔ k ∈ l.map Sample.schema ∧ k ∉ seen := by
  induction l generalizing seen with
  | nil => simp [shapesOf]
  | cons s rest ih =>
    by_cases h : s.schema ∈ seen
    · rw [shapesOf, if_pos (by simpa using h), ih, List.map_cons, List.mem_cons]
      constructor
      · rintro ⟨hk, hn⟩
        exact ⟨.inr hk, hn⟩
      · rintro ⟨rfl | hk, hn⟩
        · exact absurd h hn
        · exact ⟨hk, hn⟩
    · rw [shapesOf, if_neg (by simpa using h), List.map_cons, List.map_cons, List.mem_cons,
        List.mem_cons, ih, Sample.schema_shape, List.mem_cons]
      constructor
      · rintro (rfl | ⟨hk, hn⟩)
        · exact ⟨.inl rfl, h⟩
        · exact ⟨.inr hk, fun hs => hn (.inr hs)⟩
      · rintro ⟨rfl | hk, hn⟩
        · exact .inl rfl
        · by_cases hs : k = s.schema
          · exact .inl hs
          · exact .inr ⟨hk, fun he => he.elim hs hn⟩

/-- No schema is announced twice. -/
theorem nodup_shapesOf (l : List Sample) (seen : List Schema) :
    ((shapesOf l seen).map Shape.schema).Nodup := by
  induction l generalizing seen with
  | nil => simp [shapesOf]
  | cons s rest ih =>
    by_cases h : s.schema ∈ seen
    · rw [shapesOf, if_pos (by simpa using h)]
      exact ih seen
    · rw [shapesOf, if_neg (by simpa using h), List.map_cons, List.nodup_cons]
      refine ⟨fun hs => ?_, ih _⟩
      exact (mem_shapesOf.1 hs).2 (List.mem_cons_self ..)

/-- The schemas announced of a reading are those of its samples. -/
theorem mem_announced {s : Snapshot} {k : Schema} :
    k ∈ (announced s).map Shape.schema ↔ k ∈ (s.getD []).map Sample.schema := by
  cases s with
  | none => rfl
  | some samples =>
    show k ∈ (shapesOf samples []).map Shape.schema ↔ k ∈ samples.map Sample.schema
    rw [mem_shapesOf]
    simp

theorem nodup_announced (s : Snapshot) : ((announced s).map Shape.schema).Nodup := by
  cases s with
  | none => exact List.nodup_nil
  | some samples => exact nodup_shapesOf samples []

end MongoMetrics.Scrape
