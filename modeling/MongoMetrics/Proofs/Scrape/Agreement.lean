/-
Describing and collecting agree. In a roster of process and source collectors, each collector
announces the schemas of exactly those samples that it gives in the same scrape, so no sample is left
out for want of an announcement. Main statement (`describe_and_collect_agree`): a scrape comes to the
families of all samples that its descriptions made, in the order of registration, whatever the
collectors remember from before.
-/
import MongoMetrics.Proofs.Scrape.Reading
import MongoMetrics.Proofs.Scrape.Sequential

namespace MongoMetrics.Scrape

open MongoMetrics.Session

/-- A collector of the process or of a source. -/
inductive Member where
  | process (started : Instant) (bootMillis : Int)
  | source (s : Source) (c : Conditions)

namespace Member

def collector : Member → Collector
  | process started bootMillis => processCollector started bootMillis
  | source s c => s.collector c

/-- What a description from `t` on leaves. -/
def snapshot (w : World) (t : Instant) : Member → Snapshot
  | process started bootMillis =>
    some (processSamples bootMillis (t - started) (w.residentBytes t) w.parallelism)
  | source s c => reading s c w t

/-- The samples that a description from `t` on builds. -/
def built (w : World) (t : Instant) (m : Member) : List Sample := (m.snapshot w t).getD []

/-- The shapes that a description from `t` on announces. -/
def shapes (w : World) (t : Instant) : Member → List Shape
  | process started bootMillis =>
    ((process started bootMillis).built w t).map Sample.shape
  | source s c => announced (reading s c w t)

def readyToCollect (w : World) (t : Instant) : Member → Instant
  | process .. => t
  | source s c => readyWithin c.limit s.fetch.attempt w t

/-- All that the member says in a scrape that begins at `t`. -/
def answer (w : World) (t : Instant) (m : Member) : Answer :=
  ⟨m.shapes w t, m.snapshot w t, m.built w t⟩

variable {w : World} {t : Instant}

theorem outcome_describe (m : Member) :
    (m.collector.describe.run w t).outcome =
      some ((m.shapes w t, m.snapshot w t), m.readyToCollect w t) := by
  cases m with
  | process started bootMillis => exact congrArg Run.outcome (run_describeProcess started bootMillis)
  | source s c => exact congrArg Run.outcome (run_describeSource s c w t)

theorem run_collect (m : Member) (s : Snapshot) :
    (m.collector.collect s).run w t = ⟨some (s.getD [], t), []⟩ := by
  cases m <;> exact run_replay s

/-- A member announces the schemas of the samples that it builds. -/
theorem mem_shapes {m : Member} {k : Schema} :
    k ∈ (m.shapes w t).map Shape.schema ↔ k ∈ (m.built w t).map Sample.schema := by
  cases m with
  | process started bootMillis =>
    rw [shapes, List.map_map]
    rfl
  | source s c => exact mem_announced

/-- Nothing of what a member says is left out. -/
theorem kept_answer (m : Member) : (m.answer w t).kept = m.built w t := by
  refine List.filter_eq_self.2 fun s hs => decide_eq_true ?_
  exact mem_shapes.2 (List.mem_map_of_mem hs)

end Member

namespace Roster

/-- The roster of members with what they remember. -/
def ofMembers (members : List (Member × Snapshot)) : Roster :=
  ⟨members.map fun m => (m.1.collector, m.2)⟩

variable {w : World} {t : Instant}

theorem answers_ofMembers (members : List (Member × Snapshot)) :
    (ofMembers members).answers w t = some (members.map fun m => m.1.answer w t) :=
  answers_of_each (fun m => m.1.readyToCollect w t) (fun _ ready => ready)
    (fun m => m.1.outcome_describe) fun m _ => congrArg Run.outcome (m.1.run_collect _)

theorem remember_ofMembers (members : List (Member × Snapshot)) :
    (ofMembers members).remember (members.map fun m => m.1.answer w t) =
      ofMembers (members.map fun m => (m.1, m.1.snapshot w t)) := by
  rw [remember, ofMembers, ofMembers, List.zip_map', List.map_map, List.map_map]
  rfl

theorem sequential_ofMembers (members : List (Member × Snapshot)) :
    sequential (members.map fun m => m.1.answer w t) =
      familiesOf (members.flatMap fun m => m.1.built w t) := by
  rw [sequential, List.flatMap_map]
  simp only [Member.kept_answer]

end Roster

/-- A scrape of process and source collectors always is ready. Whatever they remember, each answer is
kept as a whole and holds what the description of this scrape built, and the families are those of
all of it; then the roster remembers what was built. A source announces each schema once, and those
that it announces are the schemas of the samples it gives when it is asked for them, at any time. -/
theorem describe_and_collect_agree :
    (∀ (members : List (Member × Snapshot)) (w : World) (t : Instant), ∃ answers ready,
      (Roster.ofMembers members).answers w t = some answers ∧
      answers.map Answer.samples = members.map (fun m => m.1.built w t) ∧
      (∀ a ∈ answers, a.kept = a.samples) ∧
      ((Roster.ofMembers members).gather.run w t).outcome =
        some ((familiesOf (members.flatMap fun m => m.1.built w t),
          Roster.ofMembers (members.map fun m => (m.1, m.1.snapshot w t))), ready)) ∧
    ∀ (source : Source) (c : Conditions) (w : World) (t : Instant), ∃ shapes snapshot ready,
      ((source.collector c).describe.run w t).outcome = some ((shapes, snapshot), ready) ∧
      (shapes.map Shape.schema).Nodup ∧
      ∀ (w' : World) (t' : Instant), ∃ samples,
        ((source.collector c).collect snapshot).run w' t' = ⟨some (samples, t'), []⟩ ∧
        ∀ k, k ∈ shapes.map Shape.schema ↔ k ∈ samples.map Sample.schema := by
  refine ⟨fun members w t => ?_, fun source c w t => ?_⟩
  · have h := (Roster.ofMembers members).outcome_gather w t
    rw [Roster.answers_ofMembers, Option.map_some, Roster.sequential_ofMembers,
      Roster.remember_ofMembers, Option.map_eq_some_iff] at h
    obtain ⟨⟨result, ready⟩, hg, rfl⟩ := h
    refine ⟨_, ready, Roster.answers_ofMembers members, ?_, fun a ha => ?_, hg⟩
    · rw [List.map_map]
      rfl
    · obtain ⟨m, -, rfl⟩ := List.mem_map.1 ha
      exact m.1.kept_answer
  · exact ⟨announced (reading source c w t), reading source c w t, _,
      (Member.source source c).outcome_describe, nodup_announced _,
      fun w' t' => ⟨_, rfl, fun k => mem_announced⟩⟩

end MongoMetrics.Scrape
