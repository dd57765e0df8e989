/-
One choice over a whole scrape. Samples of one series are chosen between in every document, again in every
collector and again over all collectors, with samples of undescribed schemas left out in between. Main
statement (`one_pass_suffices`): choosing composes, so the families are those of a single choice over all
that the walks and the sources find, in the order of registration (`latest_built`, `familiesOf_congr`).
-/
import MongoMetrics.Proofs.Sample.Passes
import MongoMetrics.Proofs.Sample.Places
import MongoMetrics.Proofs.Scrape.Agreement

namespace MongoMetrics.Scrape

open MongoMetrics.Extraction MongoMetrics.Session

/-! ## What is found -/

/-- The samples that the leaves of a document give, all of them. -/
def foundSamples (naming : Naming) (base : Labels) (f : Fetched) : List Sample :=
  (findings naming f.path (base.override f.labels) f.document).filterMap Finding.sample?

/-- The samples of one reading, all of them. -/
def readSamples (source : Source) (base : Labels) (naming : Naming) (batch : Batch)
    (elapsed : Duration) : List Sample :=
  batch.documents.flatMap (foundSamples naming base) ++
    (batch.samples ++ source.augment batch.documents).map (withBase base) ++
    [timingSample source.family elapsed]

/-- The choice in each document is undone by the choice in the collector. -/
theorem snapshotOf_eq_latest (source : Source) (base : Labels) (naming : Naming) (batch : Batch)
    (elapsed : Duration) : snapshotOf source base naming batch elapsed =
      Sample.latest (readSamples source base naming batch elapsed) := by
  have hdocuments : Sample.latest (batch.documents.flatMap (documentSamples naming base)) =
      Sample.latest (batch.documents.flatMap (foundSamples naming base)) :=
    Sample.latest_flatMap_congr fun f _ => Sample.latest_latest (foundSamples naming base f)
  exact Sample.latest_append_congr (Sample.latest_append_congr hdocuments rfl) rfl

namespace Member

/-- The samples that a description from `t` on finds, all of them. -/
def found (w : World) (t : Instant) : Member → List Sample
  | process started bootMillis =>
    processSamples bootMillis (t - started) (w.residentBytes t) w.parallelism
  | source s c =>
    match valueWithin c.limit s.fetch.attempt w t with
    | some (.ok batch) => readSamples s c.deployment.labels c.naming batch
        (readyWithin c.limit s.fetch.attempt w t - t)
    | _ => []

theorem latest_built (m : Member) (w : World) (t : Instant) :
    Sample.latest (m.built w t) = Sample.latest (m.found w t) := by
  cases m with
  | process started bootMillis => rfl
  | source s c =>
    unfold built snapshot found reading
    dsimp only
    cases valueWithin c.limit s.fetch.attempt w t with
    | none => rfl
    | some result =>
      cases result with
      | error e => rfl
      | ok batch =>
        dsimp only [Option.getD_some]
        rw [snapshotOf_eq_latest, Sample.latest_latest]

end Member

/-! ## What is described -/

/-- The same answer with one sample for each series. -/
def Answer.collapsed (a : Answer) : Answer := { a with samples := Sample.latest a.samples }

/-- A series decides whether its samples are described. -/
theorem Answer.kept_collapsed (a : Answer) : a.collapsed.kept = Sample.latest a.kept :=
  (Sample.latest_filter (fun k => ⟨k.name, k.labels.keys⟩ ∈ a.shapes.map Shape.schema) a.samples).symm

theorem familiesOf_congr {l m : List Sample} (h : Sample.latest l = Sample.latest m) :
    familiesOf l = familiesOf m := by
  rw [familiesOf_eq_group, familiesOf_eq_group, h]

theorem sequential_collapsed (answers : List Answer) :
    sequential (answers.map Answer.collapsed) = sequential answers := by
  unfold sequential
  rw [List.flatMap_map]
  refine familiesOf_congr (Sample.latest_flatMap_congr fun a _ => ?_)
  rw [a.kept_collapsed, Sample.latest_latest]

/-! ## Scrapes -/

/-- The choice of one sample for each series composes. The chosen samples have the distinct series in the
order of their first samples, each is the last sample of its series, and a table of places chooses the
same. Choosing again changes nothing; choosing in two parts first, or leaving out series first, comes to
the same as choosing once. So do scrapes: it makes no difference whether collectors have chosen, whatever
they have described, and the families are those of one choice over all that was found. -/
theorem one_pass_suffices :
    (∀ l : List Sample,
      (Sample.latest l).map Sample.series = (l.map Sample.series).eraseDups ∧
      (∀ s ∈ Sample.latest l, Sample.lastOf l s.series = some s) ∧
      (Sample.Placed.ofList l).samples.toList = Sample.latest l ∧
      Sample.latest (Sample.latest l) = Sample.latest l) ∧
    (∀ l m : List Sample, Sample.latest (Sample.latest l ++ Sample.latest m) = Sample.latest (l ++ m)) ∧
    (∀ (p : Series → Bool) (l : List Sample), Sample.latest (l.filter fun s => p s.series) =
      (Sample.latest l).filter fun s => p s.series) ∧
    (∀ answers : List Answer, sequential (answers.map Answer.collapsed) = sequential answers) ∧
    ∀ (members : List (Member × Snapshot)) (w : World) (t : Instant),
      ((Roster.ofMembers members).gather.run w t).outcome.map (·.1.1) =
        some (Family.group (Sample.latest (members.flatMap fun m => m.1.found w t))) := by
  refine ⟨fun l => ⟨Sample.series_latest l, fun _ => Sample.lastOf_of_mem_latest,
    Sample.Placed.toList_ofList l, Sample.latest_latest l⟩, Sample.latest_append_latest,
    Sample.latest_filter, sequential_collapsed, fun members w t => ?_⟩
  have h := congrArg (Option.map Prod.fst) ((Roster.ofMembers members).outcome_gather w t)
  rw [Roster.answers_ofMembers, Option.map_map, Option.map_some, Option.map_some,
    Roster.sequential_ofMembers] at h
  have hfound : familiesOf (members.flatMap fun m => m.1.built w t) =
      familiesOf (members.flatMap fun m => m.1.found w t) :=
    familiesOf_congr (Sample.latest_flatMap_congr fun m _ => m.1.latest_built w t)
  rw [hfound, familiesOf_eq_group] at h
  exact h

end MongoMetrics.Scrape
