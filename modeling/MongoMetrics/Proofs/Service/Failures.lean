/-
Scrapes in which sources fail. A source that gives no batch within its limit leaves no reading, so its
collector announces nothing and gives nothing, whatever it gave in scrapes before; and what does not
take part in one wave of answers changes nothing of the others but when they are asked. Main statement
(`gather_eq_without_failing`): the families are those of the roster without the failing sources.
-/
import MongoMetrics.Proofs.Service.Scrapes

namespace MongoMetrics.Scrape

open MongoMetrics.Session

variable {w : World} {t : Instant}

/-! ## Collectors on their own -/

/-- From `t` on, the source gives no batch within the limit: its fetch fails, or is ready too late, or
never is. -/
def Source.Fails (source : Source) (limit : Duration) (w : World) (t : Instant) : Prop :=
  ∀ batch ready, (source.fetch.attempt.run w t).outcome = some (.ok batch, ready) → t + limit < ready

theorem reading_of_fails {source : Source} {c : Conditions} (h : source.Fails c.limit w t) :
    reading source c w t = none := by
  unfold reading
  split
  · rename_i batch hbatch
    obtain ⟨ready, ha, hle⟩ := valueWithin_eq_some.1 hbatch
    exact absurd (h batch ready ha) (Nat.not_lt.2 hle)
  · rfl

namespace Collector

/-- After a description from `t` on, the collector gives the same whenever it is asked to collect. -/
def Steady (c : Collector) (w : World) (t : Instant) : Prop :=
  ∀ d ready, (c.describe.run w t).outcome = some (d, ready) → ∀ t₁ t₂,
    ((c.collect d.2).run w t₁).outcome.map Prod.fst = ((c.collect d.2).run w t₂).outcome.map Prod.fst

/-- What a collector says that is asked from `t` on without regard to any others. -/
def answer? (c : Collector) (w : World) (t : Instant) : Option Answer :=
  (c.describe.run w t).outcome.bind fun d =>
    ((c.collect d.1.2).run w t).outcome.map fun s => ⟨d.1.1, d.1.2, s.1⟩

end Collector

theorem Member.steady (m : Member) (w : World) (t : Instant) : m.collector.Steady w t := by
  intro d ready _ t₁ t₂
  rw [m.run_collect, m.run_collect]
  rfl

/-- A failing source says nothing. -/
theorem answer?_of_fails {source : Source} {c : Conditions} (h : source.Fails c.limit w t) :
    (source.collector c).answer? w t = some ⟨[], none, []⟩ := by
  have hd := (Member.source source c).outcome_describe (w := w) (t := t)
  have hnone : (Member.source source c).snapshot w t = none := reading_of_fails h
  rw [hnone, Member.shapes, reading_of_fails h] at hd
  unfold Collector.answer?
  rw [show ((source.collector c).describe.run w t).outcome = _ from hd]
  rfl

namespace Roster

/-! ## Waves of answers -/

def collectors (r : Roster) : List Collector := r.members.map Prod.fst

/-- The roster without the collectors of these names. -/
def without (r : Roster) (names : List String) : Roster :=
  ⟨r.members.filter fun m => m.1.name ∉ names⟩

/-- Two waves over one list, the second one after the first, are one wave in which each element has
both turns. -/
theorem mapM_waves {α δ σ β : Type} (f : α → Option δ) (g : α → δ → Option σ) (k : δ → σ → β)
    (l : List α) :
    ((l.mapM f).bind fun ds => ((l.zip ds).mapM fun p => g p.1 p.2).map fun cs =>
      (ds.zip cs).map fun p => k p.1 p.2) = l.mapM fun a => (f a).bind fun d => (g a d).map (k d) := by
  induction l with
  | nil => rfl
  | cons a rest ih =>
    rw [List.mapM_cons, List.mapM_cons, ← ih]
    cases f a with
    | none => rfl
    | some d =>
      cases rest.mapM f with
      | none => cases hs : g a d <;> simp [hs]
      | some ds =>
        simp only [Option.bind_eq_bind, Option.bind_some, Option.pure_def, List.zip_cons_cons,
          List.mapM_cons]
        cases g a d with
        | none => rfl
        | some s => cases (rest.zip ds).mapM fun p => g p.1 p.2 <;> rfl

theorem answers_of_steady {r : Roster} (h : ∀ c ∈ r.collectors, c.Steady w t) :
    r.answers w t = r.members.mapM fun m => m.1.answer? w t := by
  have hat : ∀ t', (r.describeEach w t).bind (fun ds => (r.collectEach ds w t').map (paired ds)) =
      r.members.mapM fun m => m.1.answer? w t := by
    intro t'
    have hwaves := mapM_waves (fun m : Collector × Snapshot => (m.1.describe.run w t).outcome)
      (fun m d => ((m.1.collect d.1.2).run w t').outcome)
      (fun d s => (⟨d.1.1, d.1.2, s.1⟩ : Answer)) r.members
    refine hwaves.trans (mapM_congr fun m hm => ?_)
    -- for each collector on its own, the instant of collecting does not matter
    refine Option.bind_congr fun d hd => ?_
    have hsame := congrArg (Option.map fun samples => (⟨d.1.1, d.1.2, samples⟩ : Answer))
      (h m.1 (List.mem_map_of_mem hm) d.1 d.2 hd t' t)
    rwa [Option.map_map, Option.map_map] at hsame
  unfold answers
  cases hds : r.describeEach w t with
  | none => rw [← hat t, hds]; rfl
  | some ds =>
    rw [← hat (latest t ds), hds]
    rfl

/-- Elements that add nothing can be left out of a wave. -/
theorem mapM_filter {α β γ : Type} {f : α → Option β} {g : β → List γ} {p : α → Bool} {l : List α}
    (h : ∀ a ∈ l, p a = false → ∃ b, f a = some b ∧ g b = []) :
    ((l.filter p).mapM f).map (List.flatMap g) = (l.mapM f).map (List.flatMap g) := by
  induction l with
  | nil => rfl
  | cons a rest ih =>
    rw [List.forall_mem_cons] at h
    have ih := ih h.2
    cases hp : p a with
    | true =>
      rw [List.filter_cons_of_pos hp, List.mapM_cons, List.mapM_cons]
      cases f a with
      | none => rfl
      | some b => cases hl : (rest.filter p).mapM f <;> cases hr : rest.mapM f <;> simp_all
    | false =>
      obtain ⟨b, hb, hg⟩ := h.1 hp
      rw [List.filter_cons_of_neg (by simp [hp]), ih, List.mapM_cons, hb]
      cases rest.mapM f <;> simp [hg]

/-! ## Scrapes after scrapes -/

theorem yields_collectors (r : Roster) : Session.Yields r.gather fun p => p.2.collectors = r.collectors := by
  refine Session.yields_bind Session.yields_true fun described _ => ?_
  refine Session.yields_bind Session.yields_true fun collected _ => ?_
  refine Session.yields_pure ?_
  have hplaces : r.members.zipIdx.map Prod.fst = r.members := List.zipIdx_map_fst 0 r.members
  calc (r.members.zipIdx.map fun p => (p.1.1, snapshotAt described p.2)).map Prod.fst
      = (r.members.zipIdx.map Prod.fst).map Prod.fst := by rw [List.map_map, List.map_map]; rfl
    _ = r.collectors := by rw [hplaces, collectors]

theorem Gathered.collectors_eq {r r' : Roster} (h : Gathered r r') : r'.collectors = r.collectors := by
  induction h with
  | start => rfl
  | next _ hg ih => rw [yields_collectors _ _ _ _ _ hg, ih]

theorem collectors_without (r : Roster) (names : List String) :
    (r.without names).collectors = r.collectors.filter fun c => c.name ∉ names := by
  unfold collectors without
  rw [List.filter_map]
  rfl

/-- The families of collectors that answer on their own and are steady, whatever they remember. -/
theorem families_of_steady {r : Roster} (h : ∀ c ∈ r.collectors, c.Steady w t) :
    (r.gather.run w t).outcome.map (·.1.1) =
      ((r.collectors.mapM (Collector.answer? · w t)).map (List.flatMap Answer.kept)).map familiesOf := by
  have hg := congrArg (Option.map Prod.fst) (r.outcome_gather w t)
  rw [Option.map_map, Option.map_map, answers_of_steady h] at hg
  unfold collectors
  rw [List.mapM_map, Option.map_map]
  exact hg

end Roster

/-! ## Failing sources -/

/-- A failing source is as if it were absent. Let some of the collectors be sources that fail from `t`
on, each in whatever way, while the others give the same whenever they are asked to collect. Then,
whichever scrapes came before and whatever is remembered of them, the scrape comes to the same
families as one of the roster without the failing collectors, after whichever scrapes of its own. -/
theorem gather_eq_without_failing (r₀ : Roster) (failing : List String) (w : World) (t : Instant)
    (hfails : ∀ c ∈ r₀.collectors, c.name ∈ failing → ∃ (source : Source) (conditions : Conditions),
      c = source.collector conditions ∧ source.Fails conditions.limit w t)
    (hsteady : ∀ c ∈ r₀.collectors, c.name ∉ failing → c.Steady w t)
    (r r' : Roster) (hr : Roster.Gathered r₀ r) (hr' : Roster.Gathered (r₀.without failing) r') :
    (r.gather.run w t).outcome.map (·.1.1) = (r'.gather.run w t).outcome.map (·.1.1) := by
  have hall : ∀ c ∈ r₀.collectors, c.Steady w t := by
    intro c hc
    by_cases hname : c.name ∈ failing
    · obtain ⟨source, conditions, rfl, -⟩ := hfails c hc hname
      exact (Member.source source conditions).steady w t
    · exact hsteady c hc hname
  have hothers : ∀ c ∈ (r₀.without failing).collectors, c.Steady w t := by
    intro c hc
    rw [Roster.collectors_without] at hc
    exact hall c (List.mem_filter.1 hc).1
  rw [Roster.families_of_steady (by rwa [hr.collectors_eq]),
    Roster.families_of_steady (by rwa [hr'.collectors_eq]), hr.collectors_eq, hr'.collectors_eq,
    Roster.collectors_without]
  refine congrArg (Option.map familiesOf) (Roster.mapM_filter fun c hc hname => ?_).symm
  obtain ⟨source, conditions, rfl, hfail⟩ := hfails c hc (by simpa using hname)
  exact ⟨_, answer?_of_fails hfail, rfl⟩

/-- A source that asks the server by a command of its own name and gives one sample of a series. -/
def sourceOf (name help : String) (value : Float) : Source where
  family := name
  fetch := do
    let _ ← Deployment.administer 0 name
    return Batch.ofSamples [Sample.gauge "mongodb_shared" help value {}]
  augment := fun _ => []

/-- A server that answers the commands of these names, and no others. -/
def answering (names : List String) : World where
  connect _ _ := .never
  answer
    | _, _, .command _ body =>
      if (Document.firstKey? body).any names.contains then .after 0 (.ok []) else .never
    | _, _, _ => .never
  wallClock _ := 0
  residentBytes _ := none
  parallelism := none

/-- Two sources that give samples of one series; the limit is of one second. -/
def rivals : List (Member × Snapshot) :=
  [(.source (sourceOf "first" "One reading." 1) ⟨.unknown, .full, 1000000000⟩, none),
   (.source (sourceOf "second" "Another reading." 2) ⟨.unknown, .full, 1000000000⟩, none)]

/-- The first source is read in one scrape and hangs in the next one, when it remembers a sample of
the series that the second source gives too. -/
theorem gather_eq_without_failing_of_rivals : ∃ r, Roster.Gathered (Roster.ofMembers rivals) r ∧
    (r.members.map fun m => m.2.isSome) = [true, true] ∧
    (r.gather.run (answering ["second"]) 7).outcome.map (·.1.1) =
      (((Roster.ofMembers rivals).without ["first"]).gather.run (answering ["second"]) 7).outcome.map
        (·.1.1) := by
  obtain ⟨ready, hg⟩ := Roster.outcome_gather_ofMembers rivals (answering ["first", "second"]) 0
  refine ⟨_, .next .start hg, by decide, ?_⟩
  refine gather_eq_without_failing (Roster.ofMembers rivals) ["first"] (answering ["second"]) 7
    (fun c hc hname => ?_) (fun c hc _ => ?_) _ _ (.next .start hg) .start
  · simp only [Roster.collectors, Roster.ofMembers, rivals, List.map_cons, List.map_nil,
      List.mem_cons, List.not_mem_nil, or_false] at hc
    rcases hc with rfl | rfl
    · exact ⟨_, _, rfl, fun batch ready h => by cases h⟩
    · exact absurd hname (by decide)
  · simp only [Roster.collectors, Roster.ofMembers, List.map_map, List.mem_map] at hc
    obtain ⟨m, -, rfl⟩ := hc
    exact m.1.steady _ _

end MongoMetrics.Scrape
