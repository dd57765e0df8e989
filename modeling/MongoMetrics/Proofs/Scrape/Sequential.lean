/-
A scrape as if the collectors answered one after the other. `answers` runs each collector on its own;
`sequential` turns the answers, in the order of registration, into families. Main statement
(`gather_refines_sequential`): side by side, in whatever order the collectors are ready, a scrape
comes to the same; it is ready exactly when every collector is.
-/
import MongoMetrics.Scrape.Roster
import MongoMetrics.Proofs.Family.Grouping
import MongoMetrics.Proofs.Server.Runs

namespace MongoMetrics.Scrape

open MongoMetrics.Session

/-! ## The rule without concurrency -/

/-- What one collector says in a scrape: the shapes, what it remembers, and the samples. -/
structure Answer where
  shapes : List Shape
  snapshot : Snapshot
  samples : List Sample

namespace Answer

/-- The samples whose schema the same collector has described. -/
def kept (a : Answer) : List Sample :=
  a.samples.filter fun s => s.schema ∈ a.shapes.map Shape.schema

end Answer

/-- The families of samples: one sample for each series, one kind for each name. -/
def familiesOf (samples : List Sample) : List Family :=
  Family.byName (Family.agreeing (Sample.collapse samples))

/-- The families of answers in the order of registration. -/
def sequential (answers : List Answer) : List Family := familiesOf (answers.flatMap Answer.kept)

namespace Roster

/-- The descriptions of the collectors, each run on its own. -/
def describeEach (r : Roster) (w : World) (t : Instant) :
    Option (List ((List Shape × Snapshot) × Instant)) :=
  r.members.mapM fun m => (m.1.describe.run w t).outcome

/-- The samples of the collectors, each run on its own, after descriptions. -/
def collectEach (r : Roster) (ds : List ((List Shape × Snapshot) × Instant)) (w : World)
    (t : Instant) : Option (List (List Sample × Instant)) :=
  (r.members.zip ds).mapM fun p => ((p.1.1.collect p.2.1.2).run w t).outcome

/-- Descriptions and samples put together. -/
def paired (ds : List ((List Shape × Snapshot) × Instant)) (cs : List (List Sample × Instant)) :
    List Answer :=
  (ds.zip cs).map fun p => ⟨p.1.1.1, p.1.1.2, p.2.1⟩

/-- What the collectors say: all describe from `t` on, and all collect when the last one has
described. Nothing when one of them is never ready. -/
def answers (r : Roster) (w : World) (t : Instant) : Option (List Answer) :=
  (r.describeEach w t).bind fun ds => (r.collectEach ds w (latest t ds)).map (paired ds)

/-- The roster with the snapshots of answers. -/
def remember (r : Roster) (as : List Answer) : Roster :=
  ⟨(r.members.zip as).map fun p => (p.1.1, p.2.snapshot)⟩

/-! ## Descriptions in any order -/

/-- The descriptions in the order of registration, each with its place. -/
def numbered (ds : List ((List Shape × Snapshot) × Instant)) : List Described :=
  ds.zipIdx.map fun p => ⟨p.2, p.1.1.1, p.1.1.2⟩

theorem find?_of_unique {α : Type} {p : α → Bool} {l : List α} {a : α} (ha : a ∈ l) (hp : p a = true)
    (hu : ∀ b ∈ l, p b = true → b = a) : l.find? p = some a := by
  cases h : l.find? p with
  | none => exact absurd hp (List.find?_eq_none.1 h a ha)
  | some b => rw [hu b (List.mem_of_find?_eq_some h) (List.find?_some h)]

theorem mem_numbered {ds : List ((List Shape × Snapshot) × Instant)} {d : Described} :
    d ∈ numbered ds ↔ ∃ x, ds[d.place]? = some x ∧ d = ⟨d.place, x.1.1, x.1.2⟩ := by
  unfold numbered
  rw [List.mem_map]
  constructor
  · rintro ⟨⟨x, i⟩, hx, rfl⟩
    exact ⟨x, List.mem_zipIdx_iff_getElem?.1 hx, rfl⟩
  · rintro ⟨x, hx, hd⟩
    exact ⟨(x, d.place), List.mem_zipIdx_iff_getElem?.2 hx, hd.symm⟩

/-- A description is found by its place, whatever the order of the descriptions. -/
theorem find?_place {described : List Described} {ds : List ((List Shape × Snapshot) × Instant)}
    (h : described.Perm (numbered ds)) {i : Nat} {x : (List Shape × Snapshot) × Instant}
    (hx : ds[i]? = some x) :
    described.find? (·.place == i) = some ⟨i, x.1.1, x.1.2⟩ := by
  refine find?_of_unique (h.mem_iff.2 (mem_numbered.2 ⟨x, hx, rfl⟩)) (by simp) fun b hb hp => ?_
  obtain ⟨y, hy, hbe⟩ := mem_numbered.1 (h.mem_iff.1 hb)
  have hpl : b.place = i := by simpa using hp
  rw [hpl, hx] at hy
  cases hy
  rw [hbe, hpl]

theorem schemasAt_eq {described : List Described} {ds : List ((List Shape × Snapshot) × Instant)}
    (h : described.Perm (numbered ds)) {i : Nat} {x : (List Shape × Snapshot) × Instant}
    (hx : ds[i]? = some x) : schemasAt described i = x.1.1.map Shape.schema := by
  rw [schemasAt, find?_place h hx]

theorem snapshotAt_eq {described : List Described} {ds : List ((List Shape × Snapshot) × Instant)}
    (h : described.Perm (numbered ds)) {i : Nat} {x : (List Shape × Snapshot) × Instant}
    (hx : ds[i]? = some x) : snapshotAt described i = x.1.2 := by
  rw [snapshotAt, find?_place h hx]

/-- What the collectors remember, read off descriptions in any order. -/
theorem map_snapshotAt {β : Type} {described : List Described}
    {ds : List ((List Shape × Snapshot) × Instant)} (h : described.Perm (numbered ds))
    {members : List (Collector × Snapshot)} (hlen : ds.length = members.length)
    (f : Collector → Snapshot → Nat → β) :
    (members.zipIdx.map fun p => f p.1.1 (snapshotAt described p.2) p.2) =
      (members.zip ds).zipIdx.map fun p => f p.1.1.1 p.1.2.1.2 p.2 := by
  refine List.ext_getElem (by simp [hlen]) fun i hi _ => ?_
  have hd : i < ds.length := by simpa [hlen] using hi
  simp [snapshotAt_eq h (List.getElem?_eq_getElem hd)]

/-! ## Samples in any order -/

theorem zipIdx_snd_ascending {α : Type} : ∀ (l : List α) (n : Nat),
    (l.zipIdx n).Pairwise fun a b => a.2 < b.2
  | [], _ => List.Pairwise.nil
  | a :: rest, n => by
    rw [List.zipIdx_cons, List.pairwise_cons]
    refine ⟨fun p hp => ?_, zipIdx_snd_ascending rest (n + 1)⟩
    have := List.le_snd_of_mem_zipIdx hp
    show n < p.2
    omega

/-- Sorting by place puts the samples back into the order of registration. -/
theorem mergeSort_place {α : Type} {collected : List (Nat × α)} {cs : List α}
    (h : collected.Perm (cs.zipIdx.map fun p => (p.2, p.1))) :
    (collected.mergeSort fun a b => a.1 ≤ b.1) = cs.zipIdx.map fun p => (p.2, p.1) := by
  have hlt : (cs.zipIdx.map fun p => (p.2, p.1)).Pairwise fun a b => a.1 < b.1 :=
    List.pairwise_map.2 (zipIdx_snd_ascending cs 0)
  have hsorted : (collected.mergeSort fun a b => a.1 ≤ b.1).Pairwise fun a b => a.1 ≤ b.1 :=
    ascending_mergeSort Prod.fst collected
  refine List.Perm.eq_of_pairwise (fun a b ha hb hab hba => ?_) hsorted
    (hlt.imp Nat.le_of_lt) ((List.mergeSort_perm _ _).trans h)
  -- two numbered samples with one place are the same
  have hpl : a.1 = b.1 := Nat.le_antisymm hab hba
  have ha' := h.mem_iff.1 (List.mem_mergeSort.1 ha)
  obtain ⟨⟨x, i⟩, hx, rfl⟩ := List.mem_map.1 ha'
  obtain ⟨⟨y, j⟩, hy, rfl⟩ := List.mem_map.1 hb
  cases (show i = j from hpl)
  rw [List.mem_zipIdx_iff_getElem?] at hx hy
  rw [Option.some.inj (hx.symm.trans hy)]

/-- The samples that count, from answers in any order. -/
theorem admitted_eq {described : List Described} {ds : List ((List Shape × Snapshot) × Instant)}
    {collected : List (Nat × List Sample)} {cs : List (List Sample × Instant)}
    (hd : described.Perm (numbered ds))
    (hc : collected.Perm (cs.zipIdx.map fun p => (p.2, p.1.1))) (hlen : cs.length = ds.length) :
    admitted described collected = (paired ds cs).flatMap Answer.kept := by
  have hc' : collected.Perm ((cs.map Prod.fst).zipIdx.map fun p => (p.2, p.1)) := by
    rw [List.zipIdx_map, List.map_map]
    exact hc
  unfold admitted paired
  rw [mergeSort_place hc', List.flatMap_map, List.flatMap_map, List.flatMap_def, List.flatMap_def]
  refine congrArg List.flatten (List.ext_getElem (by simp [hlen]) fun i hi _ => ?_)
  have hi' : i < ds.length := by simpa [hlen] using hi
  simp [Answer.kept, schemasAt_eq hd (List.getElem?_eq_getElem hi')]

/-! ## The two waves -/

variable {w : World} {t : Instant}

theorem outcome_describes (r : Roster) :
    ((Session.race (r.members.zipIdx.map fun p => describeAt p.2 p.1.1)).run w t).outcome =
      (r.describeEach w t).map fun ds =>
        (inOrder (ds.zipIdx.map fun p => (⟨p.2, p.1.1.1, p.1.1.2⟩, p.1.2)), latest t ds) := by
  have h := outcome_race_zipIdx (r.members.map fun m => m.1.describe) w t
    fun i (d : List Shape × Snapshot) => (⟨i, d.1, d.2⟩ : Described)
  rw [List.zipIdx_map, List.map_map, List.mapM_map] at h
  exact h

theorem outcome_collects {described : List Described} {ds : List ((List Shape × Snapshot) × Instant)}
    (h : described.Perm (numbered ds)) {r : Roster} (hlen : ds.length = r.members.length) :
    ((Session.race (r.members.zipIdx.map fun p => collectAt described p.2 p.1.1)).run w t).outcome =
      (r.collectEach ds w t).map fun cs =>
        (inOrder (cs.zipIdx.map fun p => ((p.2, p.1.1), p.1.2)), latest t cs) := by
  have hs := map_snapshotAt h hlen fun c s i => do
    let samples ← c.collect s
    return (i, samples)
  have hr := outcome_race_zipIdx ((r.members.zip ds).map fun p => p.1.1.collect p.2.1.2) w t
    fun i samples => (i, samples)
  rw [List.zipIdx_map, List.map_map, List.mapM_map] at hr
  exact (congrArg (fun l => ((Session.race l).run w t).outcome) hs).trans hr

theorem length_of_collectEach {r : Roster} {ds : List ((List Shape × Snapshot) × Instant)}
    {cs : List (List Sample × Instant)} (h : r.collectEach ds w t = some cs)
    (hlen : ds.length = r.members.length) : cs.length = ds.length := by
  rw [length_of_mapM h, List.length_zip, hlen, Nat.min_self]

/-- The second wave, after descriptions in any order, and what is made of it. -/
theorem outcome_second {described : List Described} {ds : List ((List Shape × Snapshot) × Instant)}
    (hd : described.Perm (numbered ds)) {r : Roster} (hlen : ds.length = r.members.length) :
    (((do
      let collected ← Session.race (r.members.zipIdx.map fun (m, place) =>
        collectAt described place m.1)
      let members := r.members.zipIdx.map fun (m, place) => (m.1, snapshotAt described place)
      return (Family.group (Sample.latest (admitted described collected)), ⟨members⟩)
      : Session (List Family × Roster))).run w t).outcome.map (·.1) =
      ((r.collectEach ds w t).map (paired ds)).map fun as => (sequential as, r.remember as) := by
  rw [outcome_bind, outcome_collects hd hlen]
  cases hcs : r.collectEach ds w t with
  | none => rfl
  | some cs =>
    have hclen := length_of_collectEach hcs hlen
    -- the samples arrive in the order in which they are ready, which their places make up for
    have hc := inOrder_zipIdx_perm cs fun i samples => (i, samples)
    have hmem : (r.members.zipIdx.map fun p => (p.1.1, snapshotAt described p.2)) =
        (r.members.zip (paired ds cs)).map fun p => (p.1.1, p.2.snapshot) := by
      rw [map_snapshotAt hd hlen fun c s _ => (c, s)]
      exact List.ext_getElem (by simp [paired, hclen]) fun i _ _ => by simp [paired]
    simp only [Option.map_some, Option.bind_some, run_pure]
    rw [admitted_eq hd hc hclen, Sample.latest_eq_collapse, Family.group_eq, hmem]
    rfl

/-- A scrape comes to the sequential rule and remembers the snapshots of the answers. -/
theorem outcome_gather (r : Roster) (w : World) (t : Instant) :
    (r.gather.run w t).outcome.map (·.1) =
      (r.answers w t).map fun as => (sequential as, r.remember as) := by
  unfold gather answers
  rw [outcome_bind, outcome_describes]
  cases hds : r.describeEach w t with
  | none => rfl
  | some ds =>
    have hd := inOrder_zipIdx_perm ds fun i d => (⟨i, d.1, d.2⟩ : Described)
    exact outcome_second hd (length_of_mapM hds)

/-- The answers of a roster whose collectors all are known to be ready. -/
theorem answers_of_each {α : Type} {members : List α} {member : α → Collector × Snapshot}
    {answer : α → Answer} (described : α → Instant) (collected : α → Instant → Instant)
    (hd : ∀ a, ((member a).1.describe.run w t).outcome =
      some (((answer a).shapes, (answer a).snapshot), described a))
    (hc : ∀ a ready, (((member a).1.collect (answer a).snapshot).run w ready).outcome =
      some ((answer a).samples, collected a ready)) :
    (⟨members.map member⟩ : Roster).answers w t = some (members.map answer) := by
  have hds : (⟨members.map member⟩ : Roster).describeEach w t = some (members.map fun a =>
      (((answer a).shapes, (answer a).snapshot), described a)) := by
    refine mapM_eq_some_iff.2 ?_
    rw [List.map_map, List.map_map]
    exact List.map_congr_left fun a _ => hd a
  unfold answers
  rw [hds, Option.bind_some]
  generalize latest t _ = ready
  have hcs : (⟨members.map member⟩ : Roster).collectEach (members.map fun a =>
      (((answer a).shapes, (answer a).snapshot), described a)) w ready =
      some (members.map fun a => ((answer a).samples, collected a ready)) := by
    refine mapM_eq_some_iff.2 ?_
    rw [List.zip_map', List.map_map, List.map_map]
    exact List.map_congr_left fun a _ => hc a ready
  rw [hcs, Option.map_some, paired, List.zip_map', List.map_map]
  rfl

end Roster

/-! ## Every timing -/

/-- Families as a scrape must give them. -/
structure Orderly (families : List Family) : Prop where
  ascending : (families.map Family.name).Pairwise (· < ·)
  inhabited : ∀ f ∈ families, f.samples ≠ []
  uniform : ∀ f ∈ families, ∀ s ∈ f.samples, s.name = f.name ∧ s.kind = f.kind
  distinct : ((families.flatMap Family.samples).map Sample.series).Nodup

theorem familiesOf_eq_group (samples : List Sample) :
    familiesOf samples = Family.group (Sample.latest samples) := by
  rw [Family.group_eq, Sample.latest_eq_collapse]
  rfl

theorem orderly_familiesOf (samples : List Sample) : Orderly (familiesOf samples) := by
  rw [familiesOf_eq_group]
  exact ⟨Family.group_names_ascending _, fun _ => Family.group_samples_ne_nil,
    fun _ => Family.group_samples_agree,
    Family.nodup_series_group (Sample.nodup_series_latest _)⟩

theorem orderly_sequential (as : List Answer) : Orderly (sequential as) := orderly_familiesOf _

/-- What a collector will say, whenever it is asked, and how long it takes to say it. -/
structure Plan where
  name : String
  answer : Answer
  describeDelay : Duration
  collectDelay : Duration

/-- The collector that keeps to a plan. -/
def Plan.collector (p : Plan) : Collector where
  name := p.name
  describe := do
    Session.pause p.describeDelay
    return (p.answer.shapes, p.answer.snapshot)
  collect _ := do
    Session.pause p.collectDelay
    return p.answer.samples

namespace Roster

def ofPlans (plans : List Plan) : Roster := ⟨plans.map fun p => (p.collector, none)⟩

theorem answers_ofPlans (plans : List Plan) (w : World) (t : Instant) :
    (ofPlans plans).answers w t = some (plans.map Plan.answer) :=
  answers_of_each (fun p => t + p.describeDelay) (fun p ready => ready + p.collectDelay)
    (fun _ => rfl) fun _ _ => rfl

end Roster

/-- Scrapes do not depend on timing. A scrape comes to the sequential rule over what its collectors
say when each is run on its own; when what they say is fixed, no delays and hence no order in which
they are ready change the families. The families always are orderly. -/
theorem gather_refines_sequential :
    (∀ (r : Roster) (w : World) (t : Instant),
      (r.gather.run w t).outcome.map (·.1.1) = (r.answers w t).map sequential) ∧
    (∀ (plans : List Plan) (w : World) (t : Instant),
      ((Roster.ofPlans plans).gather.run w t).outcome.map (·.1.1) =
        some (sequential (plans.map Plan.answer))) ∧
    ∀ answers : List Answer, Orderly (sequential answers) := by
  have hr : ∀ (r : Roster) (w : World) (t : Instant),
      (r.gather.run w t).outcome.map (·.1.1) = (r.answers w t).map sequential := fun r w t => by
    have h := congrArg (Option.map Prod.fst) (r.outcome_gather w t)
    rw [Option.map_map, Option.map_map] at h
    exact h
  refine ⟨hr, fun plans w t => ?_, orderly_sequential⟩
  rw [hr, Roster.answers_ofPlans]
  rfl

end MongoMetrics.Scrape
