/-
How sessions run: what a session in two parts, one under a limit and sessions side by side come to.
Under a limit every session is ready (`outcome_within`). A race is ready when all its sessions are,
and its values are theirs in some order (`outcome_race`).
-/
import MongoMetrics.Server.Session
import Mathlib.Data.List.Basic

namespace MongoMetrics.Session

variable {α β : Type} {w : World} {t t' : Instant}

/-! ## One after the other -/

@[simp] theorem run_pure (a : α) : (Pure.pure a : Session α).run w t = ⟨some (a, t), []⟩ := rfl

theorem outcome_now (w : World) (t : Instant) : (now.run w t).outcome = some (t, t) := rfl

theorem outcome_unixMillis (w : World) (t : Instant) :
    (unixMillis.run w t).outcome = some (w.wallClock t, t) := rfl

theorem outcome_ask (client : Client) (c : Call) (w : World) (t : Instant) :
    ((ask client c).run w t).outcome =
      match w.answer client t c with
      | .after delay x => some (x, t + delay)
      | .never => none := by
  unfold ask await
  simp only
  cases w.answer client t c <;> rfl

/-- Asking is one event, whether there is an answer or not. -/
theorem events_ask (client : Client) (c : Call) (w : World) (t : Instant) :
    ((ask client c).run w t).events = [(t, .call client c)] := by
  unfold ask await
  simp only
  cases w.answer client t c <;> rfl

theorem run_bind {s : Session α} {f : α → Session β} {a : α} (h : (s.run w t).outcome = some (a, t')) :
    (s >>= f).run w t =
      ⟨((f a).run w t').outcome, (s.run w t).events ++ ((f a).run w t').events⟩ := by
  show (Session.bind s f).run w t = _
  cases hs : s.run w t with
  | mk outcome events =>
    rw [hs] at h
    cases h
    simp only [Session.bind, hs]

theorem run_bind_of_run {s : Session α} {f : α → Session β} {a : α} {events : List (Instant × Event)}
    (h : s.run w t = ⟨some (a, t'), events⟩) :
    (s >>= f).run w t = ⟨((f a).run w t').outcome, events ++ ((f a).run w t').events⟩ := by
  rw [run_bind (congrArg Run.outcome h), h]

/-- After a session that never is ready nothing happens any more. -/
theorem run_bind_none {s : Session α} {f : α → Session β} (h : (s.run w t).outcome = none) :
    (s >>= f).run w t = ⟨none, (s.run w t).events⟩ := by
  show (Session.bind s f).run w t = _
  cases hs : s.run w t with
  | mk outcome events =>
    rw [hs] at h
    cases h
    simp only [Session.bind, hs]

/-- Of a run in two parts, the events of both parts are events of the whole. -/
theorem mem_events_bind_left {s : Session α} {f : α → Session β} {x : Instant × Event}
    (h : x ∈ (s.run w t).events) : x ∈ ((s >>= f).run w t).events := by
  cases ho : (s.run w t).outcome with
  | none => rwa [run_bind_none ho]
  | some r =>
    rw [run_bind ho]
    exact List.mem_append_left _ h

theorem mem_events_bind_right {s : Session α} {f : α → Session β} {x : Instant × Event} {a : α}
    (ha : (s.run w t).outcome = some (a, t')) (h : x ∈ ((f a).run w t').events) :
    x ∈ ((s >>= f).run w t).events := by
  rw [run_bind ha]
  exact List.mem_append_right _ h

theorem outcome_bind (s : Session α) (f : α → Session β) :
    ((s >>= f).run w t).outcome =
      (s.run w t).outcome.bind fun r => ((f r.1).run w r.2).outcome := by
  cases h : (s.run w t).outcome with
  | some r => rw [run_bind h]; rfl
  | none =>
    rw [run_bind_none h]
    rfl

/-- A session that ends with a function of another one's value. -/
theorem run_map (s : Session α) (g : α → β) :
    (s >>= fun a => Pure.pure (g a)).run w t =
      ⟨(s.run w t).outcome.map fun r => (g r.1, r.2), (s.run w t).events⟩ := by
  cases h : (s.run w t).outcome with
  | none => exact run_bind_none h
  | some r =>
    rw [run_bind h, run_pure, List.append_nil]
    rfl

theorem outcome_map (s : Session α) (g : α → β) :
    ((s >>= fun a => Pure.pure (g a)).run w t).outcome =
      (s.run w t).outcome.map fun r => (g r.1, r.2) := congrArg Run.outcome (run_map s g)

/-- Sessions that each end with a function of another one's value. -/
theorem outcome_forEach_map {γ : Type} (f : α → Session β) (g : α → β → γ) : ∀ (l : List α)
    (t : Instant), ((forEach (fun a => f a >>= fun b => Pure.pure (g a b)) l).run w t).outcome =
      ((forEach f l).run w t).outcome.map fun r => ((l.zip r.1).map fun p => g p.1 p.2, r.2)
  | [], _ => rfl
  | a :: rest, t => by
    rw [forEach, forEach, outcome_bind, outcome_map, outcome_bind]
    cases ((f a).run w t).outcome with
    | none => rfl
    | some r =>
      have hrest := outcome_forEach_map f g rest r.2
      simp only [Option.map_some, Option.bind_some, outcome_map, hrest, Option.map_map]
      rfl

/-! ## Under a limit -/

/-- The value of a session that is ready within the limit. -/
def valueWithin (limit : Duration) (s : Session α) (w : World) (t : Instant) : Option α :=
  match (s.run w t).outcome with
  | some (a, t') => if t' ≤ t + limit then some a else none
  | none => none

/-- When a session under a limit is ready. -/
def readyWithin (limit : Duration) (s : Session α) (w : World) (t : Instant) : Instant :=
  match (s.run w t).outcome with
  | some (_, t') => min t' (t + limit)
  | none => t + limit

theorem valueWithin_eq_some {limit : Duration} {s : Session α} {a : α} :
    valueWithin limit s w t = some a ↔
      ∃ ready, (s.run w t).outcome = some (a, ready) ∧ ready ≤ t + limit := by
  unfold valueWithin
  cases (s.run w t).outcome with
  | none => simp
  | some r =>
    obtain ⟨b, ready⟩ := r
    by_cases h : ready ≤ t + limit
    · simp only [if_pos h, Option.some.injEq, Prod.mk.injEq]
      exact ⟨fun hb => ⟨ready, ⟨hb, rfl⟩, h⟩, fun ⟨_, hb, _⟩ => hb.1⟩
    · simp only [if_neg h, Option.some.injEq, Prod.mk.injEq]
      refine ⟨fun hb => (by cases hb), fun ⟨ready', hb, hle⟩ => absurd (hb.2 ▸ hle) h⟩

theorem readyWithin_of_le {limit : Duration} {s : Session α} {a : α}
    (h : (s.run w t).outcome = some (a, t')) (hle : t' ≤ t + limit) :
    readyWithin limit s w t = t' := by
  rw [readyWithin, h]
  exact Nat.min_eq_left hle

/-- A session under a limit always is ready. -/
theorem outcome_within (limit : Duration) (s : Session α) :
    ((within limit s).run w t).outcome =
      some (valueWithin limit s w t, readyWithin limit s w t) := by
  unfold within valueWithin readyWithin
  simp only
  cases (s.run w t).outcome with
  | none => rfl
  | some r =>
    obtain ⟨a, t'⟩ := r
    by_cases h : t' ≤ t + limit
    · simp only [if_pos h, Nat.min_eq_left h]
    · simp only [if_neg h, Nat.min_eq_right (Nat.le_of_not_le h)]

/-! ## Side by side -/

theorem finished_eq_mapM (outcomes : List (Option (α × Instant))) :
    finished outcomes = outcomes.mapM id := by
  induction outcomes with
  | nil => rfl
  | cons o rest ih =>
    cases o with
    | none => rfl
    | some r =>
      rw [finished, ih, List.mapM_cons]
      cases rest.mapM id <;> rfl

/-- The values of a race, in the order in which they are ready. -/
def inOrder (rs : List (α × Instant)) : List α := (rs.mergeSort fun a b => a.2 ≤ b.2).map Prod.fst

theorem inOrder_perm (rs : List (α × Instant)) : (inOrder rs).Perm (rs.map Prod.fst) :=
  (List.mergeSort_perm rs _).map _

/-- Sorting by a number puts the numbers in order. -/
theorem ascending_mergeSort (key : α → Nat) (l : List α) :
    (l.mergeSort fun a b => key a ≤ key b).Pairwise fun a b => key a ≤ key b := by
  have htrans : ∀ a b c : α, decide (key a ≤ key b) = true → decide (key b ≤ key c) = true →
      decide (key a ≤ key c) = true := fun a b c hab hbc => by
    simp only [decide_eq_true_eq] at *
    exact Nat.le_trans hab hbc
  have htotal : ∀ a b : α, (decide (key a ≤ key b) || decide (key b ≤ key a)) = true := fun a b => by
    simpa using Nat.le_total (key a) (key b)
  simpa using List.pairwise_mergeSort htrans htotal l

/-- A race is ready when all its sessions are. -/
theorem outcome_race (sessions : List (Session α)) :
    ((race sessions).run w t).outcome =
      (sessions.mapM fun s : Session α => (s.run w t).outcome).map fun rs => (inOrder rs, latest t rs) := by
  have h : finished ((sessions.map fun s => s.run w t).map (·.outcome)) =
      sessions.mapM fun s : Session α => (s.run w t).outcome := by
    rw [finished_eq_mapM, List.map_map, List.mapM_map]
    rfl
  unfold race
  simp only
  rw [h]
  cases sessions.mapM fun s : Session α => (s.run w t).outcome <;> rfl

/-- All values together: one for each element, in the same order. -/
theorem mapM_eq_some_iff {f : α → Option β} {l : List α} {bs : List β} :
    l.mapM f = some bs ↔ l.map f = bs.map some := by
  induction l generalizing bs with
  | nil =>
    cases bs with
    | nil => simp
    | cons b bs => simp
  | cons a rest ih =>
    rw [List.mapM_cons]
    cases ha : f a with
    | none => cases bs <;> simp [ha]
    | some b =>
      cases hr : rest.mapM f with
      | none =>
        cases bs with
        | nil => simp
        | cons c cs =>
          have : rest.map f ≠ cs.map some := fun h => by rw [ih.2 h] at hr; cases hr
          simp [ha, this]
      | some bs' =>
        cases bs with
        | nil => simp
        | cons c cs =>
          simp only [Option.pure_def, Option.bind_eq_bind, Option.bind_some, Option.some.injEq,
            List.cons.injEq, List.map_cons, ha, ← ih, hr]

theorem mapM_congr {f g : α → Option β} {l : List α} (h : ∀ a ∈ l, f a = g a) :
    l.mapM f = l.mapM g := by
  refine Option.ext fun bs => ?_
  rw [mapM_eq_some_iff, mapM_eq_some_iff, List.map_congr_left h]

theorem length_of_mapM {f : α → Option β} {l : List α} {bs : List β} (h : l.mapM f = some bs) :
    bs.length = l.length := by
  simpa using (congrArg List.length (mapM_eq_some_iff.1 h)).symm

/-- A number put on each value by its session: all values together, each with its number. -/
theorem mapM_zipIdx {γ : Type} (f : α → Option β) (g : Nat → β → γ) : ∀ (l : List α) (n : Nat),
    ((l.zipIdx n).mapM fun p => (f p.1).map (g p.2)) =
      (l.mapM f).map fun bs => (bs.zipIdx n).map fun p => g p.2 p.1
  | [], _ => rfl
  | a :: rest, n => by
    rw [List.zipIdx_cons, List.mapM_cons, List.mapM_cons, mapM_zipIdx f g rest (n + 1)]
    cases f a with
    | none => rfl
    | some b => cases rest.mapM f <;> rfl

theorem latest_zipIdx (g : Nat → α → β) : ∀ (rs : List (α × Instant)) (n : Nat) (t : Instant),
    latest t ((rs.zipIdx n).map fun p => (g p.2 p.1.1, p.1.2)) = latest t rs
  | [], _, _ => rfl
  | r :: rest, n, t => latest_zipIdx g rest (n + 1) (max t r.2)

/-- The values of a race of numbered sessions, in the order of their numbers. -/
theorem inOrder_zipIdx_perm (rs : List (α × Instant)) (g : Nat → α → β) :
    (inOrder (rs.zipIdx.map fun p => (g p.2 p.1.1, p.1.2))).Perm
      (rs.zipIdx.map fun p => g p.2 p.1.1) := by
  refine (inOrder_perm _).trans (List.Perm.of_eq ?_)
  rw [List.map_map]
  rfl

/-- A race of numbered sessions. -/
theorem outcome_race_zipIdx (sessions : List (Session α)) (w : World) (t : Instant)
    (g : Nat → α → β) :
    ((race (sessions.zipIdx.map fun p => p.1 >>= fun a => Pure.pure (g p.2 a))).run w t).outcome =
      (sessions.mapM fun s : Session α => (s.run w t).outcome).map fun rs =>
        (inOrder (rs.zipIdx.map fun p => (g p.2 p.1.1, p.1.2)), latest t rs) := by
  have h : (sessions.zipIdx.mapM fun p =>
      ((p.1 >>= fun a => (Pure.pure (g p.2 a) : Session β)).run w t).outcome) =
      (sessions.mapM fun s : Session α => (s.run w t).outcome).map fun rs =>
        rs.zipIdx.map fun p => (g p.2 p.1.1, p.1.2) := by
    simp only [outcome_map]
    exact mapM_zipIdx (fun s : Session α => (s.run w t).outcome)
      (fun i (r : α × Instant) => (g i r.1, r.2)) sessions 0
  rw [outcome_race, List.mapM_map]
  refine (congrArg (Option.map _) h).trans ?_
  rw [Option.map_map]
  congr 1
  funext rs
  exact congrArg (Prod.mk _) (latest_zipIdx g rs 0 t)

end MongoMetrics.Session
