/-
What a session lets the outside see. `Confined P s` says that in every world the events of the session
all are of one kind, lie between its beginning and the instant at which it is ready, and come in the
order of time. Every way to put sessions together keeps this, sessions side by side and sessions cut
off at a limit as well. `Opens e P s` says that the session begins with an event and that the others
are of one kind.
-/
import MongoMetrics.Proofs.Server.Yields

namespace MongoMetrics

variable {α β : Type}

namespace Session

/-- Events of one kind in the order of time, from `t` on and up to the instant at which the run is
ready. -/
structure ConfinedRun (P : Event → Prop) (t : Instant) (r : Run α) : Prop where
  kind : ∀ x ∈ r.events, P x.2
  ordered : r.events.Pairwise fun a b => a.1 ≤ b.1
  notBefore : ∀ x ∈ r.events, t ≤ x.1
  notAfter : ∀ a ready, r.outcome = some (a, ready) → t ≤ ready ∧ ∀ x ∈ r.events, x.1 ≤ ready

/-- In every world and from every instant on, the events are confined to one kind. -/
def Confined (P : Event → Prop) (s : Session α) : Prop := ∀ w t, ConfinedRun P t (s.run w t)

variable {P : Event → Prop} {s : Session α} {w : World} {t : Instant}

theorem Confined.mono {Q : Event → Prop} (h : Confined P s) (hPQ : ∀ e, P e → Q e) : Confined Q s :=
  fun w t => { h w t with kind := fun x hx => hPQ x.2 ((h w t).kind x hx) }

/-! ## Single steps -/

/-- A run without events. -/
theorem confinedRun_silent {o : Option (α × Instant)}
    (h : ∀ a ready, o = some (a, ready) → t ≤ ready) : ConfinedRun P t ⟨o, []⟩ where
  kind _ hx := by cases hx
  ordered := .nil
  notBefore _ hx := by cases hx
  notAfter a ready hr := ⟨h a ready hr, fun _ hx => by cases hx⟩

/-- A session that only reads something of the world. -/
theorem confined_atOnce (f : World → Instant → α) : Confined P ⟨fun w t => ⟨some (f w t, t), []⟩⟩ := by
  intro w t
  refine confinedRun_silent fun a ready hr => ?_
  cases hr
  exact Nat.le_refl t

theorem confined_pure (a : α) : Confined P (Pure.pure a : Session α) := confined_atOnce fun _ _ => a

/-- A run with one event, at its beginning. -/
theorem confinedRun_single {o : Option (α × Instant)} {e : Event} (he : P e)
    (h : ∀ a ready, o = some (a, ready) → t ≤ ready) : ConfinedRun P t ⟨o, [(t, e)]⟩ where
  kind _ hx := by rw [List.mem_singleton.1 hx]; exact he
  ordered := List.pairwise_singleton _ _
  notBefore x hx := by
    cases List.mem_singleton.1 hx
    exact Nat.le_refl t
  notAfter a ready hr := ⟨h a ready hr, fun _ hx => by rw [List.mem_singleton.1 hx]; exact h a ready hr⟩

theorem confined_await {e : Event} (he : P e) (respond : World → Instant → Response α) :
    Confined P (await e respond) := by
  intro w t
  unfold await
  simp only
  cases respond w t with
  | never => exact confinedRun_single he fun a ready hr => by cases hr
  | after delay a =>
    refine confinedRun_single he fun b ready hr => ?_
    cases hr
    exact Nat.le_add_right t delay

theorem confined_shutdown {client : Client} (h : P (.shutdown client)) : Confined P (shutdown client) := by
  intro w t
  refine confinedRun_single h fun a ready hr => ?_
  cases hr
  exact Nat.le_refl t

/-! ## One after the other -/

/-- A confined session and then one that is confined for each value that the first one can have. -/
theorem Confined.bind_of_yields {Q : α → Prop} {f : α → Session β} (hs : Confined P s) (hQ : Yields s Q)
    (hf : ∀ a, Q a → Confined P (f a)) : Confined P (s >>= f) := by
  intro w t
  cases ho : (s.run w t).outcome with
  | none =>
    rw [run_bind_none ho]
    exact ⟨(hs w t).kind, (hs w t).ordered, (hs w t).notBefore, fun a ready hr => by cases hr⟩
  | some r =>
    obtain ⟨a, t'⟩ := r
    rw [run_bind ho]
    obtain ⟨hle, hbefore⟩ := (hs w t).notAfter a t' ho
    have hnext := hf a (hQ w t a t' ho) w t'
    refine ⟨fun x hx => ?_, ?_, fun x hx => ?_, fun b ready hr => ?_⟩
    · rcases List.mem_append.1 hx with hx | hx
      · exact (hs w t).kind x hx
      · exact hnext.kind x hx
    · -- the first session is ready before the next one begins
      refine List.pairwise_append.2 ⟨(hs w t).ordered, hnext.ordered, fun x hx y hy => ?_⟩
      exact Nat.le_trans (hbefore x hx) (hnext.notBefore y hy)
    · rcases List.mem_append.1 hx with hx | hx
      · exact (hs w t).notBefore x hx
      · exact Nat.le_trans hle (hnext.notBefore x hx)
    · obtain ⟨hle', hafter⟩ := hnext.notAfter b ready hr
      refine ⟨Nat.le_trans hle hle', fun x hx => ?_⟩
      rcases List.mem_append.1 hx with hx | hx
      · exact Nat.le_trans (hbefore x hx) hle'
      · exact hafter x hx

theorem Confined.bind {f : α → Session β} (hs : Confined P s) (hf : ∀ a, Confined P (f a)) :
    Confined P (s >>= f) :=
  hs.bind_of_yields yields_true fun a _ => hf a

theorem confined_forEach {f : α → Session β} (h : ∀ a, Confined P (f a)) (l : List α) :
    Confined P (forEach f l) := by
  induction l with
  | nil => exact confined_pure []
  | cons a rest ih => exact (h a).bind fun b => ih.bind fun bs => confined_pure (b :: bs)

/-! ## Under a limit -/

/-- What a session under a limit lets see: its events up to the limit. -/
theorem events_within (limit : Duration) (s : Session α) (h : ConfinedRun P t (s.run w t)) :
    ((within limit s).run w t).events = (s.run w t).events.filter fun x => x.1 ≤ t + limit := by
  unfold within
  simp only
  cases ho : (s.run w t).outcome with
  | none => rfl
  | some r =>
    obtain ⟨a, t'⟩ := r
    by_cases hle : t' ≤ t + limit
    · simp only [if_pos hle]
      refine (List.filter_eq_self.2 fun x hx => ?_).symm
      have := (h.notAfter a t' ho).2 x hx
      exact decide_eq_true (Nat.le_trans this hle)
    · simp only [if_neg hle]

theorem Confined.within (h : Confined P s) (limit : Duration) : Confined P (within limit s) := by
  intro w t
  have hrun := h w t
  refine ⟨fun x hx => ?_, ?_, fun x hx => ?_, fun o ready hr => ?_⟩
  · rw [events_within limit s hrun] at hx
    exact hrun.kind x (List.mem_filter.1 hx).1
  · rw [events_within limit s hrun]
    exact hrun.ordered.filter _
  · rw [events_within limit s hrun] at hx
    exact hrun.notBefore x (List.mem_filter.1 hx).1
  · rw [outcome_within] at hr
    cases hr
    rw [events_within limit s hrun]
    unfold readyWithin
    cases ho : (s.run w t).outcome with
    | none =>
      refine ⟨Nat.le_add_right t limit, fun x hx => ?_⟩
      simpa using (List.mem_filter.1 hx).2
    | some r =>
      obtain ⟨a, t'⟩ := r
      obtain ⟨hle, hafter⟩ := hrun.notAfter a t' ho
      refine ⟨Nat.le_min.2 ⟨hle, Nat.le_add_right t limit⟩, fun x hx => ?_⟩
      obtain ⟨hx, hlimit⟩ := List.mem_filter.1 hx
      exact Nat.le_min.2 ⟨hafter x hx, by simpa using hlimit⟩

/-! ## Side by side -/

theorem le_latest (t : Instant) (rs : List (α × Instant)) :
    t ≤ latest t rs ∧ ∀ r ∈ rs, r.2 ≤ latest t rs := by
  induction rs generalizing t with
  | nil => exact ⟨Nat.le_refl t, fun _ hr => by cases hr⟩
  | cons r rest ih =>
    obtain ⟨hmax, hrest⟩ := ih (max t r.2)
    refine ⟨Nat.le_trans (Nat.le_max_left ..) hmax, fun r' hr' => ?_⟩
    rcases List.mem_cons.1 hr' with rfl | hr'
    · exact Nat.le_trans (Nat.le_max_right ..) hmax
    · exact hrest r' hr'

theorem events_race (sessions : List (Session α)) :
    ((race sessions).run w t).events =
      ((sessions.map fun s => s.run w t).flatMap (·.events)).mergeSort fun a b => a.1 ≤ b.1 := by
  unfold race
  simp only
  cases finished ((sessions.map fun s => s.run w t).map (·.outcome)) <;> rfl

theorem mem_events_race {sessions : List (Session α)} {x : Instant × Event} :
    x ∈ ((race sessions).run w t).events ↔ ∃ s ∈ sessions, x ∈ (s.run w t).events := by
  rw [events_race, List.mem_mergeSort, List.flatMap_map, List.mem_flatMap]

theorem confined_race {sessions : List (Session α)} (h : ∀ s ∈ sessions, Confined P s) :
    Confined P (race sessions) := by
  intro w t
  refine ⟨fun x hx => ?_, ?_, fun x hx => ?_, fun values ready hr => ?_⟩
  · obtain ⟨s, hs, hx⟩ := mem_events_race.1 hx
    exact (h s hs w t).kind x hx
  · rw [events_race]
    exact ascending_mergeSort (fun x : Instant × Event => x.1) _
  · obtain ⟨s, hs, hx⟩ := mem_events_race.1 hx
    exact (h s hs w t).notBefore x hx
  · rw [outcome_race, Option.map_eq_some_iff] at hr
    obtain ⟨rs, hrs, hr⟩ := hr
    cases hr
    refine ⟨(le_latest t rs).1, fun x hx => ?_⟩
    obtain ⟨s, hs, hx⟩ := mem_events_race.1 hx
    -- a race that is ready has waited for this session too
    have hmem : (s.run w t).outcome ∈ rs.map some := by
      rw [← mapM_eq_some_iff.1 hrs]
      exact List.mem_map_of_mem hs
    obtain ⟨⟨a, t'⟩, hr, hs'⟩ := List.mem_map.1 hmem
    exact Nat.le_trans (((h s hs w t).notAfter a t' hs'.symm).2 x hx) ((le_latest t rs).2 _ hr)

/-! ## Beginnings -/

/-- In every world the session begins with the event `e` at once, and all its other events are of one
kind. -/
structure Opens (e : Event) (P : Event → Prop) (s : Session α) : Prop where
  confined : Confined (fun x => x = e ∨ P x) s
  first : ∀ w t, ∃ rest, (s.run w t).events = (t, e) :: rest ∧ ∀ x ∈ rest, P x.2

variable {e : Event}

theorem opens_await (e : Event) (respond : World → Instant → Response α) :
    Opens e P (await e respond) where
  confined := confined_await (.inl rfl) respond
  first w t := by
    refine ⟨[], ?_, fun x hx => by cases hx⟩
    unfold await
    simp only
    cases respond w t <;> rfl

theorem Opens.bind {f : α → Session β} (hs : Opens e P s) (hf : ∀ a, Confined P (f a)) :
    Opens e P (s >>= f) where
  confined := hs.confined.bind fun a => (hf a).mono fun _ => .inr
  first w t := by
    obtain ⟨rest, hevents, hrest⟩ := hs.first w t
    cases ho : (s.run w t).outcome with
    | none => exact ⟨rest, by rw [run_bind_none ho, hevents], hrest⟩
    | some r =>
      obtain ⟨a, t'⟩ := r
      refine ⟨rest ++ ((f a).run w t').events, by rw [run_bind ho, hevents]; rfl, fun x hx => ?_⟩
      rcases List.mem_append.1 hx with hx | hx
      · exact hrest x hx
      · exact (hf a w t').kind x hx

theorem Opens.within (hs : Opens e P s) (limit : Duration) : Opens e P (within limit s) where
  confined := hs.confined.within limit
  first w t := by
    obtain ⟨rest, hevents, hrest⟩ := hs.first w t
    refine ⟨rest.filter fun x => x.1 ≤ t + limit, ?_, fun x hx => hrest x (List.mem_filter.1 hx).1⟩
    rw [events_within limit s (hs.confined w t), hevents]
    exact List.filter_cons_of_pos (decide_eq_true (Nat.le_add_right t limit))

end Session

namespace Request

/-- The events of the request are confined to one kind. -/
def Confined (P : Event → Prop) (r : Request α) : Prop := Session.Confined P r.attempt

variable {P : Event → Prop} {r : Request α}

theorem Confined.mono {Q : Event → Prop} (h : Confined P r) (hPQ : ∀ e, P e → Q e) : Confined Q r :=
  Session.Confined.mono h hPQ

theorem confined_now (x : Except Fault α) : Confined P (ExceptT.mk (Session.pure x)) :=
  Session.confined_pure x

theorem confined_pure (a : α) : Confined P (Pure.pure a : Request α) := confined_now (.ok a)

theorem confined_lift {s : Session α} (h : Session.Confined P s) : Confined P (ExceptT.lift s) :=
  h.bind fun a => Session.confined_pure (Except.ok a)

theorem confined_ask {client : Client} {c : Call} (h : P (.call client c)) :
    Confined P (ask client c) :=
  Session.confined_await h _

theorem Confined.bind {f : α → Request β} (hr : Confined P r) (hf : ∀ a, Confined P (f a)) :
    Confined P (r >>= f) := by
  refine Session.Confined.bind hr fun x => ?_
  cases x with
  | ok a => exact hf a
  | error fault => exact Session.confined_pure (Except.error fault)

theorem confined_foldlM {f : β → α → Request β} (h : ∀ b a, Confined P (f b a)) (l : List α) (b : β) :
    Confined P (l.foldlM f b) := by
  induction l generalizing b with
  | nil => exact confined_pure b
  | cons a rest ih =>
    rw [List.foldlM_cons]
    exact (h b a).bind ih

theorem confined_forEach {f : α → Request β} (h : ∀ a, Confined P (f a)) (l : List α) :
    Confined P (forEach f l) := by
  induction l with
  | nil => exact confined_pure []
  | cons a rest ih => exact (h a).bind fun b => ih.bind fun bs => confined_pure (b :: bs)

end Request

end MongoMetrics
