/-
What the values of sessions are like. `Yields s P` says that whatever the world answers and however
long it takes, a value that the session comes to has the property `P`; nothing is said of sessions
that are never ready. For a request it is the values of success that have the property. `Gives s P`
says in addition that the session always is ready.
-/
import MongoMetrics.Proofs.Server.Answered

namespace MongoMetrics

variable {α β : Type}

namespace Session

/-- In every world and from every instant on, the value has the property. -/
def Yields (s : Session α) (P : α → Prop) : Prop :=
  ∀ w t a ready, (s.run w t).outcome = some (a, ready) → P a

variable {s : Session α} {P : α → Prop} {R : β → Prop}

theorem yields_true : Yields s fun _ => True := fun _ _ _ _ _ => trivial

theorem yields_pure {a : α} (h : P a) : Yields (Pure.pure a : Session α) P := by
  intro w t b ready hr
  rw [run_pure] at hr
  cases hr
  exact h

theorem yields_nil : Yields (Pure.pure [] : Session (List α)) fun l => ∀ a ∈ l, P a :=
  yields_pure fun _ ha => by cases ha

theorem yields_bind {f : α → Session β} (hs : Yields s P) (hf : ∀ a, P a → Yields (f a) R) :
    Yields (s >>= f) R := by
  intro w t b ready hr
  rw [outcome_bind, Option.bind_eq_some_iff] at hr
  obtain ⟨⟨a, t'⟩, ha, hb⟩ := hr
  exact hf a (hs w t a t' ha) w t' b ready hb

/-- A value that comes in time is a value of the session. -/
theorem Yields.of_valueWithin (hs : Yields s P) {limit : Duration} {w : World} {t : Instant} {a : α}
    (h : valueWithin limit s w t = some a) : P a := by
  obtain ⟨ready, ha, -⟩ := valueWithin_eq_some.1 h
  exact hs w t a ready ha

theorem yields_within (hs : Yields s P) (limit : Duration) :
    Yields (within limit s) fun o => ∀ a, o = some a → P a := by
  intro w t o ready hr a ho
  rw [outcome_within] at hr
  cases hr
  exact hs.of_valueWithin ho

theorem yields_forEach {f : α → Session β} {l : List α} (h : ∀ a ∈ l, Yields (f a) R) :
    Yields (forEach f l) fun bs => ∀ b ∈ bs, R b := by
  induction l with
  | nil => exact yields_nil
  | cons a rest ih =>
    rw [List.forall_mem_cons] at h
    refine yields_bind h.1 fun b hb => yields_bind (ih h.2) fun bs hbs => ?_
    exact yields_pure (List.forall_mem_cons.2 ⟨hb, hbs⟩)

/-! ## Sessions that always are ready -/

/-- In every world and from every instant on, the session is ready at some instant, and the value
has the property. -/
def Gives (s : Session α) (P : α → Prop) : Prop :=
  ∀ w t, ∃ a ready, (s.run w t).outcome = some (a, ready) ∧ P a

theorem Gives.yields (h : Gives s P) : Yields s P := by
  intro w t a ready hr
  obtain ⟨b, ready', hb, hPb⟩ := h w t
  rw [hr] at hb
  cases hb
  exact hPb

theorem gives_pure {a : α} (h : P a) : Gives (Pure.pure a : Session α) P :=
  fun _ t => ⟨a, t, rfl, h⟩

theorem gives_bind {f : α → Session β} (hs : Gives s P) (hf : ∀ a, P a → Gives (f a) R) :
    Gives (s >>= f) R := by
  intro w t
  obtain ⟨a, t', ha, hPa⟩ := hs w t
  obtain ⟨b, ready, hb, hRb⟩ := hf a hPa w t'
  exact ⟨b, ready, by rw [run_bind ha, hb], hRb⟩

/-- Under a limit every session is ready. -/
theorem gives_within (s : Session α) (limit : Duration) : Gives (within limit s) fun _ => True :=
  fun _ _ => ⟨_, _, outcome_within limit s, trivial⟩

end Session

namespace Request

/-- In every world and from every instant on, a success has the property. -/
def Yields (r : Request α) (P : α → Prop) : Prop :=
  Session.Yields r.attempt fun x => ∀ a, x = .ok a → P a

variable {r : Request α} {P : α → Prop} {R : β → Prop}

theorem yields_true : Yields r fun _ => True := fun _ _ _ _ _ _ _ => trivial

theorem Yields.mono (h : Yields r P) {Q : α → Prop} (hPQ : ∀ a, P a → Q a) : Yields r Q :=
  fun w t x ready hx a ha => hPQ a (h w t x ready hx a ha)

theorem yields_pure {a : α} (h : P a) : Yields (Pure.pure a : Request α) P := by
  refine Session.yields_pure fun b hb => ?_
  cases hb
  exact h

theorem yields_lift {s : Session α} (h : Session.Yields s P) : Yields (ExceptT.lift s) P := by
  refine Session.yields_bind h fun a ha => Session.yields_pure fun b hb => ?_
  cases hb
  exact ha

theorem yields_bind {f : α → Request β} (hr : Yields r P) (hf : ∀ a, P a → Yields (f a) R) :
    Yields (r >>= f) R := by
  intro w t x ready hx b hb
  subst hb
  cases ho : (r.attempt.run w t).outcome with
  | none =>
    rw [outcome_bind_none ho] at hx
    cases hx
  | some y =>
    obtain ⟨y, t'⟩ := y
    cases y with
    | ok a =>
      rw [outcome_bind_ok ho] at hx
      exact hf a (hr w t _ t' ho a rfl) w t' _ ready hx b rfl
    | error fault =>
      rw [outcome_bind_error ho] at hx
      cases hx

end Request

end MongoMetrics
