/-
Requests to a server that always answers. Such a request comes to one outcome, from whatever instant
on; only the time that it takes may differ (`ComesTo`). What a request in parts comes to is computed
from its parts as `Except` computes, so that the request can be read as a function of what the server
holds.
-/
import MongoMetrics.Proofs.Server.Runs

namespace MongoMetrics.Request

variable {α β : Type} {w : World} {t t' : Instant}

/-! ## One after the other -/

theorem outcome_bind_ok {r : Request α} {f : α → Request β} {a : α}
    (h : (r.attempt.run w t).outcome = some (.ok a, t')) :
    ((r >>= f).attempt.run w t).outcome = ((f a).attempt.run w t').outcome := by
  show ((r.attempt >>= ExceptT.bindCont f).run w t).outcome = _
  rw [Session.outcome_bind, h]
  rfl

theorem outcome_bind_error {r : Request α} {f : α → Request β} {fault : Fault}
    (h : (r.attempt.run w t).outcome = some (.error fault, t')) :
    ((r >>= f).attempt.run w t).outcome = some (.error fault, t') := by
  show ((r.attempt >>= ExceptT.bindCont f).run w t).outcome = _
  rw [Session.outcome_bind, h]
  rfl

/-- Nothing follows a request that never is ready. -/
theorem outcome_bind_none {r : Request α} {f : α → Request β}
    (h : (r.attempt.run w t).outcome = none) : ((r >>= f).attempt.run w t).outcome = none := by
  show ((r.attempt >>= ExceptT.bindCont f).run w t).outcome = _
  rw [Session.outcome_bind, h]
  rfl

/-- A request that ends with a function of another one's success. -/
theorem outcome_map (r : Request α) (g : α → β) :
    ((r >>= fun a => Pure.pure (g a)).attempt.run w t).outcome =
      (r.attempt.run w t).outcome.map fun p => (p.1.map g, p.2) := by
  cases h : (r.attempt.run w t).outcome with
  | none => exact outcome_bind_none h
  | some p =>
    obtain ⟨x, t'⟩ := p
    cases x with
    | ok a => exact outcome_bind_ok h
    | error fault => exact outcome_bind_error h

theorem outcome_ask {client : Client} {c : Call} {delay : Duration} {x : Except Fault c.Answer}
    (h : w.answer client t c = .after delay x) :
    ((ask client c).attempt.run w t).outcome = some (x, t + delay) := by
  show ((Session.ask client c).run w t).outcome = _
  rw [Session.outcome_ask, h]

/-- A session that cannot fail succeeds when it is ready. -/
theorem outcome_lift (s : Session α) : ((attempt (ExceptT.lift s)).run w t).outcome =
    (s.run w t).outcome.map fun r => (Except.ok r.1, r.2) :=
  Session.outcome_map s Except.ok

/-! ## Outcomes that do not depend on time -/

/-- From every instant on, the request is ready at some instant, with this outcome. -/
def ComesTo (w : World) (r : Request α) (x : Except Fault α) : Prop :=
  ∀ t, ∃ ready, (r.attempt.run w t).outcome = some (x, ready)

theorem ComesTo.unique {r : Request α} {x y : Except Fault α} (hx : ComesTo w r x)
    (hy : ComesTo w r y) : x = y := by
  obtain ⟨t', ht⟩ := hx 0
  obtain ⟨t'', ht'⟩ := hy 0
  rw [ht] at ht'
  exact congrArg Prod.fst (Option.some.inj ht')

theorem comesTo_now (x : Except Fault α) : ComesTo w (ExceptT.mk (Session.pure x)) x :=
  fun t => ⟨t, rfl⟩

theorem comesTo_ask {client : Client} {c : Call} {x : Except Fault c.Answer}
    (h : ∀ t, ∃ delay, w.answer client t c = .after delay x) : ComesTo w (ask client c) x := by
  intro t
  obtain ⟨delay, hd⟩ := h t
  exact ⟨t + delay, outcome_ask hd⟩

theorem comesTo_bind {r : Request α} {f : α → Request β} {x : Except Fault α}
    {y : α → Except Fault β} (hr : ComesTo w r x) (hf : ∀ a, x = .ok a → ComesTo w (f a) (y a)) :
    ComesTo w (r >>= f) (x >>= y) := by
  intro t
  obtain ⟨t', ht⟩ := hr t
  cases x with
  | ok a =>
    obtain ⟨ready, hy⟩ := hf a rfl t'
    exact ⟨ready, by rw [outcome_bind_ok ht, hy]; rfl⟩
  | error fault => exact ⟨t', outcome_bind_error ht⟩

/-- The outcome of a request, changed at once. -/
theorem comesTo_attempt {r : Request α} {x : Except Fault α} (hr : ComesTo w r x)
    (g : Except Fault α → Except Fault β) :
    ComesTo w (ExceptT.mk (r.attempt >>= fun y => Pure.pure (g y))) (g x) := by
  intro t
  obtain ⟨ready, ht⟩ := hr t
  refine ⟨ready, ?_⟩
  show ((r.attempt >>= fun y => Pure.pure (g y)).run w t).outcome = _
  rw [Session.outcome_map, ht]
  rfl

theorem comesTo_foldlM {f : β → α → Request β} {g : β → α → Except Fault β} {l : List α}
    (h : ∀ b, ∀ a ∈ l, ComesTo w (f b a) (g b a)) (b : β) : ComesTo w (l.foldlM f b) (l.foldlM g b) := by
  induction l generalizing b with
  | nil => exact comesTo_now (.ok b)
  | cons a rest ih =>
    rw [List.foldlM_cons, List.foldlM_cons]
    refine comesTo_bind (h b a (List.mem_cons_self ..)) fun b' _ => ?_
    exact ih (fun b a ha => h b a (List.mem_cons_of_mem _ ha)) b'

/-- Requests for each element that all succeed. -/
theorem comesTo_forEach {f : α → Request β} {g : α → β} {l : List α}
    (h : ∀ a ∈ l, ComesTo w (f a) (.ok (g a))) : ComesTo w (forEach f l) (.ok (l.map g)) := by
  induction l with
  | nil => exact comesTo_now (.ok [])
  | cons a rest ih =>
    rw [List.forall_mem_cons] at h
    have hrest : ∀ b, ComesTo w (forEach f rest >>= fun bs => Pure.pure (b :: bs))
        (.ok (b :: rest.map g)) := fun b =>
      comesTo_bind (ih h.2) fun bs _ => comesTo_now (.ok (b :: bs))
    exact comesTo_bind h.1 fun b _ => hrest b

end MongoMetrics.Request
