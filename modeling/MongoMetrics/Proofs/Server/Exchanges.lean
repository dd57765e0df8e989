/-
What a session hears from a server. An exchange is a call with the reply to it; exchanges follow one
another when each call is put once the reply before it is there (`Heard`). The replies may change from
one instant to the next, so the same call can be put twice and be answered differently. `Talks` says of a
session that wherever all its calls are answered, it consists of exchanges and comes to a value that are
related in some way. Sessions for many items talk about one item after the other (`InTurn`).
-/
import MongoMetrics.Proofs.Server.Answered
import MongoMetrics.Proofs.Server.Replies

namespace MongoMetrics

/-- A call with the reply to it. -/
structure Exchange where
  call : Call
  reply : Except Fault call.Answer

/-- What the outside sees of an exchange. -/
def Exchange.event (client : Client) (e : Exchange) : Event := .call client e.call

/-- Exchanges with a server from `t` on, each call being put when the reply before it is there; the last
reply is there at the second instant. -/
inductive Heard (client : Client) (w : World) : Instant → List Exchange → Instant → Prop
  | done {t : Instant} : Heard client w t [] t
  | next {t ready : Instant} {delay : Duration} {c : Call} {x : Except Fault c.Answer}
    {rest : List Exchange} (h : w.answer client t c = .after delay x)
    (hrest : Heard client w (t + delay) rest ready) : Heard client w t (⟨c, x⟩ :: rest) ready

/-- Items in turn: what is exchanged about each, one after the other, and what comes of it. -/
inductive InTurn {α β : Type} (R : α → List Exchange → List β → Prop) :
    List α → List Exchange → List β → Prop
  | nil : InTurn R [] [] []
  | cons {a : α} {rest : List α} {exchanges exchanges' : List Exchange} {found found' : List β}
    (h : R a exchanges found) (hrest : InTurn R rest exchanges' found') :
    InTurn R (a :: rest) (exchanges ++ exchanges') (found ++ found')

variable {α β : Type} {client : Client} {w : World} {t t' ready : Instant}

theorem InTurn.mono {R R' : α → List Exchange → List β → Prop} {items : List α}
    {exchanges : List Exchange} {found : List β} (h : InTurn R items exchanges found)
    (hR : ∀ a exchanges found, R a exchanges found → R' a exchanges found) :
    InTurn R' items exchanges found := by
  induction h with
  | nil => exact .nil
  | cons h _ ih => exact .cons (hR _ _ _ h) ih

/-- What comes of the items comes of one of them each, and is exchanged without interruption. -/
theorem InTurn.exists_of_mem {R : α → List Exchange → List β → Prop} {items : List α}
    {exchanges : List Exchange} {found : List β} (h : InTurn R items exchanges found) {b : β}
    (hb : b ∈ found) : ∃ a ∈ items, ∃ own part, R a own part ∧ own <:+: exchanges ∧ b ∈ part := by
  induction h with
  | nil => cases hb
  | @cons a rest own _ part _ h _ ih =>
    rcases List.mem_append.1 hb with hb | hb
    · exact ⟨a, List.mem_cons_self .., own, part, h, ⟨[], _, rfl⟩, hb⟩
    · obtain ⟨a', ha, own', part', h', hown, hb⟩ := ih hb
      exact ⟨a', List.mem_cons_of_mem _ ha, own', part', h', hown.trans (List.suffix_append ..).isInfix, hb⟩

/-- Where it can be told which item something comes of, what comes of one of different items is found by
asking for it. -/
theorem InTurn.exists_filter {R : α → List Exchange → List β → Prop} {items : List α}
    {exchanges : List Exchange} {found : List β} (h : InTurn R items exchanges found)
    (hnodup : items.Nodup) {p : α → β → Bool}
    (hp : ∀ a own part, R a own part → ∀ b ∈ part, ∀ a', p a' b = true ↔ a = a') {a : α} (ha : a ∈ items) :
    ∃ own, own <:+: exchanges ∧ R a own (found.filter (p a)) := by
  induction h with
  | nil => cases ha
  | @cons first rest own exchanges' part found' h hrest ih =>
    obtain ⟨hfirst, hnodup⟩ := List.nodup_cons.1 hnodup
    rw [List.filter_append]
    rcases List.mem_cons.1 ha with rfl | ha
    · -- all of the first part is found, and nothing of the others, which come of other items
      have hpart : part.filter (p a) = part :=
        List.filter_eq_self.2 fun b hb => (hp a own part h b hb a).2 rfl
      have hothers : found'.filter (p a) = [] := by
        refine List.filter_eq_nil_iff.2 fun b hb hpa => ?_
        obtain ⟨a', ha', own', part', h', -, hb⟩ := hrest.exists_of_mem hb
        exact hfirst ((hp a' own' part' h' b hb a).1 hpa ▸ ha')
      rw [hpart, hothers, List.append_nil]
      exact ⟨own, ⟨[], _, rfl⟩, h⟩
    · have hpart : part.filter (p a) = [] := by
        refine List.filter_eq_nil_iff.2 fun b hb hpa => ?_
        exact hfirst ((hp first own part h b hb a).1 hpa ▸ ha)
      obtain ⟨own', hown, h'⟩ := ih hnodup ha
      rw [hpart, List.nil_append]
      exact ⟨own', hown.trans (List.suffix_append ..).isInfix, h'⟩

namespace Heard

variable {exchanges exchanges' : List Exchange}

theorem append (h : Heard client w t exchanges t') (h' : Heard client w t' exchanges' ready) :
    Heard client w t (exchanges ++ exchanges') ready := by
  induction h with
  | done => exact h'
  | next hanswer _ ih => exact .next hanswer (ih h')

/-- Each exchange took place at some instant. -/
theorem exists_answer (h : Heard client w t exchanges ready) {e : Exchange} (he : e ∈ exchanges) :
    ∃ t delay, w.answer client t e.call = .after delay e.reply := by
  induction h with
  | done => cases he
  | next hanswer _ ih =>
    rcases List.mem_cons.1 he with rfl | he
    · exact ⟨_, _, hanswer⟩
    · exact ih he

end Heard

namespace Session

variable {s : Session α}

/-! ## Sessions made of exchanges -/

/-- From `t` on the session consists of these exchanges and comes to this value with the last reply. -/
structure Conducts (client : Client) (w : World) (s : Session α) (t : Instant)
    (exchanges : List Exchange) (a : α) (ready : Instant) : Prop where
  heard : Heard client w t exchanges ready
  outcome : (s.run w t).outcome = some (a, ready)
  events : (s.run w t).events.map Prod.snd = exchanges.map (Exchange.event client)

theorem conducts_pure (a : α) (w : World) (t : Instant) :
    Conducts client w (Pure.pure a : Session α) t [] a t := ⟨.done, rfl, rfl⟩

theorem conducts_ask {c : Call} {delay : Duration} {x : Except Fault c.Answer}
    (h : w.answer client t c = .after delay x) :
    Conducts client w (ask client c) t [⟨c, x⟩] x (t + delay) :=
  ⟨.next h .done, by rw [outcome_ask, h], by rw [events_ask]; rfl⟩

theorem Conducts.bind {f : α → Session β} {exchanges exchanges' : List Exchange} {a : α} {b : β}
    (hs : Conducts client w s t exchanges a t') (hf : Conducts client w (f a) t' exchanges' b ready) :
    Conducts client w (s >>= f) t (exchanges ++ exchanges') b ready := by
  refine ⟨hs.heard.append hf.heard, ?_, ?_⟩
  · rw [run_bind hs.outcome, hf.outcome]
  · rw [run_bind hs.outcome, List.map_append, List.map_append, hs.events, hf.events]

/-! ## Sessions whose calls are answered -/

/-- Of a run in two parts the calls of the first one are answered, and those of the second one if it
begins. -/
theorem Answered.first {f : α → Session β} (h : Answered client w ((s >>= f).run w t)) :
    Answered client w (s.run w t) :=
  fun t' c hmem => h t' c (mem_events_bind_left hmem)

theorem Answered.second {f : α → Session β} {a : α} (h : Answered client w ((s >>= f).run w t))
    (ha : (s.run w t).outcome = some (a, t')) : Answered client w ((f a).run w t') :=
  fun t'' c hmem => h t'' c (mem_events_bind_right ha hmem)

/-- Wherever all calls of a run are answered, it consists of exchanges and comes to a value that are
related by `R`. -/
def Talks (client : Client) (s : Session α) (R : List Exchange → α → Prop) : Prop :=
  ∀ w t, Answered client w (s.run w t) →
    ∃ exchanges a ready, Conducts client w s t exchanges a ready ∧ R exchanges a

theorem Talks.mono {R R' : List Exchange → α → Prop} (h : Talks client s R)
    (hR : ∀ exchanges a, R exchanges a → R' exchanges a) : Talks client s R' := by
  intro w t hanswered
  obtain ⟨exchanges, a, ready, hrun, ha⟩ := h w t hanswered
  exact ⟨exchanges, a, ready, hrun, hR exchanges a ha⟩

theorem talks_pure {a : α} {R : List Exchange → α → Prop} (h : R [] a) :
    Talks client (Pure.pure a : Session α) R :=
  fun w t _ => ⟨[], a, t, conducts_pure a w t, h⟩

theorem talks_ask {c : Call} {R : List Exchange → Except Fault c.Answer → Prop}
    (h : ∀ x, R [⟨c, x⟩] x) : Talks client (ask client c) R := by
  intro w t hanswered
  obtain ⟨delay, x, hx⟩ := hanswered t c (by rw [events_ask]; exact List.mem_singleton.2 rfl)
  exact ⟨_, x, t + delay, conducts_ask hx, h x⟩

theorem talks_bind {f : α → Session β} {R : List Exchange → α → Prop} {R' : List Exchange → β → Prop}
    (hs : Talks client s R)
    (hf : ∀ exchanges a, R exchanges a → Talks client (f a) fun more b => R' (exchanges ++ more) b) :
    Talks client (s >>= f) R' := by
  intro w t hanswered
  obtain ⟨exchanges, a, t', hfirst, hR⟩ := hs w t hanswered.first
  obtain ⟨more, b, ready, hsecond, hR'⟩ := hf exchanges a hR w t' (hanswered.second hfirst.outcome)
  exact ⟨exchanges ++ more, b, ready, hfirst.bind hsecond, hR'⟩

/-- Sessions for all items talk about them in turn. -/
theorem talks_forEach {f : α → Session (List β)} {R : α → List Exchange → List β → Prop} {l : List α}
    (h : ∀ a ∈ l, Talks client (f a) (R a)) :
    Talks client (forEach f l) fun exchanges found => InTurn R l exchanges found.flatten := by
  induction l with
  | nil => exact talks_pure .nil
  | cons a rest ih =>
    rw [List.forall_mem_cons] at h
    refine talks_bind h.1 fun exchanges found hfound => ?_
    refine talks_bind (ih h.2) fun exchanges' found' hrest => talks_pure ?_
    rw [List.append_nil, List.flatten_cons]
    exact .cons hfound hrest

/-! ## Sessions that need only answers -/

/-- The session is ready wherever all its calls are answered. -/
def Responds (client : Client) (s : Session α) : Prop :=
  ∀ w t, Answered client w (s.run w t) → ∃ a ready, (s.run w t).outcome = some (a, ready)

theorem responds_pure (a : α) : Responds client (Pure.pure a : Session α) := fun _ t _ => ⟨a, t, rfl⟩

theorem responds_ask (c : Call) : Responds client (ask client c) := by
  intro w t hanswered
  obtain ⟨delay, x, hx⟩ := hanswered t c (by rw [events_ask]; exact List.mem_singleton.2 rfl)
  exact ⟨x, t + delay, by rw [outcome_ask, hx]⟩

theorem Responds.bind {f : α → Session β} (hs : Responds client s) (hf : ∀ a, Responds client (f a)) :
    Responds client (s >>= f) := by
  intro w t hanswered
  obtain ⟨a, t', ha⟩ := hs w t hanswered.first
  obtain ⟨b, ready, hb⟩ := hf a w t' (hanswered.second ha)
  exact ⟨b, ready, by rw [run_bind ha, hb]⟩

theorem responds_forEach {f : α → Session β} (h : ∀ a, Responds client (f a)) (l : List α) :
    Responds client (forEach f l) := by
  induction l with
  | nil => exact responds_pure []
  | cons a rest ih => exact (h a).bind fun b => ih.bind fun bs => responds_pure (b :: bs)

end Session

/-! ## Requests in two parts -/

namespace Request

open Session (Responds)

variable {r : Request α} {f : α → Request β}

theorem responds_bind (hr : Responds client r.attempt) (hf : ∀ a, Responds client (f a).attempt) :
    Responds client (r >>= f).attempt := by
  refine Session.Responds.bind hr fun x => ?_
  cases x with
  | ok a => exact hf a
  | error fault => exact Session.responds_pure (Except.error fault)

theorem responds_foldlM {f : β → α → Request β} (h : ∀ b a, Responds client (f b a).attempt)
    (l : List α) (b : β) : Responds client (l.foldlM f b).attempt := by
  induction l generalizing b with
  | nil => exact Session.responds_pure (Except.ok b)
  | cons a rest ih =>
    rw [List.foldlM_cons]
    exact responds_bind (h b a) ih

theorem run_bind_ok {a : α} (h : (r.attempt.run w t).outcome = some (.ok a, t')) :
    (r >>= f).attempt.run w t =
      ⟨((f a).attempt.run w t').outcome, (r.attempt.run w t).events ++ ((f a).attempt.run w t').events⟩ :=
  Session.run_bind (f := ExceptT.bindCont f) h

/-- After a failure nothing is asked any more. -/
theorem run_bind_error {fault : Fault} (h : (r.attempt.run w t).outcome = some (.error fault, t')) :
    (r >>= f).attempt.run w t = ⟨some (.error fault, t'), (r.attempt.run w t).events⟩ := by
  show (r.attempt >>= ExceptT.bindCont f).run w t = _
  rw [Session.run_bind h]
  show Run.mk _ ((r.attempt.run w t).events ++ []) = _
  rw [List.append_nil]
  rfl

theorem conducts_bind {exchanges exchanges' : List Exchange} {a : α} {x : Except Fault β}
    (hr : Session.Conducts client w r.attempt t exchanges (.ok a) t')
    (hf : Session.Conducts client w (f a).attempt t' exchanges' x ready) :
    Session.Conducts client w (r >>= f).attempt t (exchanges ++ exchanges') x ready :=
  Session.Conducts.bind (f := ExceptT.bindCont f) hr hf

/-- A request that ends with a function of another one's value. -/
theorem conducts_map {exchanges : List Exchange} {a : α}
    (hr : Session.Conducts client w r.attempt t exchanges (.ok a) ready) (g : α → β) :
    Session.Conducts client w (r >>= fun a => Pure.pure (g a)).attempt t exchanges (.ok (g a)) ready := by
  have h := conducts_bind (f := fun a => Pure.pure (g a)) hr
    (Session.conducts_pure (Except.ok (g a)) w ready)
  rwa [List.append_nil] at h

/-- After a failure there are no more exchanges. -/
theorem conducts_bind_error {exchanges : List Exchange} {fault : Fault}
    (hr : Session.Conducts client w r.attempt t exchanges (.error fault) ready) :
    Session.Conducts client w (r >>= f).attempt t exchanges (.error fault) ready := by
  have hrun := run_bind_error (f := f) hr.outcome
  exact ⟨hr.heard, by rw [hrun], by rw [hrun]; exact hr.events⟩

/-- A session that cannot fail, and then a request. -/
theorem attempt_lift_bind (s : Session α) (f : α → Request β) :
    attempt (ExceptT.lift s >>= f) = s >>= fun a => (f a).attempt := by
  refine congrArg Session.mk (funext fun w => funext fun t => ?_)
  show (attempt (ExceptT.lift s >>= f)).run w t = (s >>= fun a => (f a).attempt).run w t
  have hlift : (attempt (ExceptT.lift s)).run w t =
      ⟨(s.run w t).outcome.map fun r => (Except.ok r.1, r.2), (s.run w t).events⟩ :=
    Session.run_map s Except.ok
  cases h : (s.run w t).outcome with
  | none =>
    rw [Session.run_bind_none h]
    rw [h] at hlift
    exact (Session.run_bind_none (congrArg Run.outcome hlift)).trans (by rw [hlift])
  | some r =>
    rw [Session.run_bind h]
    rw [h] at hlift
    rw [run_bind_ok (congrArg Run.outcome hlift), hlift]

end Request

end MongoMetrics
