/-
Sessions with one server, as its replies decide them. `Follows` says of a session that with these
replies it puts these questions, in order, and comes to this value, however long the server takes for
each. Sessions one after the other put their questions one after the other (`Follows.bind`).
-/
import MongoMetrics.Proofs.Server.Runs
import Mathlib.Data.List.Nodup
import Mathlib.Tactic.Choose

namespace MongoMetrics

/-- What a server replies to each call. -/
abbrev Replies := (c : Call) → Except Fault c.Answer

namespace Session

variable {α β : Type} {replies : Replies} {client : Client} {w : World} {t : Instant}

/-- The server answers each call of the run so, after some delay. -/
def Agrees (replies : Replies) (client : Client) (w : World) (r : Run α) : Prop :=
  ∀ t c, (t, Event.call client c) ∈ r.events → ∃ delay, w.answer client t c = .after delay (replies c)

/-- Wherever a run agrees with the replies, it puts these questions and comes to this value. -/
def Follows (replies : Replies) (client : Client) (s : Session α) (asked : List Call) (a : α) : Prop :=
  ∀ w t, Agrees replies client w (s.run w t) → ∃ ready, (s.run w t).outcome = some (a, ready) ∧
    (s.run w t).events.map Prod.snd = asked.map (Event.call client)

theorem follows_pure (a : α) : Follows replies client (Pure.pure a) [] a := fun _ t _ => ⟨t, rfl, rfl⟩

theorem follows_ask (c : Call) : Follows replies client (ask client c) [c] (replies c) := by
  intro w t h
  obtain ⟨delay, hanswer⟩ := h t c (by rw [events_ask]; exact List.mem_singleton.2 rfl)
  exact ⟨t + delay, by rw [outcome_ask, hanswer], by rw [events_ask]; rfl⟩

/-- Of a run in two parts the first one agrees, and so does the second one if it begins. -/
theorem Agrees.first {s : Session α} {f : α → Session β}
    (h : Agrees replies client w ((s >>= f).run w t)) : Agrees replies client w (s.run w t) :=
  fun t' c hmem => h t' c (mem_events_bind_left hmem)

theorem Agrees.second {s : Session α} {f : α → Session β} {a : α} {t' : Instant}
    (h : Agrees replies client w ((s >>= f).run w t)) (ha : (s.run w t).outcome = some (a, t')) :
    Agrees replies client w ((f a).run w t') :=
  fun t'' c hmem => h t'' c (mem_events_bind_right ha hmem)

theorem Follows.bind {s : Session α} {f : α → Session β} {asked asked' : List Call} {a : α} {b : β}
    (hs : Follows replies client s asked a) (hf : Follows replies client (f a) asked' b) :
    Follows replies client (s >>= f) (asked ++ asked') b := by
  intro w t h
  obtain ⟨t', ha, hasked⟩ := hs w t h.first
  obtain ⟨ready, hb, hasked'⟩ := hf w t' (h.second ha)
  rw [run_bind ha]
  refine ⟨ready, hb, ?_⟩
  rw [List.map_append, List.map_append, hasked, hasked']

/-- One question, and then what the reply calls for. -/
theorem Follows.next {s : Session α} {f : α → Session β} {c : Call} {asked : List Call} {a : α} {b : β}
    (hs : Follows replies client s [c] a) (hf : Follows replies client (f a) asked b) :
    Follows replies client (s >>= f) (c :: asked) b :=
  hs.bind hf

/-- What a single question leads to at once. -/
theorem Follows.last {s : Session α} {f : α → Session β} {asked : List Call} {a : α} {b : β}
    (hs : Follows replies client s asked a) (hf : Follows replies client (f a) [] b) :
    Follows replies client (s >>= f) asked b := by
  have h := hs.bind hf
  rwa [List.append_nil] at h

/-! ## Replies from a run -/

/-- Each call of the run was answered. -/
def Answered (client : Client) (w : World) (r : Run α) : Prop :=
  ∀ t c, (t, Event.call client c) ∈ r.events → ∃ delay x, w.answer client t c = .after delay x

/-- Every run puts some of the questions, in their order, and if it is ready, all were answered. -/
def Puts (client : Client) (questions : List Call) (s : Session α) : Prop :=
  ∀ w t, ((s.run w t).events.map Prod.snd).Sublist (questions.map (Event.call client)) ∧
    ((s.run w t).outcome.isSome → Answered client w (s.run w t))

theorem puts_pure (a : α) : Puts client [] (Pure.pure a : Session α) :=
  fun _ _ => ⟨List.Sublist.refl _, fun _ _ _ h => by cases h⟩

theorem puts_ask (c : Call) : Puts client [c] (ask client c) := by
  intro w t
  refine ⟨by rw [events_ask]; exact List.Sublist.refl _, fun hready t' c' hmem => ?_⟩
  rw [events_ask] at hmem
  cases List.mem_singleton.1 hmem
  cases h : w.answer client t c with
  | never =>
    rw [outcome_ask, h] at hready
    cases hready
  | after delay x => exact ⟨delay, x, rfl⟩

theorem Puts.mono {s : Session α} {questions questions' : List Call} (h : Puts client questions s)
    (hsub : questions.Sublist questions') : Puts client questions' s :=
  fun w t => ⟨(h w t).1.trans (hsub.map _), (h w t).2⟩

theorem Puts.bind {s : Session α} {f : α → Session β} {questions questions' : List Call}
    (hs : Puts client questions s) (hf : ∀ a, Puts client questions' (f a)) :
    Puts client (questions ++ questions') (s >>= f) := by
  intro w t
  cases ho : (s.run w t).outcome with
  | none =>
    rw [run_bind_none ho, List.map_append]
    exact ⟨(hs w t).1.trans (List.sublist_append_left _ _), fun h => by cases h⟩
  | some r =>
    rw [run_bind ho, List.map_append, List.map_append]
    refine ⟨(hs w t).1.append (hf r.1 w r.2).1, fun hready t' c hmem => ?_⟩
    rcases List.mem_append.1 hmem with hmem | hmem
    · exact (hs w t).2 (by rw [ho]; rfl) t' c hmem
    · exact (hf r.1 w r.2).2 hready t' c hmem

theorem puts_nothing (a : α) (questions : List Call) : Puts client questions (Pure.pure a : Session α) :=
  (puts_pure a).mono (List.nil_sublist _)

/-- One question, and then others. -/
theorem Puts.next {s : Session α} {f : α → Session β} {c : Call} {questions : List Call}
    (hs : Puts client [c] s) (hf : ∀ a, Puts client questions (f a)) :
    Puts client (c :: questions) (s >>= f) :=
  hs.bind hf

theorem Puts.last {s : Session α} {f : α → Session β} {questions : List Call}
    (hs : Puts client questions s) (hf : ∀ a, Puts client [] (f a)) :
    Puts client questions (s >>= f) := by
  have h := hs.bind hf
  rwa [List.append_nil] at h

/-- Where no question is put twice, the answers of a run that is ready are replies to the calls. -/
theorem Puts.exists_agrees {s : Session α} {questions : List Call} (h : Puts client questions s)
    (hnodup : questions.Nodup) (hready : (s.run w t).outcome.isSome) :
    ∃ replies, Agrees replies client w (s.run w t) := by
  classical
  have hcalls : ((s.run w t).events.map Prod.snd).Nodup :=
    (h w t).1.nodup (hnodup.map fun _ _ he => by cases he; rfl)
  have hreply : ∀ c, ∃ x : Except Fault c.Answer, ∀ t', (t', Event.call client c) ∈ (s.run w t).events →
      ∃ delay, w.answer client t' c = .after delay x := by
    intro c
    by_cases hc : ∃ t', (t', Event.call client c) ∈ (s.run w t).events
    · obtain ⟨t', hmem⟩ := hc
      obtain ⟨delay, x, hx⟩ := (h w t).2 hready t' c hmem
      refine ⟨x, fun t'' hmem'' => ?_⟩
      -- the call was put once only
      have hsame : (t'', Event.call client c) = (t', Event.call client c) :=
        List.inj_on_of_nodup_map hcalls hmem'' hmem rfl
      cases hsame
      exact ⟨delay, hx⟩
    · exact ⟨.error .arbiterSkip, fun t' hmem => absurd ⟨t', hmem⟩ hc⟩
  choose replies hreplies using hreply
  exact ⟨replies, fun t' c hmem => hreplies c t' hmem⟩

end Session

end MongoMetrics
