/-
How long sessions take. `Prompt d s` says that in every world and from every instant on the session is
ready, at most `d` later. One after the other such times add up, and side by side the longest one counts;
any session is prompt under a limit. `Stalls` says of a session that it is not ready within a limit.
-/
import MongoMetrics.Proofs.Server.Events

namespace MongoMetrics.Session

variable {α β : Type} {s : Session α} {d d' limit : Duration} {w : World} {t : Instant}

/-- In every world and from every instant on, the session is ready, at most `d` later. -/
def Prompt (d : Duration) (s : Session α) : Prop :=
  ∀ w t, ∃ a ready, (s.run w t).outcome = some (a, ready) ∧ ready ≤ t + d

theorem Prompt.mono (h : Prompt d s) (hd : d ≤ d') : Prompt d' s := by
  intro w t
  obtain ⟨a, ready, ha, hready⟩ := h w t
  exact ⟨a, ready, ha, Nat.le_trans hready (Nat.add_le_add_left hd t)⟩

theorem Prompt.ready_le {a : α} {ready : Instant} (h : Prompt d s)
    (ha : (s.run w t).outcome = some (a, ready)) : ready ≤ t + d := by
  obtain ⟨b, ready', hb, hready⟩ := h w t
  rw [ha] at hb
  cases hb
  exact hready

/-! ## One after the other -/

/-- A session that only reads something of the world. -/
theorem prompt_atOnce (f : World → Instant → α) : Prompt 0 ⟨fun w t => ⟨some (f w t, t), []⟩⟩ :=
  fun w t => ⟨f w t, t, rfl, Nat.le_refl t⟩

theorem prompt_pure (a : α) : Prompt 0 (Pure.pure a : Session α) := prompt_atOnce fun _ _ => a

theorem Prompt.bind_of_yields {P : α → Prop} {f : α → Session β} (hs : Prompt d s) (hP : Yields s P)
    (hf : ∀ a, P a → Prompt d' (f a)) : Prompt (d + d') (s >>= f) := by
  intro w t
  obtain ⟨a, t', ha, ht'⟩ := hs w t
  obtain ⟨b, ready, hb, hready⟩ := hf a (hP w t a t' ha) w t'
  refine ⟨b, ready, ?_, ?_⟩
  · rw [run_bind ha, hb]
  · calc ready ≤ t' + d' := hready
      _ ≤ t + d + d' := Nat.add_le_add_right ht' d'
      _ = t + (d + d') := Nat.add_assoc t d d'

theorem Prompt.bind {f : α → Session β} (hs : Prompt d s) (hf : ∀ a, Prompt d' (f a)) :
    Prompt (d + d') (s >>= f) :=
  hs.bind_of_yields yields_true fun a _ => hf a

/-- What is done with a value at once takes no time. -/
theorem Prompt.bind_atOnce {f : α → Session β} (hs : Prompt d s) (hf : ∀ a, Prompt 0 (f a)) :
    Prompt d (s >>= f) :=
  hs.bind hf

theorem Prompt.map (hs : Prompt d s) (g : α → β) : Prompt d (s >>= fun a => Pure.pure (g a)) :=
  hs.bind_atOnce fun a => prompt_pure (g a)

/-! ## Under a limit -/

/-- From `t` on, the session is not ready within the limit: it takes longer, or is never ready. -/
def Stalls (limit : Duration) (s : Session α) (w : World) (t : Instant) : Prop :=
  ∀ a ready, (s.run w t).outcome = some (a, ready) → t + limit < ready

theorem readyWithin_le (limit : Duration) (s : Session α) (w : World) (t : Instant) :
    readyWithin limit s w t ≤ t + limit := by
  unfold readyWithin
  split
  · exact Nat.min_le_right _ _
  · exact Nat.le_refl _

/-- Whatever a session does, it is prompt under a limit. -/
theorem prompt_within (limit : Duration) (s : Session α) : Prompt limit (within limit s) :=
  fun w t => ⟨_, _, outcome_within limit s, readyWithin_le limit s w t⟩

theorem Stalls.valueWithin_eq (h : Stalls limit s w t) : valueWithin limit s w t = none := by
  unfold valueWithin
  split
  · rename_i a ready ha
    rw [if_neg (Nat.not_le.2 (h a ready ha))]
  · rfl

theorem Stalls.readyWithin_eq (h : Stalls limit s w t) : readyWithin limit s w t = t + limit := by
  unfold readyWithin
  split
  · rename_i a ready ha
    exact Nat.min_eq_right (Nat.le_of_lt (h a ready ha))
  · rfl

/-- The limit ends a session that stalls, and there is no value. -/
theorem Stalls.outcome_within (h : Stalls limit s w t) :
    ((within limit s).run w t).outcome = some (none, t + limit) := by
  rw [Session.outcome_within, h.valueWithin_eq, h.readyWithin_eq]

/-! ## Side by side -/

theorem latest_le {bound : Instant} : ∀ {rs : List (α × Instant)} {t : Instant}, t ≤ bound →
    (∀ r ∈ rs, r.2 ≤ bound) → latest t rs ≤ bound
  | [], _, ht, _ => ht
  | r :: rest, t, ht, h => by
    rw [List.forall_mem_cons] at h
    exact latest_le (t := max t r.2) (Nat.max_le.2 ⟨ht, h.1⟩) h.2

/-- Prompt sessions side by side are as prompt as each of them. -/
theorem prompt_race {sessions : List (Session α)} (h : ∀ s ∈ sessions, Prompt d s) :
    Prompt d (race sessions) := by
  intro w t
  have hall : ∃ rs : List (α × Instant),
      (sessions.mapM fun s : Session α => (s.run w t).outcome) = some rs ∧ ∀ r ∈ rs, r.2 ≤ t + d := by
    induction sessions with
    | nil => exact ⟨[], rfl, fun _ hr => by cases hr⟩
    | cons s rest ih =>
      rw [List.forall_mem_cons] at h
      obtain ⟨a, ready, ha, hready⟩ := h.1 w t
      obtain ⟨rs, hrs, hrest⟩ := ih h.2
      refine ⟨(a, ready) :: rs, ?_, List.forall_mem_cons.2 ⟨hready, hrest⟩⟩
      rw [List.mapM_cons, ha, hrs]
      rfl
  obtain ⟨rs, hrs, hbound⟩ := hall
  refine ⟨inOrder rs, latest t rs, ?_, latest_le (Nat.le_add_right t d) hbound⟩
  rw [outcome_race, hrs]
  rfl

end MongoMetrics.Session
