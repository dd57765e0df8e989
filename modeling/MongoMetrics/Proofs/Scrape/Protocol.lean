/-
A source collector over whole runs. It is asked to describe and to collect, in any order and with any
pauses, and each of its descriptions makes a fetch of its own. `serveAll` is the run; `asked` tells
when each query begins, and `Query.made` what it reads. Main statement (`cache_protocol`): collecting
gives the samples of the latest description, none before the first and none after one that failed or
was late, and the run fetches once for each description and never else.
-/
import MongoMetrics.Proofs.Scrape.Reading

namespace MongoMetrics.Scrape

open MongoMetrics.Session

/-! ## Queries -/

/-- What a collector is asked. A description comes with the fetch that it makes. -/
inductive Query where
  | describe (fetch : Request Batch)
  | collect

inductive Reply where
  | shapes (l : List Shape)
  | samples (l : List Sample)

/-- A query that comes some time after the reply before. -/
structure Turn where
  wait : Duration
  query : Query

variable (source : Source) (c : Conditions)

/-- The reply to a query, and what the collector remembers then. -/
def serve : Query → Snapshot → Session (Reply × Snapshot)
  | .describe fetch, _ => do
    let (shapes, s) ← (({ source with fetch } : Source).collector c).describe
    return (.shapes shapes, s)
  | .collect, s => do
    let samples ← (source.collector c).collect s
    return (.samples samples, s)

/-- The replies to queries that the collector gets to one after the other. -/
def serveAll : List Turn → Snapshot → Session (List Reply × Snapshot)
  | [], s => return ([], s)
  | turn :: rest, s => do
    Session.pause turn.wait
    let (reply, s) ← serve source c turn.query s
    let (replies, s) ← serveAll rest s
    return (reply :: replies, s)

/-! ## What a run must be -/

namespace Query

/-- The reading that a query from `t` on makes, if it makes one. -/
def made (w : World) (t : Instant) : Query → Option Snapshot
  | describe fetch => some (reading { source with fetch } c w t)
  | collect => none

def ready (w : World) (t : Instant) : Query → Instant
  | describe fetch => readyWithin c.limit fetch.attempt w t
  | collect => t

/-- The events of a query: those of its one fetch. -/
def events (w : World) (t : Instant) : Query → List (Instant × Event)
  | describe fetch => ((fetch.attempt.within c.limit).run w t).events
  | collect => []

end Query

/-- The queries with the instants at which they begin. -/
def asked (w : World) : List Turn → Instant → List (Query × Instant)
  | [], _ => []
  | turn :: rest, t =>
    (turn.query, t + turn.wait) :: asked w rest (turn.query.ready c w (t + turn.wait))

/-- What each query of a run reads. -/
def readings (w : World) (turns : List Turn) (t : Instant) : List (Option Snapshot) :=
  (asked c w turns t).map fun p => p.1.made source c w p.2

/-- The latest reading, and what was there before when there is none. -/
def remembered (s : Snapshot) (made : List (Option Snapshot)) : Snapshot :=
  (made.filterMap id).getLast?.getD s

/-- The reply to a query that makes a reading or none, of a collector that remembers `s`. -/
def replyTo (s : Snapshot) : Option Snapshot → Reply
  | some (some samples) => .shapes (shapesOf samples [])
  | some none => .shapes []
  | none => .samples (s.getD [])

/-! ## Steps and runs -/

theorem replyTo_some (s r : Snapshot) : replyTo s (some r) = .shapes (announced r) := by
  cases r <;> rfl

/-- A query is replied to after what it reads, and leaves it. -/
theorem run_serve (q : Query) (s : Snapshot) (w : World) (t : Instant) :
    (serve source c q s).run w t =
      ⟨some ((replyTo s (q.made source c w t), (q.made source c w t).getD s), q.ready c w t),
        q.events c w t⟩ := by
  cases q with
  | collect => rfl
  | describe fetch =>
    have h := run_describeSource { source with fetch } c w t
    show (describeSource { source with fetch } c >>= fun r =>
      Pure.pure (Reply.shapes r.1, r.2)).run w t = _
    rw [run_bind (congrArg Run.outcome h), h, Query.made, replyTo_some, run_pure, List.append_nil]
    rfl

theorem readings_cons (turn : Turn) (rest : List Turn) (w : World) (t : Instant) :
    readings source c w (turn :: rest) t = turn.query.made source c w (t + turn.wait) ::
      readings source c w rest (turn.query.ready c w (t + turn.wait)) := rfl

theorem remembered_cons (s : Snapshot) (m : Option Snapshot) (made : List (Option Snapshot)) :
    remembered s (m :: made) = remembered (m.getD s) made := by
  cases m with
  | none => rfl
  | some r => simp [remembered, List.getLast?_cons]

/-- A run is ready and leaves the latest reading. Its replies are those to its readings, each with
what was remembered when it came, and its events are those of its queries. -/
theorem run_serveAll (turns : List Turn) (s : Snapshot) (w : World) (t : Instant) :
    ∃ replies ready,
      (serveAll source c turns s).run w t =
        ⟨some ((replies, remembered s (readings source c w turns t)), ready),
          (asked c w turns t).flatMap fun p => p.1.events c w p.2⟩ ∧
      ∀ i, replies[i]? = (readings source c w turns t)[i]?.map
        (replyTo (remembered s ((readings source c w turns t).take i))) := by
  -- the rest of a run begins with what its first query leaves, at the instant of its reply
  induction turns generalizing s t with
  | nil => exact ⟨[], t, rfl, fun i => rfl⟩
  | cons turn rest ih =>
    have hp : ((Session.pause turn.wait).run w t).outcome = some ((), t + turn.wait) := rfl
    have hs := run_serve source c turn.query s w (t + turn.wait)
    obtain ⟨replies, ready, hr, hi⟩ := ih ((turn.query.made source c w (t + turn.wait)).getD s)
      (turn.query.ready c w (t + turn.wait))
    refine ⟨replyTo s (turn.query.made source c w (t + turn.wait)) :: replies, ready, ?_, ?_⟩
    · rw [serveAll, run_bind hp, run_bind (congrArg Run.outcome hs), hs]
      simp only
      rw [run_bind (congrArg Run.outcome hr), hr, readings_cons, remembered_cons, asked,
        List.flatMap_cons]
      simp only [run_pure, List.append_nil]
      rfl
    · rintro (_ | i)
      · rfl
      · rw [List.getElem?_cons_succ, hi i, readings_cons, List.getElem?_cons_succ,
          List.take_succ_cons, remembered_cons]

/-! ## Runs with known fetches -/

/-- A turn that collects, or describes with a fetch of which is known what it comes to. -/
structure Step where
  wait : Duration
  fetched : Option (Response (Except Fault Batch))

namespace Step

/-- The turn; its fetch begins with a connection to `uri`. -/
def turn (uri : String) (step : Step) : Turn where
  wait := step.wait
  query := match step.fetched with
    | some response => .describe (ExceptT.mk (Session.await (.connect uri) fun _ _ => response))
    | none => .collect

/-- What a fetch leaves: the samples of a batch that is there in time. -/
def leaves (source : Source) (c : Conditions) : Response (Except Fault Batch) → Snapshot
  | .after delay (.ok batch) =>
    if delay ≤ c.limit then some (snapshotOf source c.deployment.labels c.naming batch delay)
    else none
  | .after _ (.error _) => none
  | .never => none

/-- What the step reads, if it describes. -/
def made (source : Source) (c : Conditions) (step : Step) : Option Snapshot :=
  step.fetched.map (leaves source c)

end Step

theorem reading_response (uri : String) (response : Response (Except Fault Batch)) (w : World)
    (t : Instant) :
    reading { source with fetch := ExceptT.mk (Session.await (.connect uri) fun _ _ => response) } c
      w t = Step.leaves source c response := by
  cases response with
  | never => rfl
  | after delay result =>
    have hrun : ((Request.attempt (ExceptT.mk (Session.await (.connect uri) fun _ _ =>
        Response.after delay result))).run w t).outcome = some (result, t + delay) := rfl
    unfold reading valueWithin readyWithin
    simp only [hrun]
    by_cases h : delay ≤ c.limit
    · rw [if_pos (Nat.add_le_add_left h t), Nat.min_eq_left (Nat.add_le_add_left h t)]
      cases result with
      | error e => rfl
      | ok batch =>
        simp only [Step.leaves, if_pos h, Nat.add_sub_cancel_left]
        rfl
    · rw [if_neg fun hle => h (Nat.le_of_add_le_add_left hle)]
      cases result with
      | error e => rfl
      | ok batch => simp only [Step.leaves, if_neg h]

theorem events_response (uri : String) (response : Response (Except Fault Batch)) (w : World)
    (t : Instant) :
    (Query.describe (ExceptT.mk (Session.await (.connect uri) fun _ _ => response))).events c w t =
      [(t, .connect uri)] := by
  -- the event comes at once, before any limit, whatever the fetch comes to
  unfold Query.events within
  cases response with
  | never => simp [Request.attempt, ExceptT.run, ExceptT.mk, Session.await]
  | after delay result =>
    by_cases h : delay ≤ c.limit
    · simp [Request.attempt, ExceptT.run, ExceptT.mk, Session.await, h]
    · simp [Request.attempt, ExceptT.run, ExceptT.mk, Session.await, h]

theorem readings_steps (uri : String) (steps : List Step) (w : World) (t : Instant) :
    readings source c w (steps.map (Step.turn uri)) t = steps.map (Step.made source c) := by
  induction steps generalizing t with
  | nil => rfl
  | cons step rest ih =>
    rw [List.map_cons, List.map_cons, readings_cons, ih]
    congr 1
    cases hf : step.fetched with
    | none => simp [Step.turn, Step.made, hf, Query.made]
    | some response => simp [Step.turn, Step.made, hf, Query.made, reading_response]

/-- One event for each description. -/
theorem events_steps (uri : String) (steps : List Step) (w : World) (t : Instant) :
    ((asked c w (steps.map (Step.turn uri)) t).flatMap fun p => p.1.events c w p.2).map Prod.snd =
      List.replicate (steps.countP (·.fetched.isSome)) (.connect uri) := by
  induction steps generalizing t with
  | nil => rfl
  | cons step rest ih =>
    rw [List.map_cons, asked, List.flatMap_cons, List.map_append, ih]
    cases hf : step.fetched with
    | none => simp [Step.turn, hf, Query.events]
    | some response => simp [Step.turn, hf, events_response, List.replicate_succ]

/-- The protocol of the cache, for every run. A run always is ready. A description is replied to with
the shapes of what it read, and with none when its fetch failed or was late; collecting is replied
to with the samples that the latest description read, as often as it is asked, and with none when
that one failed or was late or when there was none. The events of the run are those of one fetch
for each description. When each fetch says what it comes to and begins with one event, the replies
follow from that alone, and as many events happen as there are descriptions. -/
theorem cache_protocol (source : Source) (c : Conditions) (w : World) (t : Instant) :
    (∀ turns : List Turn, ∃ replies ready,
      (serveAll source c turns none).run w t =
        ⟨some ((replies, remembered none (readings source c w turns t)), ready),
          (asked c w turns t).flatMap fun p => p.1.events c w p.2⟩ ∧
      ∀ i, replies[i]? = (readings source c w turns t)[i]?.map
        (replyTo (remembered none ((readings source c w turns t).take i)))) ∧
    ∀ (uri : String) (steps : List Step), ∃ replies snapshot ready events,
      (serveAll source c (steps.map (Step.turn uri)) none).run w t =
        ⟨some ((replies, snapshot), ready), events⟩ ∧
      (∀ i, replies[i]? = steps[i]?.map fun step =>
        replyTo (remembered none ((steps.take i).map (Step.made source c))) (step.made source c)) ∧
      events.map Prod.snd =
        List.replicate (steps.countP (·.fetched.isSome)) (.connect uri) := by
  refine ⟨fun turns => run_serveAll source c turns none w t, fun uri steps => ?_⟩
  obtain ⟨replies, ready, hr, hi⟩ :=
    run_serveAll source c (steps.map (Step.turn uri)) none w t
  refine ⟨replies, _, ready, _, hr, fun i => ?_, events_steps c uri steps w t⟩
  rw [hi i, readings_steps, List.getElem?_map, Option.map_map, List.map_take]
  rfl

end MongoMetrics.Scrape
