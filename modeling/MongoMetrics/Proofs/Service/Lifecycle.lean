/-
The life of an exporter: its start, and then requests one after the other, each in a world of its own
and after any time. The life is cut into stages, one for the start and one for each request, and what
the outside sees of a stage is cut into phases: the attempt to connect, finding out about the server,
the questions of the request, and the end. Main statement (`connections_are_paired`): with a connection
for each request, every connection that was made is closed at the end of its request; with a shared one,
attempts go on until one succeeds, and then this connection serves all requests and is never closed.
-/
import MongoMetrics.Proofs.Service.Requests

namespace MongoMetrics.Exporter

open MongoMetrics.Scrape MongoMetrics.Session

variable {s : Settings} {e : Exporter} {w : World} {t : Instant}

/-! ## Stages -/

/-- A request, with the world that it meets and the time that has passed since the one before. -/
structure Visit where
  world : World
  wait : Duration
  demand : Demand

/-- A part of the life of an exporter: its start, which nobody demands, or a request. -/
structure Stage where
  world : World
  began : Instant
  demand : Option Demand
  reply : Option (Except Fault Reply)
  /-- The exporter afterwards. -/
  exporter : Exporter
  ended : Instant
  events : List (Instant × Event)

/-- The stage of the start. -/
def opening? (s : Settings) (w : World) (t : Instant) : Option Stage :=
  match (start s).run w t with
  | ⟨some (e, ended), events⟩ => some ⟨w, t, none, none, e, ended, events⟩
  | ⟨none, _⟩ => none

/-- The stage of a request that comes after `t`. -/
def stage? (e : Exporter) (t : Instant) (v : Visit) : Option Stage :=
  match (e.answer v.demand).run v.world (t + v.wait) with
  | ⟨some ((reply, e'), ended), events⟩ =>
    some ⟨v.world, t + v.wait, some v.demand, some reply, e', ended, events⟩
  | ⟨none, _⟩ => none

/-- The stages of requests one after the other; nothing if one of them is never ready. -/
def history (e : Exporter) (t : Instant) : List Visit → Option (List Stage)
  | [] => some []
  | v :: rest => do
    let x ← stage? e t v
    return x :: (← history x.exporter x.ended rest)

/-- The whole life of an exporter. -/
def lifetime (s : Settings) (w : World) (t : Instant) (visits : List Visit) : Option (List Stage) := do
  let x ← opening? s w t
  return x :: (← history x.exporter x.ended visits)

namespace Stage

/-- The connector gives no client in time: this is all that happens, and a request is told so. -/
structure Refused (s : Settings) (x : Stage) : Prop where
  undelivered : delivered? s x.world x.began = none
  events : x.events = [(x.began, .connect s.uri)]
  reply : ∀ y, x.reply = some y → ∃ fault, y = .error fault ∧ fault.isConnection = true

/-- The connector gives a client. The connection with it is made by one attempt and one detection,
which greets the server; then it is used, for questions only, and then there is the end. -/
def Connects (s : Settings) (c : Connection) (atEnd : List (Instant × Event)) (x : Stage) : Prop :=
  ∃ connected identified detection used,
    x.exporter.settings = s ∧ delivered? s x.world x.began = some (c.client, connected) ∧
    (identifyInTime s c.client).run x.world connected = ⟨some (c.deployment, identified), detection⟩ ∧
    (x.exporter.use c x.demand).run x.world identified = ⟨some (x.reply, x.ended), used⟩ ∧
    x.events = (x.began, .connect s.uri) :: (detection ++ used ++ atEnd) ∧
    (∃ rest, detection = (connected, Deployment.hello c.client) :: rest ∧ ∀ y ∈ rest, Asks c.client y.2) ∧
    ∀ y ∈ used, Asks c.client y.2

/-- A stage of its own: without a client nothing follows the attempt, and a connection that is made
is closed by the last event. -/
def Apart (s : Settings) (x : Stage) : Prop :=
  x.Refused s ∨ ∃ c, x.Connects s c [(x.ended, .shutdown c.client)]

/-- The stage uses a connection that was there before: there are questions to its client and nothing
else. -/
structure Uses (s : Settings) (c : Connection) (x : Stage) : Prop where
  settings : x.exporter.settings = s
  used : (x.exporter.use c x.demand).run x.world x.began = ⟨some (x.reply, x.ended), x.events⟩
  asks : ∀ y ∈ x.events, Asks c.client y.2

/-- Stages that share a connection: attempts are refused until one succeeds; all stages after it use
the connection that was made. -/
inductive Share (s : Settings) : List Stage → Prop
  | none : Share s []
  | refused {x : Stage} {rest : List Stage} (h : x.Refused s) (hrest : Share s rest) :
    Share s (x :: rest)
  | connects {x : Stage} {rest : List Stage} {c : Connection} (h : x.Connects s c [])
    (hrest : ∀ y ∈ rest, y.Uses s c) : Share s (x :: rest)

end Stage

/-! ## One stage -/

theorem connects_of_runs {client : Client} {d : Deployment} {connected identified ended : Instant}
    {detection used : List (Instant × Event)} {demand : Option Demand}
    {reply : Option (Except Fault Reply)} (hs : e.settings = s)
    (hd : delivered? s w t = some (client, connected))
    (hid : (identifyInTime s client).run w connected = ⟨some (d, identified), detection⟩)
    (hu : (e.use ⟨client, d⟩ demand).run w identified = ⟨some (reply, ended), used⟩)
    (hused : ∀ y ∈ used, Asks client y.2) (atEnd : List (Instant × Event)) : Stage.Connects s ⟨client, d⟩ atEnd
      ⟨w, t, demand, reply, e, ended, (t, .connect s.uri) :: (detection ++ used ++ atEnd)⟩ := by
  have hopens := (opens_identifyInTime s client).first w connected
  rw [hid] at hopens
  exact ⟨connected, identified, detection, used, hs, hd, hid, hu, rfl, hopens, hused⟩

/-- A request that makes an attempt to connect: the attempt is refused, or makes a connection. -/
theorem exists_stage_of_attempt (hk : e.kept? = none) (t : Instant) (v : Visit) :
    ∃ x, stage? e t v = some x ∧
      ((x.Refused e.settings ∧ ∃ fault, x.exporter = e.leaving (.error fault)) ∨
        ∃ c, x.Connects e.settings c (e.closing c x.ended) ∧ x.exporter = e.leaving (.ok c) ∧
          c.deployment.IsKnown) := by
  unfold stage?
  cases hd : delivered? e.settings v.world (t + v.wait) with
  | none =>
    obtain ⟨fault, ready, hfault, hconnect⟩ := run_connect_of_undelivered hd
    rw [run_answer_of_error (run_obtain_of_attempt hk hconnect)]
    refine ⟨_, rfl, .inl ⟨⟨hd, rfl, fun y hy => ?_⟩, fault, rfl⟩⟩
    cases hy
    exact ⟨fault, rfl, hfault⟩
  | some delivery =>
    obtain ⟨client, connected⟩ := delivery
    obtain ⟨d, identified, detection, hid, hconnect⟩ := run_connect_of_delivered hd
    have hknown := isKnown_of_identified hid
    obtain ⟨reply, ended, used, hu, hused⟩ :=
      exists_run_use (e.leaving (.ok ⟨client, d⟩)) (c := ⟨client, d⟩) hknown v.demand v.world identified
    have hclosing : (e.leaving (.ok ⟨client, d⟩)).closing ⟨client, d⟩ ended =
        e.closing ⟨client, d⟩ ended := by
      rw [closing, settings_leaving]
      rfl
    rw [run_answer_of_ok (run_obtain_of_attempt hk hconnect) hu, hclosing, List.cons_append,
      List.cons_append]
    refine ⟨_, rfl, .inr ⟨⟨client, d⟩, ?_, rfl, hknown⟩⟩
    exact connects_of_runs (settings_leaving e _) hd hid hu hused _

/-- A request that is to have its own connection. -/
theorem exists_stage_apart (hs : e.settings.shared = false) (t : Instant) (v : Visit) :
    ∃ x, stage? e t v = some x ∧ x.exporter = e ∧ x.Apart e.settings := by
  obtain ⟨x, hx, ⟨hrefused, fault, he⟩ | ⟨c, hconnects, he, -⟩⟩ :=
    exists_stage_of_attempt (kept?_apart hs) t v
  · rw [leaving_apart hs] at he
    exact ⟨x, hx, he, .inl hrefused⟩
  · rw [leaving_apart hs] at he
    rw [closing, hs, if_neg Bool.false_ne_true] at hconnects
    exact ⟨x, hx, he, .inr ⟨c, hconnects⟩⟩

/-- A request that finds the shared connection. -/
theorem exists_stage_kept (hs : e.settings.shared = true) {c : Connection} (hc : e.connection = some c)
    (hk : c.deployment.IsKnown) (t : Instant) (v : Visit) :
    ∃ x, stage? e t v = some x ∧ x.exporter = e ∧ x.Uses e.settings c := by
  have hobtain : e.obtain.run v.world (t + v.wait) = ⟨some ((.ok c, e), t + v.wait), []⟩ := by
    rw [obtain_shared hs, run_sharedConnection_kept hc]
  obtain ⟨reply, ended, used, hu, hused⟩ := exists_run_use e hk v.demand v.world (t + v.wait)
  have hclosing : e.closing c ended = [] := by rw [closing, hs, if_pos rfl]
  unfold stage?
  rw [run_answer_of_ok hobtain hu, hclosing, List.nil_append, List.append_nil]
  exact ⟨_, rfl, rfl, rfl, hu, hused⟩

/-- The exporter keeps this connection, whose deployment is known. -/
structure Keeps (e : Exporter) (c : Connection) : Prop where
  kept : e.connection = some c
  known : c.deployment.IsKnown

/-- What becomes of an exporter without a connection: the attempt is refused, or makes one. -/
def Attempts (e : Exporter) (x : Stage) : Prop :=
  (x.Refused e.settings ∧ x.exporter = e) ∨
    ∃ c, x.Connects e.settings c [] ∧ x.exporter = e.keeping (.ok c) ∧ x.exporter.Keeps c

/-- A request that finds no shared connection yet. -/
theorem exists_stage_unconnected (hs : e.settings.shared = true) (hc : e.connection = none) (t : Instant)
    (v : Visit) : ∃ x, stage? e t v = some x ∧ e.Attempts x := by
  obtain ⟨x, hx, ⟨hrefused, fault, he⟩ | ⟨c, hconnects, he, hk⟩⟩ :=
    exists_stage_of_attempt ((kept?_shared hs).trans hc) t v
  · rw [leaving_shared hs] at he
    exact ⟨x, hx, .inl ⟨hrefused, he⟩⟩
  · rw [leaving_shared hs] at he
    rw [closing, hs, if_pos rfl] at hconnects
    exact ⟨x, hx, .inr ⟨c, hconnects, he, by rw [he]; rfl, hk⟩⟩

/-- The exporter as it starts. -/
def fresh (s : Settings) (w : World) (t : Instant) : Exporter := ⟨s, none, t, w.wallClock t⟩

theorem exists_opening_apart (hs : s.shared = false) (w : World) (t : Instant) :
    ∃ x, opening? s w t = some x ∧ x.exporter = fresh s w t ∧ x.events = [] := by
  have hstart : (start s).run w t = ⟨some (fresh s w t, t), []⟩ := by
    unfold start
    rw [hs]
    rfl
  unfold opening?
  rw [hstart]
  exact ⟨_, rfl, rfl, rfl⟩

theorem run_start_shared (hs : s.shared = true) {x : Except Fault Connection}
    {log : List (Instant × Event)} (h : (connect s).run w t = ⟨some (x, t'), log⟩) :
    (start s).run w t = ⟨some ((fresh s w t).keeping x, t'), log⟩ := by
  have hnew : (fresh s w t).sharedConnection.run w t =
      ⟨some ((x, (fresh s w t).keeping x), t'), log⟩ := run_sharedConnection_new rfl h
  have hafter : ((fresh s w t).sharedConnection >>= fun p => Pure.pure p.2).run w t =
      ⟨some ((fresh s w t).keeping x, t'), log⟩ := by
    rw [run_map, hnew]
    rfl
  unfold start
  rw [run_bind (outcome_now w t), run_bind (outcome_unixMillis w t), hs, if_pos rfl]
  -- reading the clocks is not seen
  exact congrArg (fun r : Run Exporter => (⟨r.outcome, [] ++ ([] ++ r.events)⟩ : Run Exporter)) hafter

theorem exists_opening_shared (hs : s.shared = true) (w : World) (t : Instant) :
    ∃ x, opening? s w t = some x ∧ (fresh s w t).Attempts x := by
  unfold opening?
  cases hd : delivered? s w t with
  | none =>
    obtain ⟨fault, ready, hfault, hconnect⟩ := run_connect_of_undelivered hd
    rw [run_start_shared hs hconnect]
    exact ⟨_, rfl, .inl ⟨⟨hd, rfl, fun y hy => by cases hy⟩, rfl⟩⟩
  | some delivery =>
    obtain ⟨client, connected⟩ := delivery
    obtain ⟨d, identified, detection, hid, hconnect⟩ := run_connect_of_delivered hd
    rw [run_start_shared hs hconnect]
    refine ⟨_, rfl, .inr ⟨⟨client, d⟩, ?_, rfl, rfl, isKnown_of_identified hid⟩⟩
    have hunused : (((fresh s w t).keeping (.ok ⟨client, d⟩)).use ⟨client, d⟩ none).run w identified =
        ⟨some (none, identified), []⟩ := rfl
    have hconnects := connects_of_runs rfl hd hid hunused (fun _ hx => by cases hx) []
    rwa [List.append_nil, List.append_nil] at hconnects

/-! ## Whole lives -/

namespace Stage

/-- The events of the stage lie between its beginning and its end and come in the order of time. -/
structure Chronological (x : Stage) : Prop where
  ordered : x.events.Pairwise fun a b => a.1 ≤ b.1
  notBefore : ∀ y ∈ x.events, x.began ≤ y.1
  notAfter : ∀ y ∈ x.events, y.1 ≤ x.ended
  forward : x.began ≤ x.ended

/-- The stage is the one of this request, which comes after `t`. -/
structure Answers (t : Instant) (v : Visit) (x : Stage) : Prop extends x.Chronological where
  world : x.world = v.world
  began : x.began = t + v.wait
  demand : x.demand = some v.demand

/-- The stages are those of the requests, one after the other from `t` on. -/
inductive Follow : Instant → List Visit → List Stage → Prop
  | nil {t : Instant} : Follow t [] []
  | cons {t : Instant} {v : Visit} {x : Stage} {visits : List Visit} {rest : List Stage}
    (h : x.Answers t v) (hrest : Follow x.ended visits rest) : Follow t (v :: visits) (x :: rest)

end Stage

theorem chronological_of_run {α : Type} {P : Event → Prop} {r : Run α} {a : α} {ended : Instant}
    {events : List (Instant × Event)} (h : ConfinedRun P t r) (hr : r = ⟨some (a, ended), events⟩)
    (demand : Option Demand) (reply : Option (Except Fault Reply)) :
    Stage.Chronological ⟨w, t, demand, reply, e, ended, events⟩ := by
  rw [hr] at h
  obtain ⟨hle, hafter⟩ := h.notAfter a ended rfl
  exact ⟨h.ordered, h.notBefore, hafter, hle⟩

theorem answers_stage {v : Visit} {x : Stage} (h : stage? e t v = some x) : x.Answers t v := by
  unfold stage? at h
  split at h
  · rename_i hrun
    cases h
    exact ⟨chronological_of_run (confined_answer e v.demand _ _) hrun _ _, rfl, rfl, rfl⟩
  · cases h

theorem chronological_opening {x : Stage} (h : opening? s w t = some x) :
    x.Chronological ∧ x.world = w ∧ x.began = t ∧ x.demand = none := by
  unfold opening? at h
  split at h
  · rename_i hrun
    cases h
    exact ⟨chronological_of_run (confined_start s w t) hrun _ _, rfl, rfl, rfl⟩
  · cases h

/-- The stages of an exporter that no request changes. -/
theorem exists_history_of_unchanged {Q : Stage → Prop}
    (h : ∀ t v, ∃ x, stage? e t v = some x ∧ x.exporter = e ∧ Q x) (t : Instant) (visits : List Visit) :
    ∃ stages, history e t visits = some stages ∧ Stage.Follow t visits stages ∧ ∀ x ∈ stages, Q x := by
  induction visits generalizing t with
  | nil => exact ⟨[], rfl, .nil, fun _ hx => by cases hx⟩
  | cons v rest ih =>
    obtain ⟨x, hx, he, hQ⟩ := h t v
    obtain ⟨stages, hstages, hfollow, hall⟩ := ih x.ended
    refine ⟨x :: stages, ?_, .cons (answers_stage hx) hfollow, List.forall_mem_cons.2 ⟨hQ, hall⟩⟩
    rw [history, hx, Option.bind_eq_bind, Option.bind_some, he, hstages]
    rfl

theorem exists_history_kept (hs : e.settings.shared = true) {c : Connection} (hc : e.Keeps c)
    (t : Instant) (visits : List Visit) : ∃ stages, history e t visits = some stages ∧
      Stage.Follow t visits stages ∧ ∀ x ∈ stages, x.Uses e.settings c :=
  exists_history_of_unchanged (exists_stage_kept hs hc.kept hc.known) t visits

/-- What comes after an attempt, once it is known what comes after each exporter that it may leave. -/
theorem exists_history_of_attempt (hs : e.settings.shared = true) {x : Stage} (hx : e.Attempts x)
    {visits : List Visit} (hrefused : ∃ stages, history e x.ended visits = some stages ∧
      Stage.Follow x.ended visits stages ∧ Stage.Share e.settings stages) :
    ∃ stages, history x.exporter x.ended visits = some stages ∧
      Stage.Follow x.ended visits stages ∧ Stage.Share e.settings (x :: stages) := by
  rcases hx with ⟨hx, he⟩ | ⟨c, hconnects, he, hkeeps⟩
  · obtain ⟨stages, hstages, hfollow, hshare⟩ := hrefused
    exact ⟨stages, by rw [he, hstages], hfollow, .refused hx hshare⟩
  · have hsettings : x.exporter.settings = e.settings := by rw [he]; rfl
    obtain ⟨stages, hstages, hfollow, huses⟩ :=
      exists_history_kept (by rw [hsettings, hs]) hkeeps x.ended visits
    rw [hsettings] at huses
    exact ⟨stages, hstages, hfollow, .connects hconnects huses⟩

theorem exists_history_unconnected (hs : e.settings.shared = true) (hc : e.connection = none)
    (t : Instant) (visits : List Visit) : ∃ stages, history e t visits = some stages ∧
      Stage.Follow t visits stages ∧ Stage.Share e.settings stages := by
  -- a refused attempt leaves the exporter as it was, so the induction keeps it fixed
  induction visits generalizing t with
  | nil => exact ⟨[], rfl, .nil, .none⟩
  | cons v rest ih =>
    obtain ⟨x, hx, hattempts⟩ := exists_stage_unconnected hs hc t v
    obtain ⟨stages, hstages, hfollow, hshare⟩ := exists_history_of_attempt hs hattempts (ih x.ended)
    refine ⟨x :: stages, ?_, .cons (answers_stage hx) hfollow, hshare⟩
    rw [history, hx, Option.bind_eq_bind, Option.bind_some, hstages]
    rfl

/-- Connections are paired with requests. Whatever the settings are, and whatever the worlds that the
start and the requests meet do, every request is served at some time. With a connection for each
request, the start is not seen, and each request makes one attempt to connect: without a client in time
nothing follows; otherwise the server is greeted once, questions are put to the client, and the last
event closes the connection. With a shared connection the start makes the first attempt and each
request another one, until one succeeds; the server is greeted then and never again, and all requests
after it use this connection, which nothing closes. -/
theorem connections_are_paired (s : Settings) (w : World) (t : Instant) (visits : List Visit) :
    ∃ first later, lifetime s w t visits = some (first :: later) ∧
      (first.Chronological ∧ first.world = w ∧ first.began = t ∧ first.demand = none) ∧
      Stage.Follow first.ended visits later ∧
      if s.shared then Stage.Share s (first :: later)
      else first.events = [] ∧ ∀ x ∈ later, x.Apart s := by
  cases hs : s.shared with
  | false =>
    obtain ⟨first, hfirst, he, hsilent⟩ := exists_opening_apart hs w t
    obtain ⟨later, hlater, hfollow, hall⟩ := exists_history_of_unchanged
      (exists_stage_apart (e := fresh s w t) hs) first.ended visits
    refine ⟨first, later, ?_, chronological_opening hfirst, hfollow, hsilent, hall⟩
    rw [lifetime, hfirst, Option.bind_eq_bind, Option.bind_some, he, hlater]
    rfl
  | true =>
    obtain ⟨first, hfirst, hattempts⟩ := exists_opening_shared hs w t
    obtain ⟨later, hlater, hfollow, hshare⟩ := exists_history_of_attempt hs hattempts
      (exists_history_unconnected (e := fresh s w t) hs rfl first.ended visits)
    refine ⟨first, later, ?_, chronological_opening hfirst, hfollow, hshare⟩
    rw [lifetime, hfirst, Option.bind_eq_bind, Option.bind_some, hlater]
    rfl

end MongoMetrics.Exporter
