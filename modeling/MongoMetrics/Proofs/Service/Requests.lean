/-
Requests in phases. A request obtains a connection, uses it and releases it; the connection is obtained
by an attempt to connect and, when a client is delivered in time, by finding out about its server. Each
phase is computed here, with what is seen of it: only connecting lets connecting be seen, only a release
closes, and all else are questions to the client.
-/
import MongoMetrics.Proofs.Service.Scrapes
import MongoMetrics.Proofs.Source.Questions

namespace MongoMetrics.Exporter

open MongoMetrics.Scrape MongoMetrics.Session

variable {s : Settings} {e e' : Exporter} {w : World} {t t' : Instant}

/-! ## Connecting -/

/-- The client that the connector delivers within the limit, with the instant at which it does. -/
def delivered? (s : Settings) (w : World) (t : Instant) : Option (Client × Instant) :=
  match w.connect t s.uri with
  | .after delay (.ok client) => if delay ≤ s.limit then some (client, t + delay) else none
  | _ => none

/-- The attempt to connect, under the limit. -/
theorem run_connect_within (s : Settings) (w : World) (t : Instant) :
    ((Session.connect s.uri).within s.limit).run w t = ⟨some (match w.connect t s.uri with
      | .after delay x => if delay ≤ s.limit then (some x, t + delay) else (none, t + s.limit)
      | .never => (none, t + s.limit)), [(t, .connect s.uri)]⟩ := by
  unfold Session.connect await Session.within
  simp only
  cases w.connect t s.uri with
  | never => simp
  | after delay x =>
    by_cases h : delay ≤ s.limit
    · simp [h]
    · simp [h]

theorem run_openClient_of_delivered {client : Client} (h : delivered? s w t = some (client, t')) :
    (openClient s).run w t = ⟨some (.ok client, t'), [(t, .connect s.uri)]⟩ := by
  unfold delivered? at h
  unfold openClient
  rw [run_bind_of_run (run_connect_within s w t)]
  split at h
  · rename_i delay client' hw
    split at h
    · rename_i hle
      cases h
      simp [hw, hle]
    · cases h
  · cases h

theorem run_openClient_of_undelivered (h : delivered? s w t = none) :
    ∃ fault ready, fault.isConnection = true ∧
      (openClient s).run w t = ⟨some (.error fault, ready), [(t, .connect s.uri)]⟩ := by
  have hfault : ∀ fault, (asConnectionFault fault).isConnection = true := fun fault => by
    cases fault <;> rfl
  unfold delivered? at h
  unfold openClient
  rw [run_bind_of_run (run_connect_within s w t)]
  cases hw : w.connect t s.uri with
  | never => exact ⟨_, t + s.limit, hfault (.timeout s.limit), rfl⟩
  | after delay x =>
    rw [hw] at h
    by_cases hle : delay ≤ s.limit
    · cases x with
      | ok client => simp [hle] at h
      | error fault => exact ⟨_, t + delay, hfault fault, by simp [hle]⟩
    · exact ⟨_, t + s.limit, hfault (.timeout s.limit), by simp [hle]⟩

theorem run_connect_of_undelivered (h : delivered? s w t = none) :
    ∃ fault ready, fault.isConnection = true ∧
      (connect s).run w t = ⟨some (.error fault, ready), [(t, .connect s.uri)]⟩ := by
  obtain ⟨fault, ready, hfault, hopen⟩ := run_openClient_of_undelivered h
  refine ⟨fault, ready, hfault, ?_⟩
  unfold connect
  rw [run_bind_of_run hopen]
  rfl

/-- A client that was delivered is asked about its server, and that makes the connection. -/
theorem run_connect_of_delivered {client : Client} (h : delivered? s w t = some (client, t')) :
    ∃ d ready log, (identifyInTime s client).run w t' = ⟨some (d, ready), log⟩ ∧
      (connect s).run w t = ⟨some (.ok ⟨client, d⟩, ready), (t, .connect s.uri) :: log⟩ := by
  obtain ⟨d, ready, hd⟩ : ∃ d ready, ((identifyInTime s client).run w t').outcome = some (d, ready) := by
    unfold identifyInTime
    rw [outcome_bind, outcome_within]
    exact ⟨_, _, rfl⟩
  refine ⟨d, ready, ((identifyInTime s client).run w t').events, ?_, ?_⟩
  · rw [← hd]
  · unfold connect
    rw [run_bind_of_run (run_openClient_of_delivered h)]
    dsimp only
    rw [run_bind hd]
    simp

theorem opens_identifyInTime (s : Settings) (client : Client) :
    Opens (Deployment.hello client) (Asks client) (identifyInTime s client) :=
  ((Deployment.opens_identify client).within s.limit).bind fun _ => confined_pure _

theorem isKnown_of_identified {client : Client} {d : Deployment} {identified : Instant}
    {detection : List (Instant × Event)}
    (h : (identifyInTime s client).run w t = ⟨some (d, identified), detection⟩) : d.IsKnown :=
  yields_identifyInTime s client w t d identified (congrArg Run.outcome h)

/-! ## The connection for a request -/

theorem run_obtain_apart (hs : e.settings.shared = false) {x : Except Fault Connection}
    {log : List (Instant × Event)} (h : (connect e.settings).run w t = ⟨some (x, t'), log⟩) :
    e.obtain.run w t = ⟨some ((x, e), t'), log⟩ := by
  unfold obtain
  rw [hs, if_neg Bool.false_ne_true, run_bind_of_run h]
  simp

/-- The exporter with what an attempt to connect has made. -/
def keeping (e : Exporter) : Except Fault Connection → Exporter
  | .ok c => { e with connection := some c }
  | .error _ => e

theorem run_sharedConnection_kept {c : Connection} (hc : e.connection = some c) :
    e.sharedConnection.run w t = ⟨some ((.ok c, e), t), []⟩ := by
  unfold sharedConnection
  rw [hc]
  rfl

theorem run_sharedConnection_new (hc : e.connection = none) {x : Except Fault Connection}
    {log : List (Instant × Event)} (h : (connect e.settings).run w t = ⟨some (x, t'), log⟩) :
    e.sharedConnection.run w t = ⟨some ((x, e.keeping x), t'), log⟩ := by
  unfold sharedConnection
  rw [hc]
  dsimp only
  rw [run_bind_of_run h]
  cases x <;> simp [keeping]

theorem obtain_shared (hs : e.settings.shared = true) : e.obtain = e.sharedConnection := by
  unfold obtain
  rw [hs, if_pos rfl]

/-- The connection that a request finds. -/
def kept? (e : Exporter) : Option Connection := if e.settings.shared then e.connection else none

/-- The exporter that an attempt to connect leaves: only a shared connection is kept. -/
def leaving (e : Exporter) (x : Except Fault Connection) : Exporter :=
  if e.settings.shared then e.keeping x else e

theorem kept?_apart (hs : e.settings.shared = false) : e.kept? = none := by
  rw [kept?, hs, if_neg Bool.false_ne_true]

theorem kept?_shared (hs : e.settings.shared = true) : e.kept? = e.connection := by
  rw [kept?, hs, if_pos rfl]

theorem leaving_apart (hs : e.settings.shared = false) (x : Except Fault Connection) :
    e.leaving x = e := by
  rw [leaving, hs, if_neg Bool.false_ne_true]

theorem leaving_shared (hs : e.settings.shared = true) (x : Except Fault Connection) :
    e.leaving x = e.keeping x := by
  rw [leaving, hs, if_pos rfl]

@[simp] theorem settings_keeping (e : Exporter) (x : Except Fault Connection) :
    (e.keeping x).settings = e.settings := by
  cases x <;> rfl

@[simp] theorem settings_leaving (e : Exporter) (x : Except Fault Connection) :
    (e.leaving x).settings = e.settings := by
  unfold leaving
  split
  · exact settings_keeping e x
  · rfl

/-- A request that finds a connection takes it, at once and unseen. -/
theorem run_obtain_of_kept {c : Connection} (h : e.kept? = some c) :
    e.obtain.run w t = ⟨some ((.ok c, e), t), []⟩ := by
  cases hs : e.settings.shared with
  | false =>
    rw [kept?_apart hs] at h
    cases h
  | true =>
    rw [kept?_shared hs] at h
    rw [obtain_shared hs, run_sharedConnection_kept h]

/-- A request that finds none makes an attempt to connect. -/
theorem run_obtain_of_attempt (h : e.kept? = none) {x : Except Fault Connection}
    {log : List (Instant × Event)} (hc : (connect e.settings).run w t = ⟨some (x, t'), log⟩) :
    e.obtain.run w t = ⟨some ((x, e.leaving x), t'), log⟩ := by
  cases hs : e.settings.shared with
  | false => rw [run_obtain_apart hs hc, leaving_apart hs]
  | true =>
    rw [kept?_shared hs] at h
    rw [obtain_shared hs, run_sharedConnection_new h hc, leaving_shared hs]

/-! ## Requests -/

/-- What a request asks for: the samples, or what is known about the server. -/
inductive Demand where
  | scrape
  | inspect
  deriving DecidableEq, Repr

/-- What a request gets. -/
inductive Reply where
  | text (text : String)
  | deployment (d : Deployment)

def answer (e : Exporter) : Demand → Session (Except Fault Reply × Exporter)
  | .scrape => do
    let (x, e) ← e.scrape
    return (x.map .text, e)
  | .inspect => do
    let (x, e) ← e.inspect
    return (x.map .deployment, e)

/-- What a connection is used for: nothing at the start of the exporter, and then a request. -/
def use (e : Exporter) (c : Connection) : Option Demand → Session (Option (Except Fault Reply))
  | none => return none
  | some .scrape => return some ((← e.exposition c).map .text)
  | some .inspect => return some (.ok (.deployment c.deployment))

/-- What is seen of the end of a request: its own connection is closed. -/
def closing (e : Exporter) (c : Connection) (t : Instant) : List (Instant × Event) :=
  if e.settings.shared then [] else [(t, .shutdown c.client)]

theorem run_release (e : Exporter) (c : Connection) (w : World) (t : Instant) :
    (e.release c).run w t = ⟨some ((), t), e.closing c t⟩ := by
  unfold release closing
  split <;> rfl

theorem run_scrape_of_error {fault : Fault} {log : List (Instant × Event)}
    (h : e.obtain.run w t = ⟨some ((.error fault, e'), t'), log⟩) :
    e.scrape.run w t = ⟨some ((.error fault, e'), t'), log⟩ := by
  unfold scrape
  rw [run_bind_of_run h]
  simp

theorem run_inspect_of_error {fault : Fault} {log : List (Instant × Event)}
    (h : e.obtain.run w t = ⟨some ((.error fault, e'), t'), log⟩) :
    e.inspect.run w t = ⟨some ((.error fault, e'), t'), log⟩ := by
  unfold inspect
  rw [run_bind_of_run h]
  simp

theorem run_answer_of_error {fault : Fault} {log : List (Instant × Event)}
    (h : e.obtain.run w t = ⟨some ((.error fault, e'), t'), log⟩) (d : Demand) :
    (e.answer d).run w t = ⟨some ((.error fault, e'), t'), log⟩ := by
  unfold answer
  cases d with
  | scrape =>
    rw [run_bind_of_run (run_scrape_of_error h)]
    simp [Except.map]
  | inspect =>
    rw [run_bind_of_run (run_inspect_of_error h)]
    simp [Except.map]

/-- A scrape with a connection: it is obtained, used for an exposition and released. -/
theorem run_scrape_of_ok {c : Connection} {log : List (Instant × Event)} {x : Except Fault String}
    {ready : Instant} (h : e.obtain.run w t = ⟨some ((.ok c, e'), t'), log⟩)
    (hx : ((e'.exposition c).run w t').outcome = some (x, ready)) :
    e.scrape.run w t = ⟨some ((x, e'), ready),
      log ++ ((e'.exposition c).run w t').events ++ e'.closing c ready⟩ := by
  unfold scrape
  rw [run_bind_of_run h]
  dsimp only
  rw [run_bind hx, run_bind_of_run (run_release e' c w ready)]
  simp

/-- What is known about the server is known once there is a connection. -/
theorem run_inspect_of_ok {c : Connection} {log : List (Instant × Event)}
    (h : e.obtain.run w t = ⟨some ((.ok c, e'), t'), log⟩) :
    e.inspect.run w t = ⟨some ((.ok c.deployment, e'), t'), log ++ e'.closing c t'⟩ := by
  unfold inspect
  rw [run_bind_of_run h]
  dsimp only
  rw [run_bind_of_run (run_release e' c w t')]
  simp

/-- A request with a connection: it is obtained, used and released. -/
theorem run_answer_of_ok {c : Connection} {log used : List (Instant × Event)} {d : Demand}
    {reply : Except Fault Reply} {ended : Instant}
    (h : e.obtain.run w t = ⟨some ((.ok c, e'), t'), log⟩)
    (hu : (e'.use c (some d)).run w t' = ⟨some (some reply, ended), used⟩) :
    (e.answer d).run w t = ⟨some ((reply, e'), ended), log ++ used ++ e'.closing c ended⟩ := by
  cases d with
  | scrape =>
    unfold use at hu
    rw [run_map] at hu
    obtain ⟨houtcome, rfl⟩ := Run.mk.injEq .. ▸ hu
    obtain ⟨⟨x, ready⟩, hx, hmap⟩ := Option.map_eq_some_iff.1 houtcome
    cases hmap
    unfold answer
    rw [run_bind_of_run (run_scrape_of_ok h hx)]
    simp
  | inspect =>
    cases hu
    unfold answer
    rw [run_bind_of_run (run_inspect_of_ok h)]
    simp [Except.map]

/-- With a connection whose deployment is known every use comes to its reply, and only puts questions
to the client. -/
theorem exists_run_use (e : Exporter) {c : Connection} (hc : c.deployment.IsKnown) (d : Demand)
    (w : World) (t : Instant) : ∃ reply ended used,
      (e.use c (some d)).run w t = ⟨some (some reply, ended), used⟩ ∧
      ∀ x ∈ used, Asks c.client x.2 := by
  cases d with
  | scrape =>
    obtain ⟨x, ended, hx, -⟩ := gives_exposition e hc w t
    refine ⟨x.map .text, ended, ((e.exposition c).run w t).events, ?_, (confined_exposition e c w t).kind⟩
    unfold use
    rw [run_map, hx]
    rfl
  | inspect => exact ⟨.ok (.deployment c.deployment), t, [], rfl, fun _ hx => by cases hx⟩

/-! ## The order of time -/

theorem confined_connect (s : Settings) : Confined (fun _ => True) (connect s) := by
  have hopen : Confined (fun _ => True) (openClient s) := by
    refine ((confined_await trivial _).within s.limit).bind fun x => ?_
    split <;> exact confined_pure _
  refine hopen.bind fun x => ?_
  cases x with
  | error fault => exact confined_pure _
  | ok client =>
    exact ((opens_identifyInTime s client).confined.mono fun _ _ => trivial).bind fun d => confined_pure _

theorem confined_sharedConnection (e : Exporter) : Confined (fun _ => True) e.sharedConnection := by
  unfold sharedConnection
  split
  · exact confined_pure _
  · refine (confined_connect e.settings).bind fun x => ?_
    cases x <;> exact confined_pure _

theorem confined_obtain (e : Exporter) : Confined (fun _ => True) e.obtain := by
  unfold obtain
  split
  · exact confined_sharedConnection e
  · exact (confined_connect e.settings).bind fun x => confined_pure _

theorem confined_release (e : Exporter) (c : Connection) : Confined (fun _ => True) (e.release c) := by
  unfold release
  split
  · exact confined_pure _
  · exact confined_shutdown trivial

theorem confined_start (s : Settings) : Confined (fun _ => True) (start s) := by
  refine (confined_atOnce fun _ t => t).bind fun now => ?_
  refine (confined_atOnce fun w t => w.wallClock t).bind fun millis => ?_
  split
  · exact (confined_sharedConnection _).bind fun p => confined_pure _
  · exact confined_pure _

theorem confined_answer (e : Exporter) (d : Demand) : Confined (fun _ => True) (e.answer d) := by
  cases d with
  | scrape =>
    refine Confined.bind ?_ fun p => confined_pure _
    refine (confined_obtain e).bind fun p => ?_
    obtain ⟨x, e'⟩ := p
    cases x with
    | error fault => exact confined_pure _
    | ok c =>
      refine ((confined_exposition e' c).mono fun _ _ => trivial).bind fun text => ?_
      exact (confined_release e' c).bind fun _ => confined_pure _
  | inspect =>
    refine Confined.bind ?_ fun p => confined_pure _
    refine (confined_obtain e).bind fun p => ?_
    obtain ⟨x, e'⟩ := p
    cases x with
    | error fault => exact confined_pure _
    | ok c => exact (confined_release e' c).bind fun _ => confined_pure _

end MongoMetrics.Exporter
