/-
When requests fail. A request succeeds when it has a connection and fails when it has none, whatever else
goes wrong: a failure below a collector only leaves samples out, and registration never meets a name
twice. Over a life of the exporter it is known from the connector alone which requests have a connection
(`Prepared`), and the web replies follow. Main statement (`requests_fail_only_unconnected`).
-/
import MongoMetrics.Proofs.Service.Health
import MongoMetrics.Proofs.Service.Lifecycle

namespace MongoMetrics

open MongoMetrics.Session

/-! ## On the web -/

namespace Web

variable {e : Exporter} {w : World} {t : Instant}

/-- No segment of the path stands for other texts. -/
def IsLiteral (path : String) : Prop := '\x7b' ∉ path.toList

instance (path : String) : Decidable (IsLiteral path) :=
  inferInstanceAs (Decidable ('\x7b' ∉ path.toList))

/-- Splitting brings in nothing new. -/
theorem mem_of_mem_splitOnP {p : Char → Bool} {c : Char} {l segment : List Char}
    (h : segment ∈ l.splitOnP p) (hc : c ∈ segment) : c ∈ l := by
  have hmem : c ∈ (l.splitOnP p).flatten := List.mem_flatten.2 ⟨segment, h, hc⟩
  rw [Extraction.flatten_splitOnP] at hmem
  exact (List.mem_filter.1 hmem).1

theorem isCapture_of_not_mem {segment : List Char} (h : '\x7b' ∉ segment) :
    isCapture segment = false ∧ isWildcard segment = false := by
  cases segment with
  | nil => exact ⟨rfl, rfl⟩
  | cons c rest =>
    have hc : c ≠ '\x7b' := fun hc => h (hc ▸ List.mem_cons_self ..)
    constructor
    · unfold isCapture
      split
      · rename_i heq
        cases heq
        exact absurd rfl hc
      · rfl
    · unfold isWildcard
      split
      · rename_i heq
        cases heq
        exact absurd rfl hc
      · rfl

/-- Segments without names in braces fit themselves. -/
theorem segmentsFit_self {segments : List (List Char)} (h : ∀ x ∈ segments, '\x7b' ∉ x) :
    segmentsFit segments segments = true := by
  induction segments with
  | nil => rfl
  | cons x rest ih =>
    rw [List.forall_mem_cons] at h
    obtain ⟨hcapture, hwildcard⟩ := isCapture_of_not_mem h.1
    cases rest with
    | nil => simp [segmentsFit, hcapture, hwildcard]
    | cons y rest => simp [segmentsFit, hcapture, ih h.2]

theorem endpoint?_metrics {path : String} (hliteral : IsLiteral path) (hpath : path ≠ "/health") :
    endpoint? path path = some .metrics := by
  have hfit : segmentsFit (segments path) (segments path) = true :=
    segmentsFit_self fun x hx hc => hliteral (mem_of_mem_splitOnP hx hc)
  have hhealth : (path == "/health") = false := by simpa using hpath
  unfold endpoint? healthPath
  rw [hhealth, hfit]
  rfl

theorem endpoint?_health (metricsPath : String) : endpoint? metricsPath "/health" = some .health := rfl

/-- The reply to readers of the metrics path. -/
def metricsReply : Except Fault String → Reply
  | .ok text => ⟨200, some expositionText, text⟩
  | .error fault => failure fault

/-- The reply to readers of the health path. -/
def healthReply : Except Fault Deployment → Reply
  | .ok d => ⟨200, some jsonText, healthBody d⟩
  | .error fault => failure fault

theorem failure_connection (message : String) : failure (.connection message) = ⟨500, some plainText,
    "An error has occurred while connecting to MongoDB:\n\ncannot connect to mongodb: " ++ message⟩ := by
  have htext : "An error has occurred while " ++ "connecting to" ++ " MongoDB:\n\n" ++
      "cannot connect to mongodb: " =
      "An error has occurred while connecting to MongoDB:\n\ncannot connect to mongodb: " := by decide
  rw [← htext, String.append_assoc]
  rfl

theorem respond_get {target : String} {endpoint : Endpoint}
    (h : endpoint? e.settings.metricsPath (pathOf target) = some endpoint) :
    respond e ⟨"GET", target⟩ = serve e endpoint := by
  unfold respond
  rw [h]
  rfl

theorem outcome_serve_metrics {x : Except Fault String} {e' : Exporter} {ready : Instant}
    (h : (e.scrape.run w t).outcome = some ((x, e'), ready)) :
    ((serve e .metrics).run w t).outcome = some ((metricsReply x, e'), ready) := by
  unfold serve
  rw [outcome_bind, h]
  cases x <;> rfl

theorem outcome_serve_health {x : Except Fault Deployment} {e' : Exporter} {ready : Instant}
    (h : (e.inspect.run w t).outcome = some ((x, e'), ready)) :
    ((serve e .health).run w t).outcome = some ((healthReply x, e'), ready) := by
  unfold serve
  rw [outcome_bind, h]
  cases x <;> rfl

end Web

namespace Exporter

variable {s : Settings} {e : Exporter} {w : World} {t : Instant}

/-! ## One request -/

/-- What all readers get of a request at `t`: of a scrape, of an inspection, and on the web of both. The
metrics path counts when it is literal and not the one of the other endpoint. -/
structure Replies (e : Exporter) (w : World) (t : Instant) (scraped : Except Fault String)
    (inspected : Except Fault Deployment) (metrics health : Web.Reply) : Prop where
  scrape : (e.scrape.run w t).outcome.map (·.1.1) = some scraped
  inspect : (e.inspect.run w t).outcome.map (·.1.1) = some inspected
  metrics : Web.IsLiteral e.settings.metricsPath → e.settings.metricsPath ≠ "/health" →
    ∀ target, Web.pathOf target = e.settings.metricsPath →
    ((Web.respond e ⟨"GET", target⟩).run w t).outcome.map (·.1.1) = some metrics
  health : ∀ target, Web.pathOf target = "/health" →
    ((Web.respond e ⟨"GET", target⟩).run w t).outcome.map (·.1.1) = some health

theorem replies_of_outcomes {x : Except Fault String} {y : Except Fault Deployment} {e' e'' : Exporter}
    {scraped inspected : Instant} (hx : (e.scrape.run w t).outcome = some ((x, e'), scraped))
    (hy : (e.inspect.run w t).outcome = some ((y, e''), inspected)) :
    e.Replies w t x y (Web.metricsReply x) (Web.healthReply y) where
  scrape := by rw [hx]; rfl
  inspect := by rw [hy]; rfl
  metrics hliteral hpath target htarget := by
    have hendpoint : Web.endpoint? e.settings.metricsPath (Web.pathOf target) = some .metrics := by
      rw [htarget, Web.endpoint?_metrics hliteral hpath]
    rw [Web.respond_get hendpoint, Web.outcome_serve_metrics hx]
    rfl
  health target htarget := by
    have hendpoint : Web.endpoint? e.settings.metricsPath (Web.pathOf target) = some .health := by
      rw [htarget, Web.endpoint?_health]
    rw [Web.respond_get hendpoint, Web.outcome_serve_health hy]
    rfl

/-- With a connection, kept or delivered in time, nothing else can fail. -/
theorem exists_replies_ok (h : e.kept?.isSome = true ∨ (delivered? e.settings w t).isSome = true) :
    ∃ text d body, Web.HealthText d body ∧ e.Replies w t (.ok text) (.ok d)
      ⟨200, some Web.expositionText, text⟩ ⟨200, some Web.jsonText, body⟩ := by
  have hobtain : ∃ c e' t' log, e.obtain.run w t = ⟨some ((.ok c, e'), t'), log⟩ := by
    cases hk : e.kept? with
    | some c => exact ⟨_, _, _, _, run_obtain_of_kept hk⟩
    | none =>
      rw [hk, Option.isSome_none] at h
      obtain ⟨⟨client, connected⟩, hd⟩ := Option.isSome_iff_exists.1 (h.resolve_left Bool.false_ne_true)
      obtain ⟨d, ready, log, -, hconnect⟩ := run_connect_of_delivered hd
      exact ⟨_, _, _, _, run_obtain_of_attempt hk hconnect⟩
  obtain ⟨c, e', t', log, hobtain⟩ := hobtain
  obtain ⟨found, began, ready, -, -, -, hexposition⟩ := e'.outcome_exposition c w t'
  exact ⟨_, c.deployment, _, Web.healthText_healthBody c.deployment,
    replies_of_outcomes (congrArg Run.outcome (run_scrape_of_ok hobtain hexposition))
      (congrArg Run.outcome (run_inspect_of_ok hobtain))⟩

/-- Without a connection the request fails, for a reason of the connection. -/
theorem exists_replies_error (hk : e.kept? = none) (hd : delivered? e.settings w t = none) :
    ∃ message, e.Replies w t (.error (.connection message)) (.error (.connection message))
      (Web.failure (.connection message)) (Web.failure (.connection message)) := by
  obtain ⟨fault, ready, hfault, hconnect⟩ := run_connect_of_undelivered hd
  have hobtain := run_obtain_of_attempt hk hconnect
  cases fault with
  | connection message =>
    exact ⟨message, replies_of_outcomes (congrArg Run.outcome (run_scrape_of_error hobtain))
      (congrArg Run.outcome (run_inspect_of_error hobtain))⟩
  | _ => cases hfault

/-! ## Whole lives -/

/-- The connector delivers a client in time to one of the stages. -/
def DeliveredIn (s : Settings) (life : List Stage) : Prop :=
  ∃ x ∈ life, (delivered? s x.world x.began).isSome = true

/-- A request that comes at `t` after a life has a connection: a client is delivered in time to it or,
when the connection is shared, was delivered in time to a stage of the life. -/
def Connected (s : Settings) (life : List Stage) (w : World) (t : Instant) : Prop :=
  (delivered? s w t).isSome = true ∨ s.shared = true ∧ DeliveredIn s life

/-- The exporter after a life: it keeps a connection just when it is shared and a client was delivered. -/
structure Prepared (s : Settings) (life : List Stage) (e : Exporter) : Prop where
  settings : e.settings = s
  sound : e.Sound
  kept : e.kept?.isSome = true ↔ s.shared = true ∧ DeliveredIn s life

theorem deliveredIn_append {life : List Stage} {x : Stage} :
    DeliveredIn s (life ++ [x]) ↔ DeliveredIn s life ∨ (delivered? s x.world x.began).isSome = true := by
  unfold DeliveredIn
  simp only [List.mem_append, List.mem_singleton, or_and_right, exists_or, exists_eq_left]

theorem Prepared.apart {life : List Stage} (h : Prepared s life e) (hs : e.settings.shared = false)
    (life' : List Stage) : Prepared s life' e := by
  refine ⟨h.settings, h.sound, ?_⟩
  rw [kept?_apart hs, ← h.settings, hs]
  simp

/-- A kept connection stays, whatever is delivered after it. -/
theorem Prepared.append {life : List Stage} (h : Prepared s life e) (hk : e.kept?.isSome = true)
    (x : Stage) : Prepared s (life ++ [x]) e := by
  refine ⟨h.settings, h.sound, ?_⟩
  obtain ⟨hshared, hdelivered⟩ := h.kept.1 hk
  exact ⟨fun _ => ⟨hshared, deliveredIn_append.2 (.inl hdelivered)⟩, fun _ => hk⟩

/-- What an attempt with a shared connection prepares. -/
theorem Prepared.attempt {life : List Stage} {x : Stage} (h : Prepared s life e)
    (hs : e.settings.shared = true) (hx : e.Attempts x) :
    Prepared s (life ++ [x]) x.exporter := by
  rcases hx with ⟨hrefused, he⟩ | ⟨c, ⟨connected, identified, detection, used, -, hd, -⟩, he, hkeeps⟩
  · -- a refused attempt changes neither what is kept nor what was delivered
    rw [he]
    refine ⟨h.settings, h.sound, ?_⟩
    rw [h.kept, deliveredIn_append, ← h.settings, hrefused.undelivered]
    simp
  · have hsettings : x.exporter.settings = s := by
      rw [he, settings_keeping, h.settings]
    refine ⟨hsettings, fun c' hc' => ?_, ?_⟩
    · rw [hkeeps.kept] at hc'
      cases hc'
      exact hkeeps.known
    · rw [kept?_shared (hsettings ▸ h.settings ▸ hs), hkeeps.kept, deliveredIn_append, ← h.settings, hd]
      simp [hs]

/-- One request more. -/
theorem Prepared.exists_stage {life : List Stage} (h : Prepared s life e) (t : Instant) (v : Visit) :
    ∃ x, stage? e t v = some x ∧ Prepared s (life ++ [x]) x.exporter := by
  cases hs : e.settings.shared with
  | false =>
    obtain ⟨x, hx, he, -⟩ := exists_stage_apart hs t v
    exact ⟨x, hx, he ▸ h.apart hs _⟩
  | true =>
    cases hc : e.connection with
    | some c =>
      obtain ⟨x, hx, he, -⟩ := exists_stage_kept hs hc (h.sound c hc) t v
      have hkept : e.kept?.isSome = true := by rw [kept?_shared hs, hc]; rfl
      exact ⟨x, hx, he ▸ h.append hkept x⟩
    | none =>
      obtain ⟨x, hx, hattempts⟩ := exists_stage_unconnected hs hc t v
      exact ⟨x, hx, h.attempt hs hattempts⟩

theorem prepared_fresh (s : Settings) (w : World) (t : Instant) : Prepared s [] (fresh s w t) where
  settings := rfl
  sound c hc := by cases hc
  kept := by
    have hnone : (fresh s w t).kept? = none := by
      unfold kept?
      split <;> rfl
    rw [hnone]
    simp [DeliveredIn]

theorem exists_opening_prepared (s : Settings) (w : World) (t : Instant) :
    ∃ x, opening? s w t = some x ∧ Prepared s [x] x.exporter := by
  have hfresh := prepared_fresh s w t
  cases hs : s.shared with
  | false =>
    obtain ⟨x, hx, he, -⟩ := exists_opening_apart hs w t
    exact ⟨x, hx, he ▸ hfresh.apart hs _⟩
  | true =>
    obtain ⟨x, hx, hattempts⟩ := exists_opening_shared hs w t
    exact ⟨x, hx, hfresh.attempt hs hattempts⟩

/-- A life goes on from its last stage, and what it has prepared is known all along. -/
theorem exists_history_prepared {life : List Stage} {last : Stage} (hlast : life.getLast? = some last)
    (h : Prepared s life last.exporter) (visits : List Visit) :
    ∃ stages last', history last.exporter last.ended visits = some stages ∧
      (life ++ stages).getLast? = some last' ∧ Prepared s (life ++ stages) last'.exporter := by
  -- each request ends the life that the next one comes after, so the life grows with the induction
  induction visits generalizing life last with
  | nil => exact ⟨[], last, rfl, by rwa [List.append_nil], by rwa [List.append_nil]⟩
  | cons v rest ih =>
    obtain ⟨x, hx, hprepared⟩ := h.exists_stage last.ended v
    have hlast' : (life ++ [x]).getLast? = some x := by rw [List.getLast?_append]; rfl
    obtain ⟨stages, last', hstages, hend, hall⟩ := ih hlast' hprepared
    rw [List.append_assoc, List.singleton_append] at hend hall
    refine ⟨x :: stages, last', ?_, hend, hall⟩
    rw [history, hx, Option.bind_eq_bind, Option.bind_some, hstages]
    rfl

/-- Requests fail only for want of a connection. After any life of an exporter, whatever its settings are
and whatever connectors and servers did in it and do now: the roster of a connection can always be made.
If the connector delivers a client in time to the request or, when the connection is shared, did so to a
stage of the life, then a scrape gives a text and an inspection what is known of the server. The web
replies with the text on the metrics path, and on the path of health with the role and the labels, as an
object of JSON from which they are read back. Otherwise both fail with one fault of the connection, and
the web tells of that. -/
theorem requests_fail_only_unconnected (s : Settings) (w : World) (t : Instant) (visits : List Visit) :
    ∃ life last, lifetime s w t visits = some life ∧ life.getLast? = some last ∧
      last.exporter.settings = s ∧ ∀ (w' : World) (t' : Instant),
        (∀ c, ∃ r ready, ((last.exporter.roster c).run w' t').outcome = some (.ok r, ready)) ∧
        (Connected s life w' t' → ∃ text d body, Web.HealthText d body ∧
          last.exporter.Replies w' t' (.ok text) (.ok d)
            ⟨200, some "text/plain; version=0.0.4; charset=utf-8", text⟩
            ⟨200, some "application/json", body⟩) ∧
        (¬ Connected s life w' t' → ∃ message, last.exporter.Replies w' t'
          (.error (.connection message)) (.error (.connection message))
          ⟨500, some "text/plain; charset=utf-8",
            "An error has occurred while connecting to MongoDB:\n\ncannot connect to mongodb: " ++ message⟩
          ⟨500, some "text/plain; charset=utf-8",
            "An error has occurred while connecting to MongoDB:\n\ncannot connect to mongodb: " ++ message⟩) := by
  obtain ⟨first, hfirst, hprepared⟩ := exists_opening_prepared s w t
  obtain ⟨later, last, hlater, hlast, h⟩ := exists_history_prepared rfl hprepared visits
  refine ⟨first :: later, last, ?_, hlast, h.settings, fun w' t' => ⟨fun c => ?_, fun hconnected => ?_,
    fun hunconnected => ?_⟩⟩
  · rw [lifetime, hfirst, Option.bind_eq_bind, Option.bind_some, hlater]
    rfl
  · obtain ⟨found, began, -, -, hroster⟩ := last.exporter.outcome_roster c w' t'
    exact ⟨_, began, hroster⟩
  · refine exists_replies_ok ?_
    rw [h.settings]
    exact hconnected.symm.imp_left h.kept.2
  · have hnone : last.exporter.kept? = none ∧ delivered? last.exporter.settings w' t' = none := by
      rw [h.settings, ← Option.not_isSome_iff_eq_none, ← Option.not_isSome_iff_eq_none, h.kept]
      exact ⟨fun hk => hunconnected (.inr hk), fun hd => hunconnected (.inl hd)⟩
    obtain ⟨message, hreplies⟩ := exists_replies_error hnone.1 hnone.2
    rw [Web.failure_connection] at hreplies
    exact ⟨message, hreplies⟩

/-- Neither connectors nor servers answer. -/
def mute : World where
  connect _ _ := .never
  answer _ _ _ := .never
  wallClock _ := 0
  residentBytes _ := none
  parallelism := none

/-- The usual settings, with a shared connection. -/
def pooled : Settings := { Settings.default with shared := true }

/-- A connector with a client, before a member of a replica set that answers the greeting alone. -/
def greeting : World where
  connect _ _ := .after 5 (.ok 0)
  answer
    | _, _, .command "admin" [("hello", _)] => .after 1 (.ok [("setName", .string "r\"s")])
    | _, _, _ => .after 1 (.error (.command "hello" (some 13) "not authorized"))
  wallClock _ := 0
  residentBytes _ := none
  parallelism := none

/-- The start finds a connector that does not answer, and so do readers much later. If in between there
was a request with a client, its connection still serves the readers, with a text and with what the server
was found to be; without it the readers are refused. -/
theorem requests_fail_only_unconnected_of_pool :
    (∃ life last text, lifetime pooled mute 0 [⟨greeting, 1, .inspect⟩] = some life ∧
      life.getLast? = some last ∧
      ((Web.respond last.exporter ⟨"GET", "/metrics?name=up"⟩).run mute (10 ^ 12)).outcome.map
        (·.1.1) = some ⟨200, some "text/plain; version=0.0.4; charset=utf-8", text⟩ ∧
      ((Web.respond last.exporter ⟨"GET", "/health?now"⟩).run mute (10 ^ 12)).outcome.map
        (·.1.1) = some ⟨200, some "application/json",
          "\x7b\"role\":\"replset-member\",\"labels\":\x7b\"rs_nm\":\"r\\\"s\"\x7d\x7d"⟩) ∧
    ∃ life last message, lifetime pooled mute 0 [] = some life ∧ life.getLast? = some last ∧
      ∀ target ∈ ["/metrics?name=up", "/health?now"],
        ((Web.respond last.exporter ⟨"GET", target⟩).run mute (10 ^ 12)).outcome.map
          (·.1.1) = some ⟨500, some "text/plain; charset=utf-8",
            "An error has occurred while connecting to MongoDB:\n\ncannot connect to mongodb: " ++ message⟩ := by
  have hliteral : Web.IsLiteral pooled.metricsPath := by decide
  have hpath : pooled.metricsPath ≠ "/health" := by decide
  have hmetrics : Web.pathOf "/metrics?name=up" = pooled.metricsPath := by decide
  have hhealth : Web.pathOf "/health?now" = "/health" := by decide
  have hnone : delivered? pooled mute (10 ^ 12) = none := rfl
  refine ⟨?_, ?_⟩
  · obtain ⟨life, last, hlife, hlast, hs, h⟩ := requests_fail_only_unconnected pooled mute 0
      [⟨greeting, 1, .inspect⟩]
    have hany : (lifetime pooled mute 0 [⟨greeting, 1, .inspect⟩]).map
        (·.any fun x => (delivered? pooled x.world x.began).isSome) = some true := rfl
    rw [hlife, Option.map_some, Option.some.injEq, List.any_eq_true] at hany
    obtain ⟨text, d, body, hbody, hreplies⟩ := (h mute (10 ^ 12)).2.1 (.inr ⟨rfl, hany⟩)
    -- the reader is told what the request in between found out
    have hknown : ((lifetime pooled mute 0 [⟨greeting, 1, .inspect⟩]).bind fun life =>
        life.getLast?.bind fun last =>
          (last.exporter.inspect.run mute (10 ^ 12)).outcome.map (·.1.1)) =
        some (.ok ⟨.replicaMember, Keyed.single "rs_nm" "r\"s"⟩) := rfl
    rw [hlife, Option.bind_some, hlast, Option.bind_some, hreplies.inspect] at hknown
    cases hknown
    refine ⟨life, last, text, hlife, hlast, hreplies.metrics (hs ▸ hliteral) (hs ▸ hpath) _ (hs ▸ hmetrics), ?_⟩
    rw [hreplies.health _ hhealth, hbody.form]
    decide
  · obtain ⟨life, last, hlife, hlast, hs, h⟩ := requests_fail_only_unconnected pooled mute 0 []
    have hany : (lifetime pooled mute 0 []).map
        (·.any fun x => (delivered? pooled x.world x.began).isSome) = some false := rfl
    rw [hlife, Option.map_some, Option.some.injEq] at hany
    have hunconnected : ¬ Connected pooled life mute (10 ^ 12) := by
      rintro (hnow | ⟨-, hbefore⟩)
      · rw [hnone] at hnow
        cases hnow
      · rw [List.any_eq_true.2 hbefore] at hany
        cases hany
    obtain ⟨message, hreplies⟩ := (h mute (10 ^ 12)).2.2 hunconnected
    refine ⟨life, last, message, hlife, hlast, List.forall_mem_cons.2 ⟨?_, List.forall_mem_singleton.2 ?_⟩⟩
    · exact hreplies.metrics (hs ▸ hliteral) (hs ▸ hpath) _ (hs ▸ hmetrics)
    · exact hreplies.health _ hhealth

end Exporter

end MongoMetrics
