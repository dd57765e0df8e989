/-
How long requests take. Whatever is waited for is waited for under the limit: the attempt to connect,
finding out about the server, counting the collections, and the readings, which go side by side. So no
server can hold up a request for longer than these four together, and what stalls only fails to connect,
leaves the server unknown, or leaves samples out. Main statement (`requests_end_in_time`).
-/
import MongoMetrics.Proofs.Server.Deadlines
import MongoMetrics.Proofs.Service.Requests

namespace MongoMetrics

open MongoMetrics.Scrape MongoMetrics.Session

variable {w : World} {t : Instant} {d : Duration}

/-! ## Rosters -/

namespace Scrape

/-- Describing takes `d` at most, and collecting no time. -/
structure Collector.Prompt (d : Duration) (c : Collector) : Prop where
  describe : Session.Prompt d c.describe
  collect : ∀ s, Session.Prompt 0 (c.collect s)

/-- A source is read under the limit, however many questions that takes. -/
theorem Source.prompt_collector (source : Source) (c : Conditions) :
    (source.collector c).Prompt c.limit where
  describe _ _ := ⟨_, _, congrArg Run.outcome (run_describeSource source c _ _),
    readyWithin_le c.limit source.fetch.attempt _ _⟩
  collect s := prompt_pure (s.getD [])

theorem prompt_processCollector (started : Instant) (bootMillis : Int) :
    (processCollector started bootMillis).Prompt d where
  describe _ t := ⟨_, t, congrArg Run.outcome (run_describeProcess started bootMillis),
    Nat.le_add_right t d⟩
  collect s := prompt_pure (s.getD [])

/-- A scrape takes as long as its slowest description: the collectors do not wait for each other. -/
theorem Roster.prompt_gather {r : Roster} (h : ∀ m ∈ r.members, m.1.Prompt d) :
    Session.Prompt d r.gather := by
  have hplace : ∀ p ∈ r.members.zipIdx, p.1.1.Prompt d := fun p hp =>
    h p.1 (List.fst_mem_of_mem_zipIdx hp)
  -- the second wave only replays what the first one has read
  refine (prompt_race fun s hs => ?_).bind_atOnce fun described => ?_
  · obtain ⟨p, hp, rfl⟩ := List.mem_map.1 hs
    exact (hplace p hp).describe.map _
  · refine Prompt.map (prompt_race fun s hs => ?_) _
    obtain ⟨p, hp, rfl⟩ := List.mem_map.1 hs
    exact ((hplace p hp).collect _).map _

end Scrape

namespace Exporter

variable {s : Settings} {e : Exporter} {c : Connection}

/-! ## Connecting -/

theorem prompt_openClient (s : Settings) : Prompt s.limit (openClient s) := by
  refine (prompt_within s.limit _).bind_atOnce fun x => ?_
  split <;> exact prompt_pure _

theorem prompt_identifyInTime (s : Settings) (client : Client) :
    Prompt s.limit (identifyInTime s client) :=
  (prompt_within s.limit _).map _

theorem prompt_connect (s : Settings) : Prompt (2 * s.limit) (connect s) := by
  rw [Nat.two_mul]
  refine (prompt_openClient s).bind fun x => ?_
  cases x with
  | ok client => exact (prompt_identifyInTime s client).map _
  | error fault => exact (prompt_pure _).mono (Nat.zero_le _)

/-- A connector that stalls fails the attempt when the limit is over. -/
theorem outcome_connect_of_stalled (h : Stalls s.limit (Session.connect s.uri) w t) :
    ((connect s).run w t).outcome =
      some (.error (.connection (Fault.timeout s.limit).message), t + s.limit) := by
  have hopen : ((openClient s).run w t).outcome =
      some (.error (.connection (Fault.timeout s.limit).message), t + s.limit) := by
    unfold openClient
    rw [outcome_bind, h.outcome_within]
    rfl
  unfold connect
  rw [outcome_bind, hopen]
  rfl

/-- A server that stalls when it is asked about itself is unknown when the limit is over. -/
theorem outcome_connect_of_silent {client : Client} {connected : Instant}
    (hd : delivered? s w t = some (client, connected))
    (h : Stalls s.limit (Deployment.identify client) w connected) :
    ((connect s).run w t).outcome = some (.ok ⟨client, .unknown⟩, connected + s.limit) := by
  have hidentify : ((identifyInTime s client).run w connected).outcome =
      some (.unknown, connected + s.limit) := by
    unfold identifyInTime
    rw [outcome_bind, h.outcome_within]
    rfl
  unfold connect
  rw [outcome_bind, run_openClient_of_delivered hd, Option.bind_some]
  dsimp only
  rw [outcome_bind, hidentify]
  rfl

/-- The connection is there in time, or the attempt has failed. Who stalls is given up on: a connector,
and a server that is asked about itself. -/
structure ObtainsInTime (e : Exporter) (w : World) (t : Instant) (x : Except Fault Connection)
    (ready : Instant) : Prop where
  ready_le : ready ≤ t + 2 * e.settings.limit
  stalledConnector : e.kept? = none → Stalls e.settings.limit (Session.connect e.settings.uri) w t →
    x = .error (.connection (Fault.timeout e.settings.limit).message)
  stalledServer : e.kept? = none → ∀ client connected,
    delivered? e.settings w t = some (client, connected) →
    Stalls e.settings.limit (Deployment.identify client) w connected → x = .ok ⟨client, .unknown⟩

theorem exists_obtain (e : Exporter) (w : World) (t : Instant) : ∃ x e' ready log,
    e.obtain.run w t = ⟨some ((x, e'), ready), log⟩ ∧ e'.settings = e.settings ∧
      e.ObtainsInTime w t x ready := by
  cases hk : e.kept? with
  | some c =>
    refine ⟨_, _, _, _, run_obtain_of_kept hk, rfl, Nat.le_add_right t _, fun h => ?_, fun h => ?_⟩
    · rw [hk] at h
      cases h
    · rw [hk] at h
      cases h
  | none =>
    obtain ⟨x, ready, hx, hready⟩ := prompt_connect e.settings w t
    have hconnect : (connect e.settings).run w t =
        ⟨some (x, ready), ((connect e.settings).run w t).events⟩ := by rw [← hx]
    refine ⟨x, e.leaving x, ready, _, run_obtain_of_attempt hk hconnect, e.settings_leaving x,
      hready, fun _ hstall => ?_, fun _ client connected hd hstall => ?_⟩
    · rw [outcome_connect_of_stalled hstall] at hx
      cases hx
      rfl
    · rw [outcome_connect_of_silent hd hstall] at hx
      cases hx
      rfl

/-! ## Choosing collectors -/

theorem prompt_readsStats (s : Settings) (client : Client) : Prompt s.limit (readsStats s client) := by
  unfold readsStats
  split
  · exact (prompt_pure _).mono (Nat.zero_le _)
  · split
    · exact (prompt_pure _).mono (Nat.zero_le _)
    · refine (prompt_within s.limit _).bind_atOnce fun count => ?_
      split <;> exact prompt_pure _

theorem prompt_sources (s : Settings) (c : Connection) : Prompt s.limit (sources s c) := by
  rw [sources_eq]
  refine ((prompt_readsStats s c.client).bind_atOnce fun reads => ?_).map _
  split <;> exact prompt_pure _

/-- Where collections are limited and counting them stalls, no statistics of them are read. -/
theorem outcome_statsSources_of_stalled {client : Client} (hlimit : s.collectionLimit ≠ 0)
    (h : Stalls s.limit (Catalogue.countCollections client [] []).attempt w t) :
    ∃ ready, ((statsSources s client).run w t).outcome = some ([], ready) := by
  have hreads : ∃ ready, ((readsStats s client).run w t).outcome = some (false, ready) := by
    unfold readsStats
    cases s.wantsStats with
    | false => exact ⟨t, rfl⟩
    | true =>
      rw [if_neg (by simp), if_neg (by simpa using hlimit)]
      refine ⟨t + s.limit, ?_⟩
      rw [outcome_bind, h.outcome_within]
      rfl
  obtain ⟨ready, hready⟩ := hreads
  refine ⟨ready, ?_⟩
  unfold statsSources
  rw [outcome_bind, hready]
  rfl

theorem no_stats_of_stalled {found : List Scrape.Source} {began : Instant}
    (hfound : ((sources s c).run w t).outcome = some (found, began)) (hlimit : s.collectionLimit ≠ 0)
    (h : Stalls s.limit (Catalogue.countCollections c.client [] []).attempt w t) :
    ∀ source ∈ found, source.family ≠ "collstats" ∧ source.family ≠ "indexstats" := by
  obtain ⟨ready, hstats⟩ := outcome_statsSources_of_stalled hlimit h
  rw [sources_eq, outcome_map, hstats] at hfound
  cases hfound
  have hamong := among_withStats s c (among_nil [])
  have hnames : ∀ name ∈ ["general", "diagnosticdata", "replicasetstatus", "dbstats"] ++ [] ++ ["sharded"],
      name ≠ "collstats" ∧ name ≠ "indexstats" := by decide
  intro source hsource
  exact hnames _ (hamong.names.subset (List.mem_map_of_mem hsource))

/-! ## Expositions -/

/-- The text is there in time: the sources are chosen under the limit, and they are read side by side
under the limit. What stalls is left out: the statistics of collections, when counting these stalls, and
each source that stalls when it is read. -/
def ExposesInTime (e : Exporter) (c : Connection) (w : World) (t : Instant) (text : String)
    (ready : Instant) : Prop :=
  ∃ found began, ((sources e.settings c).run w t).outcome = some (found, began) ∧
    began ≤ t + e.settings.limit ∧ ready ≤ began + e.settings.limit ∧
    text = Exposition.text (familiesOf ((Member.process e.started e.bootMillis).built w began ++
      found.flatMap fun source => (reading source (conditions e.settings c) w began).getD [])) ∧
    (e.settings.collectionLimit ≠ 0 →
      Stalls e.settings.limit (Catalogue.countCollections c.client [] []).attempt w t →
      ∀ source ∈ found, source.family ≠ "collstats" ∧ source.family ≠ "indexstats") ∧
    ∀ source ∈ found, Stalls e.settings.limit source.fetch.attempt w began →
      reading source (conditions e.settings c) w began = none

theorem reading_of_stalled {source : Scrape.Source} {conditions : Conditions}
    (h : Stalls conditions.limit source.fetch.attempt w t) : reading source conditions w t = none := by
  unfold reading
  rw [h.valueWithin_eq]

theorem prompt_render_members (e : Exporter) (c : Connection) (found : List Scrape.Source) :
    Prompt e.settings.limit (Roster.ofMembers (e.members c found)).render := by
  refine Prompt.map (Roster.prompt_gather ?_) _
  exact forall_mem_members (prompt_processCollector _ _) fun source _ =>
    source.prompt_collector (conditions e.settings c)

theorem exists_exposition (e : Exporter) (c : Connection) (w : World) (t : Instant) : ∃ text ready,
    ((e.exposition c).run w t).outcome = some (.ok text, ready) ∧ e.ExposesInTime c w t text ready := by
  obtain ⟨found, began, ready, hfound, -, hroster, hexposition⟩ := e.outcome_exposition c w t
  have hready : ready ≤ began + e.settings.limit := by
    have hrender := (prompt_render_members e c found).map fun p => (Except.ok p.1 : Except Fault String)
    -- the exposition is what the roster renders, from the instant on at which it is made
    unfold exposition at hexposition
    rw [outcome_bind, hroster, Option.bind_some] at hexposition
    exact hrender.ready_le hexposition
  exact ⟨_, ready, hexposition, found, began, hfound, (prompt_sources e.settings c).ready_le hfound,
    hready, rfl, fun hlimit hstall => no_stats_of_stalled hfound hlimit hstall,
    fun source _ hstall => reading_of_stalled hstall⟩

theorem ExposesInTime.ready_le {text : String} {ready : Instant} (h : e.ExposesInTime c w t text ready) :
    ready ≤ t + 2 * e.settings.limit := by
  obtain ⟨found, began, -, hbegan, hready, -⟩ := h
  calc ready ≤ began + e.settings.limit := hready
    _ ≤ t + e.settings.limit + e.settings.limit := Nat.add_le_add_right hbegan _
    _ = t + 2 * e.settings.limit := by rw [Nat.two_mul, Nat.add_assoc]

/-! ## Requests -/

/-- No server can hold up a request. Whatever the settings are, whatever connection is kept, and whatever
connectors and servers do, be it that they never answer: asking for what is known about the server ends
after twice the limit at the latest, and a scrape after four times the limit. A connection is obtained in
time or the request fails; with a connection the scrape comes to a text, in time as well. -/
theorem requests_end_in_time (e : Exporter) (w : World) (t : Instant) : ∃ obtained e' t₁,
    (e.obtain.run w t).outcome = some ((obtained, e'), t₁) ∧ e'.settings = e.settings ∧
    e.ObtainsInTime w t obtained t₁ ∧
    (∃ ended, (e.inspect.run w t).outcome = some ((obtained.map (·.deployment), e'), ended) ∧
      ended ≤ t + 2 * e.settings.limit) ∧
    ∃ scraped ended, (e.scrape.run w t).outcome = some ((scraped, e'), ended) ∧
      ended ≤ t + 4 * e.settings.limit ∧
      match obtained with
      | .error fault => scraped = .error fault
      | .ok c => ∃ text, scraped = .ok text ∧ e'.ExposesInTime c w t₁ text ended := by
  obtain ⟨obtained, e', t₁, log, hobtain, hsettings, hin⟩ := e.exists_obtain w t
  refine ⟨obtained, e', t₁, congrArg Run.outcome hobtain, hsettings, hin, ?_⟩
  have hobtained : t₁ ≤ t + 2 * e.settings.limit := hin.ready_le
  have htwice : t + 2 * e.settings.limit + 2 * e.settings.limit = t + 4 * e.settings.limit := by
    rw [Nat.add_assoc, ← Nat.add_mul]
  cases obtained with
  | error fault =>
    refine ⟨⟨t₁, congrArg Run.outcome (run_inspect_of_error hobtain), hobtained⟩, .error fault, t₁,
      congrArg Run.outcome (run_scrape_of_error hobtain), ?_, rfl⟩
    exact Nat.le_trans hobtained (Nat.le_trans (Nat.le_add_right _ _) (Nat.le_of_eq htwice))
  | ok c =>
    obtain ⟨text, ended, htext, hexposes⟩ := e'.exists_exposition c w t₁
    refine ⟨⟨t₁, congrArg Run.outcome (run_inspect_of_ok hobtain), hobtained⟩, .ok text, ended,
      congrArg Run.outcome (run_scrape_of_ok hobtain htext), ?_, text, rfl, hexposes⟩
    have hended := hexposes.ready_le
    rw [hsettings] at hended
    calc ended ≤ t₁ + 2 * e.settings.limit := hended
      _ ≤ t + 2 * e.settings.limit + 2 * e.settings.limit := Nat.add_le_add_right hobtained _
      _ = t + 4 * e.settings.limit := htwice

/-- A connector that takes 50 milliseconds, and a server that never answers. -/
def silent : World where
  connect _ _ := .after (Duration.ofMillis 50) (.ok 0)
  answer _ _ _ := .never
  wallClock _ := 0
  residentBytes _ := none
  parallelism := none

/-- Statistics of a collection are asked for, unless there are other collections. -/
def choosy : Settings :=
  { Settings.default with
    collectionNamespaces := ["shop.orders"], collectionLimit := 1, limit := Duration.ofMillis 50 }

-- no smaller bound would do: this scrape succeeds, after four times the limit
example : ((⟨choosy, none, 0, 0⟩ : Exporter).scrape.run silent 7).outcome.map
    (fun r => (r.1.1.isOk, r.2)) = some (true, 7 + 4 * choosy.limit) := by rfl

end Exporter

end MongoMetrics
