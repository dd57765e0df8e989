/-
The sign of life in a scrape. The first source asks for it, and its sample has the labels of the
deployment alone. It takes part in a scrape like any other reading: an answer, be it a failure, makes a
sample of one or zero, but without an answer within the limit there is no reading and no sample. Of all
other sources only the diagnostic data can give a sample of that series, and then that one counts. Main
statement (`scrape_reports_life`).
-/
import MongoMetrics.Proofs.Extraction.Heads
import MongoMetrics.Proofs.Service.Requests
import MongoMetrics.Proofs.Source.Batches

namespace MongoMetrics

open MongoMetrics.Exposition MongoMetrics.Extraction MongoMetrics.Scrape

variable {w : World} {t : Instant}

/-! ## Other names -/

/-- The metric of the sign of life. -/
def upName : String := "mongodb_up"

/-- Below a path that begins with another letter no metric has the name. -/
theorem Extraction.NameBelow.ne_upName {c : Char} {name : String} (h : NameBelow c name) (hc : c ≠ 'u') :
    name ≠ upName := by
  rintro rfl
  rcases h with ⟨legacy, hlegacy, hname⟩ | ⟨rest, hname, hrest⟩
  · have hall : ∀ x ∈ legacySections, upName ≠ x.metric := by decide
    exact hall legacy hlegacy hname
  · have hup : rest.toList = "up".toList := by
      have := congrArg String.toList hname
      rw [String.toList_append] at this
      exact (List.append_cancel_left (show namespaceText.toList ++ "up".toList = _ from this)).symm
    unfold BeginsWith at hrest
    rw [hup] at hrest
    exact hc (Option.some.inj hrest).symm

/-- The path begins so that all metrics below it have other names. -/
def Elsewhere (path : String) : Prop :=
  ∃ c, isNameChar c = true ∧ c ≠ 'l' ∧ c ≠ 'u' ∧ BeginsWith c path

theorem Elsewhere.ne_upName {f : Fetched} (h : Elsewhere f.path) (naming : Naming) (base : Labels) :
    ∀ s ∈ documentSamples naming base f, s.name ≠ upName := by
  obtain ⟨c, hc, hl, hu, hpath⟩ := h
  intro s hs
  exact (name_of_mem_extract hc hl hpath naming _ f.document s hs).ne_upName hu

/-! ## Other sources -/

/-- Whatever is fetched from the source gives samples of other names. -/
structure Quiet (source : Source) : Prop where
  fetch : Request.Yields source.fetch (Source.MadeOf (fun f => Elsewhere f.path) fun s => s.name ≠ upName)
  augment : ∀ documents, source.augment documents = []

namespace Source

theorem quiet_replicaStatus (client : Client) (deployment : Deployment) :
    Quiet (replicaStatus client deployment) :=
  ⟨yields_replicaStatus fun _ => (⟨'r', by decide⟩ : Elsewhere "replSetGetStatus"), fun _ => rfl⟩

theorem quiet_databaseStats (client : Client) (namespaces : List String) :
    Quiet (databaseStats client namespaces) := by
  refine ⟨yields_databaseStats fun database stats f hf => ?_, fun _ => rfl⟩
  rw [List.mem_singleton.1 hf]
  exact (⟨'d', by decide⟩ : Elsewhere "dbstats")

theorem quiet_collectionStats (client : Client) (namespaces : List String) (discovering : Bool)
    (naming : Naming) : Quiet (collectionStats client namespaces discovering naming) := by
  refine ⟨yields_collectionStats fun ns rows f hf => ?_, fun _ => rfl⟩
  obtain ⟨row, -, rfl⟩ := List.mem_map.1 hf
  exact (⟨'c', by decide⟩ : Elsewhere "collstats")

theorem quiet_indexStats (client : Client) (namespaces : List String) (discovering : Bool) :
    Quiet (indexStats client namespaces discovering) := by
  refine ⟨yields_indexStats fun ns row f hrow => ?_, fun _ => rfl⟩
  unfold indexRow? at hrow
  simp only [Option.bind_eq_bind, Option.bind_eq_some_iff] at hrow
  obtain ⟨key, -, accesses, -, he⟩ := hrow
  cases he
  exact (⟨'i', by decide⟩ : Elsewhere "indexstats.accesses")

theorem quiet_sharding (client : Client) : Quiet (sharding client) := by
  have hmetric : ∀ p ∈ sizeFields, "mongodb_mongos_db_coll_" ++ p.2.1 ≠ upName := by decide
  refine ⟨yields_sharding (fun database collection chunk f hf => ?_) fun database collection stats s hs => ?_,
    fun _ => rfl⟩
  · unfold chunkRow? at hf
    simp only [Option.bind_eq_bind, Option.bind_eq_some_iff] at hf
    obtain ⟨shard, -, count, -, he⟩ := hf
    cases he
    exact (⟨'s', by decide⟩ : Elsewhere "sharded collection chunks")
  · obtain ⟨p, hp, rfl⟩ := List.mem_map.1 hs
    exact hmetric p hp

end Source

theorem timing_ne_upName (family : String) (elapsed : Duration) :
    (timingSample family elapsed).name ≠ upName :=
  (by decide : "mongodb_collector_scrape_time_ms" ≠ upName)

theorem Quiet.ne_upName {source : Source} (h : Quiet source) (c : Conditions) (w : World) (t : Instant) :
    ∀ s ∈ (reading source c w t).getD [], s.name ≠ upName := by
  intro s hs
  unfold reading at hs
  split at hs
  · rename_i batch hbatch
    have hmade := h.fetch.of_valueWithin hbatch batch rfl
    have hmem := mem_of_mem_latest hs
    rw [h.augment, List.append_nil, List.mem_append, List.mem_append] at hmem
    rcases hmem with (hwalked | hready) | htiming
    · obtain ⟨f, hf, hs⟩ := List.mem_flatMap.1 hwalked
      exact (hmade.documents f hf).ne_upName _ _ s hs
    · obtain ⟨plain, hplain, rfl⟩ := List.mem_map.1 hready
      exact hmade.samples plain hplain
    · rw [List.mem_singleton.1 htiming]
      exact timing_ne_upName _ _
  · cases hs

theorem process_ne_upName {bootMillis : Int} {uptime : Duration} {resident threads : Option Nat} :
    ∀ s ∈ processSamples bootMillis uptime resident threads, s.name ≠ upName := by
  intro s hs
  unfold processSamples at hs
  rw [List.mem_append, List.mem_append, Option.mem_toList, Option.mem_toList, List.mem_cons,
    List.mem_singleton] at hs
  rcases hs with ((rfl | rfl) | hs) | hs
  · exact (by decide : "process_start_time_seconds" ≠ upName)
  · exact (by decide : "process_uptime_seconds" ≠ upName)
  · obtain ⟨bytes, -, rfl⟩ := Option.map_eq_some_iff.1 hs
    exact (by decide : "process_resident_memory_bytes" ≠ upName)
  · obtain ⟨n, -, rfl⟩ := Option.map_eq_some_iff.1 hs
    exact (by decide : "process_available_parallelism" ≠ upName)

/-! ## The answer -/

namespace Exporter

/-- How the server answers a ping at `t`, if it does so within the limit. -/
def pinged? (s : Settings) (client : Client) (w : World) (t : Instant) : Option Bool :=
  match w.answer client t (.command "admin" [("ping", .int32 1)]) with
  | .after delay x => if delay ≤ s.limit then some x.isOk else none
  | .never => none

/-- The sample that tells whether the server is up. -/
def upSample (c : Connection) (up : Bool) : Sample :=
  Sample.gauge upName "Whether MongoDB is up." (if up then 1 else 0) c.deployment.labels

def upSeries (c : Connection) : Series := ⟨upName, c.deployment.labels⟩

theorem snapshotOf_general (s : Settings) (c : Connection) (up : Bool) (elapsed : Duration) :
    snapshotOf (Source.general c.client) c.deployment.labels s.naming
      (Batch.ofSamples [Source.upSample up]) elapsed = [upSample c up, timingSample "general" elapsed] := by
  have hbase : withBase c.deployment.labels (Source.upSample up) = upSample c up := by
    unfold withBase upSample Source.upSample Sample.gauge
    simp only [Keyed.empty_fill]
    rfl
  have hne : (upSample c up).series ≠ (timingSample "general" elapsed).series := fun h =>
    timing_ne_upName "general" elapsed (congrArg Series.name h).symm
  show Sample.latest [withBase c.deployment.labels (Source.upSample up), timingSample "general" elapsed] = _
  rw [hbase]
  simp [Sample.latest, Sample.record, hne]

/-- What the ping of the first source comes to. -/
theorem outcome_ping (client : Client) (w : World) (t : Instant) :
    ((Source.ping client).attempt.run w t).outcome =
      match w.answer client t (.command "admin" [("ping", .int32 1)]) with
      | .after delay x => some (x.map fun _ => (), t + delay)
      | .never => none := by
  have hask : ((Deployment.administer client "ping").attempt.run w t).outcome = _ :=
    Session.outcome_ask client (.command "admin" [("ping", .int32 1)]) w t
  -- the ping drops the reply and keeps the fault
  show ((Deployment.administer client "ping" >>= fun _ => Pure.pure ()).attempt.run w t).outcome = _
  rw [Request.outcome_map, hask]
  cases w.answer client t (.command "admin" [("ping", .int32 1)]) <;> rfl

/-- The reading of the first source: a sample and its timing, if there is an answer in time. -/
theorem reading_general (s : Settings) (c : Connection) (w : World) (t : Instant) : ∃ elapsed,
    reading (Source.general c.client) (conditions s c) w t =
      (pinged? s c.client w t).map fun up => [upSample c up, timingSample "general" elapsed] := by
  have hfetch : ((Source.general c.client).fetch.attempt.run w t).outcome =
      ((Source.ping c.client).attempt.run w t).outcome.map fun r =>
        (.ok (Batch.ofSamples [Source.upSample r.1.isOk]), r.2) :=
    Session.outcome_map (Source.ping c.client).attempt fun answer =>
      (Except.ok (Batch.ofSamples [Source.upSample answer.isOk]) : Except Fault Batch)
  refine ⟨Session.readyWithin s.limit (Source.general c.client).fetch.attempt w t - t, ?_⟩
  unfold reading Session.valueWithin
  rw [hfetch, outcome_ping]
  unfold pinged?
  cases w.answer c.client t (.command "admin" [("ping", .int32 1)]) with
  | never => rfl
  | after delay x =>
    simp only [Option.map_some, Nat.add_le_add_iff_left]
    have hok : (x.map fun _ => ()).isOk = x.isOk := by cases x <;> rfl
    by_cases hle : delay ≤ s.limit
    · rw [if_pos (show delay ≤ (conditions s c).limit from hle), if_pos hle, hok]
      exact congrArg some (snapshotOf_general s c x.isOk _)
    · rw [if_neg (show ¬ delay ≤ (conditions s c).limit from hle), if_neg hle]
      rfl

/-! ## Scrapes -/

/-- The samples that the diagnostic data give in a scrape that reads from `t` on. -/
def diagnosticSamples (s : Settings) (c : Connection) (w : World) (t : Instant) : List Sample :=
  (diagnosticSources s c).flatMap fun source => (reading source (conditions s c) w t).getD []

/-- The latest of these samples that is one of the series of the sign of life. -/
def rival? (s : Settings) (c : Connection) (w : World) (t : Instant) : Option Sample :=
  Sample.lastOf (diagnosticSamples s c w t) (upSeries c)

/-- What must be in the families: after an answer in time, one sample of the series, which is the
answer if the diagnostic data give no other one; without an answer, at most theirs. -/
def ReportsLife (s : Settings) (c : Connection) (w : World) (t : Instant) (families : List Family) : Prop :=
  match pinged? s c.client w t with
  | some up => samplesOf families (upSeries c) = [(rival? s c w t).getD (upSample c up)]
  | none => ∀ x ∈ samplesOf families (upSeries c), rival? s c w t = some x

theorem reportsLife_familiesOf (s : Settings) (c : Connection) (w : World) (t : Instant)
    {process quiet : List Sample} (hprocess : ∀ x ∈ process, x.name ≠ upName)
    (hquiet : ∀ x ∈ quiet, x.name ≠ upName) : ReportsLife s c w t (familiesOf (process ++
      ((reading (Source.general c.client) (conditions s c) w t).getD [] ++
        (diagnosticSamples s c w t ++ quiet)))) := by
  have hseries : ∀ {l : List Sample}, (∀ x ∈ l, x.name ≠ upName) →
      Sample.lastOf l (upSeries c) = none := fun h =>
    Sample.lastOf_eq_none fun x hx hk => h x hx (congrArg Series.name hk)
  obtain ⟨elapsed, hreading⟩ := reading_general s c w t
  rw [hreading]
  unfold ReportsLife
  cases pinged? s c.client w t with
  | none =>
    intro x hx
    obtain ⟨hx, hk⟩ := List.mem_filter.1 hx
    have hk : x.series = upSeries c := by simpa using hk
    -- a sample in the families is the latest of its series, which here only the diagnostic data give
    have hcollapse : x ∈ Sample.collapse (process ++ (diagnosticSamples s c w t ++ quiet)) :=
      (List.mem_filter.1 (Family.mem_samples_byName.1 hx)).1
    rw [← Sample.latest_eq_collapse] at hcollapse
    have hlast := Sample.lastOf_of_mem_latest hcollapse
    rwa [hk, Sample.lastOf_append, Sample.lastOf_append, hseries hquiet, hseries hprocess, Option.none_or,
      Option.or_none] at hlast
  | some up =>
    have hlast : Sample.lastOf (process ++ upSample c up ::
        (timingSample "general" elapsed :: (diagnosticSamples s c w t ++ quiet))) (upSeries c) =
        some ((rival? s c w t).getD (upSample c up)) := by
      have hanswer : Sample.lastOf [upSample c up, timingSample "general" elapsed] (upSeries c) =
          some (upSample c up) := by
        have htiming : (timingSample "general" elapsed).series ≠ upSeries c := fun hk =>
          timing_ne_upName "general" elapsed (congrArg Series.name hk)
        -- the timing comes after the answer, but is of another series
        exact (Sample.lastOf_append_singleton [upSample c up] _ _).trans
          ((if_neg htiming).trans ((Sample.lastOf_append_singleton [] _ _).trans (if_pos rfl)))
      rw [show upSample c up :: (timingSample "general" elapsed :: (diagnosticSamples s c w t ++ quiet)) =
          [upSample c up, timingSample "general" elapsed] ++ (diagnosticSamples s c w t ++ quiet) from rfl,
        Sample.lastOf_append, Sample.lastOf_append, Sample.lastOf_append, hseries hquiet, hanswer,
        Option.none_or]
      cases hrival : Sample.lastOf (diagnosticSamples s c w t) (upSeries c) <;> simp [rival?, hrival]
    exact samplesOf_familiesOf_of_first hprocess hlast

/-- The families of an exposition are those of the readings of its sources, with the process first. -/
theorem text_of_exposition {e : Exporter} {c : Connection} {text : String} {ready : Instant}
    (h : ((e.exposition c).run w t).outcome = some (.ok text, ready)) : ∃ found t₂,
      ((sources e.settings c).run w t).outcome = some (found, t₂) ∧
      text = Exposition.text (familiesOf ((Member.process e.started e.bootMillis).built w t₂ ++
        found.flatMap fun source => (reading source (conditions e.settings c) w t₂).getD [])) := by
  obtain ⟨found, t₂, ready', hfound, -, -, hexposition⟩ := e.outcome_exposition c w t
  rw [h] at hexposition
  cases hexposition
  exact ⟨found, t₂, hfound, rfl⟩

/-- The sign of life in any scrape that succeeds. Let the sources of its connection be read from `t₂`
on. If the server answers the ping within the limit, then there is exactly one sample of the series,
with the labels of the deployment: one or zero, as the ping succeeded or failed, unless the diagnostic
data give a sample of that series, which then stands in its place. If the server does not answer within
the limit, there is none but for the one of the diagnostic data. -/
theorem scrape_reports_life (e : Exporter) (w : World) (t ready : Instant) (text : String)
    (e' : Exporter) (h : (e.scrape.run w t).outcome = some ((.ok text, e'), ready)) :
    ∃ c t₁ found t₂ families, (e.obtain.run w t).outcome = some ((.ok c, e'), t₁) ∧
      ((sources e'.settings c).run w t₁).outcome = some (found, t₂) ∧
      text = Exposition.text families ∧ ReportsLife e'.settings c w t₂ families := by
  unfold scrape at h
  rw [Session.outcome_bind, Option.bind_eq_some_iff] at h
  obtain ⟨⟨⟨x, kept⟩, t₁⟩, hobtain, h⟩ := h
  cases x with
  | error fault => cases h
  | ok c =>
    dsimp only at h
    rw [Session.outcome_bind, Option.bind_eq_some_iff] at h
    obtain ⟨⟨y, t₃⟩, hexposition, h⟩ := h
    rw [Session.run_bind_of_run (run_release kept c w t₃)] at h
    cases h
    obtain ⟨found, t₂, hfound, htext⟩ := text_of_exposition hexposition
    refine ⟨c, t₁, found, t₂, _, hobtain, hfound, htext, ?_⟩
    obtain ⟨quiet, rfl, hquiet⟩ := yields_sources e'.settings c (Source.quiet_replicaStatus _ _)
      (Source.quiet_databaseStats _) (Source.quiet_collectionStats _) (Source.quiet_indexStats _)
      (Source.quiet_sharding _) w t₁ found t₂ hfound
    rw [List.flatMap_cons, List.flatMap_append]
    refine reportsLife_familiesOf e'.settings c w t₂ process_ne_upName fun x hx => ?_
    obtain ⟨source, hsource, hx⟩ := List.mem_flatMap.1 hx
    exact (hquiet source hsource).ne_upName _ w t₂ x hx

/-! ## A server that only answers pings -/

/-- A server that refuses all commands but the ping, and replies to that in one way. -/
def pinging (reply : Response (Except Fault Document)) : World where
  connect _ _ := .after 0 (.ok 0)
  answer
    | _, _, .command _ body =>
      if Document.firstKey? body = some "ping" then reply
      else .after 0 (.error (.command ((Document.firstKey? body).getD "") none "no such command"))
    | _, _, .listDatabases _ => .after 0 (.ok [])
    | _, _, .listCollections .. => .after 0 (.ok [])
    | _, _, .aggregate .. => .after 0 (.ok [])
    | _, _, .findOne .. => .after 0 (.ok none)
  wallClock _ := 0
  residentBytes _ := none
  parallelism := none

/-- The usual settings, with a limit of 50 milliseconds. -/
def hasty : Settings := { Settings.default with limit := Duration.ofMillis 50 }

/-- An exporter that started when the clock did. -/
def hastyExporter : Exporter := ⟨hasty, none, 0, 0⟩

def unknownServer : Connection := ⟨0, .unknown⟩

theorem exists_scrape_pinging (reply : Response (Except Fault Document)) : ∃ text ready,
    ((hastyExporter.exposition unknownServer).run (pinging reply) 0).outcome = some (.ok text, ready) ∧
    (hastyExporter.scrape.run (pinging reply) 0).outcome = some ((.ok text, hastyExporter), ready) := by
  obtain ⟨x, ready, hx, text, rfl, -⟩ := gives_exposition hastyExporter
    (c := unknownServer) Deployment.isKnown_unknown (pinging reply) 0
  have hobtain : hastyExporter.obtain.run (pinging reply) 0 = ⟨some ((.ok unknownServer, hastyExporter), 0),
      (hastyExporter.obtain.run (pinging reply) 0).events⟩ := rfl
  exact ⟨text, ready, hx, congrArg Run.outcome (run_scrape_of_ok hobtain hx)⟩

/-- A ping that is answered at once shows in the scrape. -/
theorem scrape_reports_life_of_answer : ∃ text ready families,
    (hastyExporter.scrape.run (pinging (.after 0 (.ok []))) 0).outcome = some ((.ok text, hastyExporter), ready) ∧
    text = Exposition.text families ∧ samplesOf families ⟨"mongodb_up", {}⟩ =
      [Sample.gauge "mongodb_up" "Whether MongoDB is up." 1 {}] := by
  obtain ⟨text, ready, -, hscrape⟩ := exists_scrape_pinging (.after 0 (.ok []))
  obtain ⟨c, t₁, found, t₂, families, hobtain, hfound, htext, hlife⟩ :=
    scrape_reports_life hastyExporter (pinging (.after 0 (.ok []))) 0 ready text hastyExporter hscrape
  have hobtained : (hastyExporter.obtain.run (pinging (.after 0 (.ok []))) 0).outcome =
      some ((.ok unknownServer, hastyExporter), 0) := rfl
  rw [hobtained] at hobtain
  cases hobtain
  have hsources : ((sources hasty unknownServer).run (pinging (.after 0 (.ok []))) 0).outcome =
      some ([Source.general 0, Source.diagnosticData 0 .unknown .full], 0) := rfl
  rw [show hastyExporter.settings = hasty from rfl, hsources] at hfound
  cases hfound
  exact ⟨text, ready, families, hscrape, htext, hlife⟩

/-- The exposition of the process alone. -/
def processText : String :=
  "# HELP process_start_time_seconds Start time of the process since unix epoch in seconds\n" ++
  "# TYPE process_start_time_seconds gauge\n" ++
  "process_start_time_seconds 0\n" ++
  "# HELP process_uptime_seconds Process uptime in seconds\n" ++
  "# TYPE process_uptime_seconds gauge\n" ++
  "process_uptime_seconds 0\n"

/-- A ping that is never answered leaves no trace: the scrape succeeds, but its text tells of the
process alone. -/
theorem scrape_of_silent_ping : ∃ ready blocks,
    ((start hasty >>= scrape).run (pinging .never) 0).outcome =
      some ((.ok processText, hastyExporter), ready) ∧
    read? processText = some blocks ∧ ∀ b ∈ blocks, b.name ≠ "mongodb_up" := by
  obtain ⟨text, ready, hexposition, hscrape⟩ := exists_scrape_pinging .never
  obtain ⟨found, t₂, hfound, htext⟩ := text_of_exposition hexposition
  have hsources : ((sources hasty unknownServer).run (pinging .never) 0).outcome =
      some ([Source.general 0, Source.diagnosticData 0 .unknown .full], 0) := rfl
  rw [show hastyExporter.settings = hasty from rfl, hsources] at hfound
  cases hfound
  -- neither the ping nor the diagnostic data are read
  rw [show (Member.process hastyExporter.started hastyExporter.bootMillis).built (pinging .never) 0 ++
    [Source.general 0, Source.diagnosticData 0 .unknown .full].flatMap (fun source =>
      (reading source (conditions hastyExporter.settings unknownServer) (pinging .never) 0).getD []) =
    processSamples 0 0 none none from rfl] at htext
  have hwell : WellFormed (familiesOf (processSamples 0 0 none none)) :=
    wellFormed_familiesOf valid_of_mem_processSamples
  have hread := hwell.read?_text
  have hprocess : Exposition.text (familiesOf (processSamples 0 0 none none)) = processText := by
    rw [familiesOf_eq_group]
    decide +kernel
  rw [hprocess] at htext hread
  refine ⟨ready, _, ?_, hread, fun b hb => ?_⟩
  · have hstart : ((start hasty).run (pinging .never) 0).outcome = some (hastyExporter, 0) := rfl
    rw [Session.run_bind hstart, hscrape, htext]
  · obtain ⟨f, hf, rfl⟩ := List.mem_map.1 hb
    obtain ⟨x, hx⟩ := List.exists_mem_of_ne_nil _ (hwell.inhabited f hf)
    rw [show (blockOf f).name = x.name from (hwell.uniform f hf x hx).1.symm]
    exact process_ne_upName x (mem_of_mem_familiesOf hf hx)

end Exporter

end MongoMetrics
