/-
What the server is asked. Finding out about a server begins with the greeting and greets only once
(`opens_identify`). Everything else, be it counting collections or reading a source, only puts other
questions to the same client: it neither connects nor shuts down, nor does it greet again.
-/
import MongoMetrics.Proofs.Server.Events
import MongoMetrics.Proofs.Service.Scrapes

namespace MongoMetrics

open MongoMetrics.Scrape

/-- The call by which a server is greeted. -/
def Call.isGreeting : Call → Bool
  | command _ body => Document.firstKey? body == some "hello"
  | _ => false

/-- A call to the client, other than the greeting. -/
def Asks (client : Client) (e : Event) : Prop := ∃ c, e = .call client c ∧ c.isGreeting = false

/-- A call that lists databases or collections. -/
def Call.isListing : Call → Bool
  | listDatabases _ | listCollections .. => true
  | _ => false

/-- A listing by the client. -/
def Lists (client : Client) (e : Event) : Prop := ∃ c, e = .call client c ∧ c.isListing = true

/-- A listing by the client, or a question for the size of a collection. -/
def Measures (client : Client) (e : Event) : Prop :=
  ∃ c, e = .call client c ∧ (c.isListing = true ∨
    ∃ database body, c = .command database body ∧ Document.firstKey? body = some "collStats")

variable {client : Client} {e : Event}

theorem asks_call {c : Call} (h : c.isGreeting = false) : Asks client (.call client c) := ⟨c, rfl, h⟩

theorem lists_call {c : Call} (h : c.isListing = true) : Lists client (.call client c) := ⟨c, rfl, h⟩

theorem Lists.asks (h : Lists client e) : Asks client e := by
  obtain ⟨c, rfl, hc⟩ := h
  refine ⟨c, rfl, ?_⟩
  cases c with
  | command database body => cases hc
  | _ => rfl

theorem Lists.measures (h : Lists client e) : Measures client e := by
  obtain ⟨c, rfl, hc⟩ := h
  exact ⟨c, rfl, .inl hc⟩

theorem Measures.asks (h : Measures client e) : Asks client e := by
  obtain ⟨c, rfl, hc | ⟨database, body, rfl, hbody⟩⟩ := h
  · exact (lists_call hc).asks
  · exact ⟨_, rfl, by simp [Call.isGreeting, hbody]⟩

namespace Session

theorem confined_ask {c : Call} (h : c.isGreeting = false) :
    Confined (Asks client) (ask client c) :=
  confined_await (asks_call h) _

end Session

/-! ## Finding out about a server -/

namespace Deployment

theorem confined_administer {name : String} (h : name ≠ "hello") :
    Request.Confined (Asks client) (administer client name) := by
  refine Request.confined_ask (asks_call ?_)
  simp [Call.isGreeting, Document.firstKey?, h]

theorem confined_reportsArbiterState : Session.Confined (Asks client) (reportsArbiterState client) := by
  refine Session.Confined.bind (confined_administer (by decide)) fun answer => ?_
  cases answer <;> exact Session.confined_pure _

theorem confined_lookUp (database collection : String) (filter : Document) :
    Session.Confined (Asks client) (lookUp client database collection filter) := by
  refine (Session.confined_ask rfl).bind fun answer => ?_
  cases answer <;> exact Session.confined_pure _

theorem confined_clusterId (shardIdentity : Option Document) :
    Session.Confined (Asks client) (clusterId client shardIdentity) := by
  refine (confined_lookUp "config" "version" []).bind fun version => ?_
  split
  · exact Session.confined_pure _
  · split
    · exact Session.confined_pure _
    · refine Session.Confined.bind (confined_administer (by decide)) fun answer => ?_
      cases answer <;> exact Session.confined_pure _

theorem confined_roleOf (greeting : Document) :
    Session.Confined (Asks client) (roleOf client greeting) := by
  unfold roleOf
  dsimp only
  split
  · exact confined_reportsArbiterState.bind fun _ => Session.confined_pure _
  · exact Session.confined_pure _

theorem confined_shardIdentity (role : Role) :
    Session.Confined (Asks client) (shardIdentity client role) := by
  unfold shardIdentity
  split
  · exact Session.confined_pure _
  · exact confined_lookUp _ _ _

/-- The greeting of a server. -/
def hello (client : Client) : Event := .call client (.command "admin" [("hello", .int32 1)])

theorem opens_greeting : Session.Opens (hello client) (Asks client) (greeting client).attempt := by
  refine Session.Opens.bind (Session.opens_await (hello client) _) fun answer => ?_
  cases answer with
  | ok reply => exact Session.confined_pure _
  | error fault =>
    dsimp only
    split
    · exact Session.confined_pure _
    · exact confined_administer (by decide)

/-- Finding out about a server begins with the greeting and greets once. -/
theorem opens_identify (client : Client) :
    Session.Opens (hello client) (Asks client) (identify client) := by
  refine opens_greeting.bind fun answer => ?_
  cases answer with
  | error fault => exact Session.confined_pure _
  | ok reply =>
    refine (confined_roleOf reply).bind fun role => ?_
    refine (confined_shardIdentity role).bind fun shard => ?_
    exact (confined_clusterId shard).bind fun id => Session.confined_pure _

end Deployment

/-! ## Listings -/

namespace Catalogue

theorem confined_listDatabases (namespaces excluded : List String) :
    Request.Confined (Lists client) (listDatabases client namespaces excluded) :=
  Request.confined_ask (lists_call rfl)

theorem confined_listCollections (database : String) (namespaces : List String) :
    Request.Confined (Lists client) (listCollections client database namespaces) := by
  refine Request.Confined.bind (Session.confined_atOnce _) fun selection => ?_
  exact Request.confined_ask (lists_call rfl)

theorem confined_addEntry (database : String) (contents : Contents) (entry : String) :
    Request.Confined (Lists client) (addEntry client database contents entry) := by
  unfold addEntry
  split
  · refine Request.Confined.bind ?_ fun found => Request.confined_pure _
    refine Session.Confined.bind (confined_listCollections database [entry]) fun answer => ?_
    cases answer <;> exact Session.confined_pure _
  · exact Request.confined_pure _

theorem confined_contents (namespaces excluded : List String) :
    Request.Confined (Lists client) (contents client namespaces excluded) := by
  refine (confined_listDatabases namespaces excluded).bind fun databases => ?_
  refine Request.confined_foldlM (fun contents database => ?_) databases _
  exact Request.confined_foldlM (confined_addEntry database) _ contents

theorem confined_physicalNamespaces : Request.Confined (Lists client) (physicalNamespaces client) := by
  refine (confined_listDatabases [] []).bind fun databases => ?_
  refine (Request.confined_forEach (fun database => ?_) _).bind fun found => Request.confined_pure _
  exact (Request.confined_ask (lists_call rfl)).bind fun collections => Request.confined_pure _

theorem confined_countCollections (namespaces filters : List String) :
    Request.Confined (Lists client) (countCollections client namespaces filters) := by
  refine (confined_listDatabases namespaces systemDatabases).bind fun databases => ?_
  refine (Request.confined_forEach (fun database => ?_) _).bind fun counts => Request.confined_pure _
  exact (confined_listCollections database filters).bind fun found => Request.confined_pure _

theorem confined_statsNamespaces (namespaces : List String) (discovering : Bool) :
    Request.Confined (Lists client) (statsNamespaces client namespaces discovering) := by
  unfold statsNamespaces
  split
  · refine confined_physicalNamespaces.bind fun physical => ?_
    exact (confined_contents namespaces systemDatabases).bind fun found => Request.confined_pure _
  · exact confined_physicalNamespaces.bind fun physical => Request.confined_now _

end Catalogue

/-! ## Routers -/

namespace Diagnostics

theorem confined_recentChanges : Session.Confined (Asks client) (recentChanges client) := by
  refine (Session.confined_atOnce fun w t => w.wallClock t).bind fun now => ?_
  refine (Session.confined_ask rfl).bind fun answer => ?_
  cases answer <;> exact Session.confined_pure _

theorem confined_balancer : Session.Confined (Asks client) (balancer client) := by
  refine (Session.confined_ask rfl).bind fun answer => ?_
  cases answer <;> exact Session.confined_pure _

theorem confined_countSamples (counted : String × String × String) :
    Session.Confined (Asks client) (countSamples client counted) := by
  refine (Session.confined_ask rfl).bind fun answer => ?_
  cases answer <;> exact Session.confined_pure _

theorem confined_routerSamples : Session.Confined (Asks client) (routerSamples client) := by
  refine confined_recentChanges.bind fun changes => confined_balancer.bind fun balancer => ?_
  exact (Session.confined_forEach confined_countSamples _).bind fun counts => Session.confined_pure _

end Diagnostics

/-! ## Sources -/

namespace Source

/-- Reading the source only puts questions to the client. -/
def AsksOnly (client : Client) (source : Scrape.Source) : Prop :=
  Request.Confined (Asks client) source.fetch

theorem asksOnly_general : AsksOnly client (general client) := by
  refine Session.Confined.bind ?_ fun answer => Session.confined_pure _
  exact (Deployment.confined_administer (by decide)).bind fun reply => Request.confined_pure ()

theorem confined_read (deployment : Deployment) {name : String} (h : name ≠ "hello") :
    Request.Confined (Asks client) (read client deployment name) := by
  refine Session.Confined.bind (Deployment.confined_administer h) fun answer => ?_
  cases answer <;> exact Session.confined_pure _

theorem asksOnly_diagnosticData (deployment : Deployment) (naming : Extraction.Naming) :
    AsksOnly client (diagnosticData client deployment naming) := by
  refine (confined_read deployment (by decide)).bind fun reply => ?_
  refine (Request.confined_now _).bind fun data => ?_
  refine (Request.confined_lift ?_).bind fun samples => Request.confined_pure _
  split
  · exact Diagnostics.confined_routerSamples
  · exact Session.confined_pure _

theorem asksOnly_replicaStatus (deployment : Deployment) :
    AsksOnly client (replicaStatus client deployment) :=
  (confined_read deployment (by decide)).bind fun status => Request.confined_pure _

theorem confined_eachItem {α β : Type} {question : α → Session (Except Fault β)}
    (h : ∀ a, Session.Confined (Asks client) (question a)) (read : α → β → List Fetched)
    (items : List α) : Session.Confined (Asks client) (eachItem question read items) := by
  refine (Session.confined_forEach (fun item => ?_) items).bind fun found => Session.confined_pure _
  refine (h item).bind fun answer => ?_
  cases answer <;> exact Session.confined_pure _

theorem asksOnly_databaseStats (namespaces : List String) :
    AsksOnly client (databaseStats client namespaces) := by
  refine ((Catalogue.confined_listDatabases namespaces []).mono fun _ => Lists.asks).bind fun databases => ?_
  refine (Request.confined_lift (confined_eachItem (fun database => ?_) _ _)).bind fun documents =>
    Request.confined_pure _
  exact Session.confined_ask rfl

/-- A source that runs a pipeline on the collections that its namespaces come to. -/
theorem confined_ofNamespaces (namespaces : List String) (discovering : Bool) (pipeline : List Document)
    (rows : String → List Document → List Fetched) :
    Request.Confined (Asks client) (do
      let resolved ← Catalogue.statsNamespaces client namespaces discovering
      let documents ← eachNamespace client pipeline rows resolved
      return Batch.ofDocuments documents) := by
  refine ((Catalogue.confined_statsNamespaces namespaces discovering).mono fun _ => Lists.asks).bind
    fun resolved => ?_
  refine (Request.confined_lift (confined_eachItem (fun ns => ?_) _ _)).bind fun documents =>
    Request.confined_pure _
  exact Session.confined_ask rfl

theorem asksOnly_collectionStats (namespaces : List String) (discovering : Bool)
    (naming : Extraction.Naming) :
    AsksOnly client (collectionStats client namespaces discovering naming) :=
  confined_ofNamespaces namespaces discovering (collectionPipeline naming) collectionRows

theorem asksOnly_indexStats (namespaces : List String) (discovering : Bool) :
    AsksOnly client (indexStats client namespaces discovering) :=
  confined_ofNamespaces namespaces discovering indexPipeline indexRows

theorem confined_databaseChunks (database : String) :
    Session.Confined (Asks client) (databaseChunks client database) := by
  refine (Session.confined_ask rfl).bind fun answer => ?_
  cases answer with
  | ok rows =>
    refine confined_eachItem (fun item => ?_) _ _
    exact Session.confined_ask rfl
  | error fault => exact Session.confined_pure _

theorem confined_collectionSize (item : String × String) :
    Session.Confined (Measures client) (collectionSize client item) := by
  refine (Session.confined_await ⟨_, rfl, .inr ⟨_, _, rfl, rfl⟩⟩ _).bind fun answer => ?_
  cases answer <;> exact Session.confined_pure _

theorem confined_collectionSizes : Session.Confined (Measures client) (collectionSizes client) := by
  refine Session.Confined.bind ((Catalogue.confined_contents [] []).mono fun _ => Lists.measures)
    fun answer => ?_
  cases answer with
  | ok contents =>
    exact (Session.confined_forEach confined_collectionSize _).bind fun sizes => Session.confined_pure _
  | error fault => exact Session.confined_pure _

theorem asksOnly_sharding : AsksOnly client (sharding client) := by
  refine (Request.confined_ask (asks_call rfl)).bind fun databases => ?_
  refine (Request.confined_lift (Session.confined_forEach confined_databaseChunks databases)).bind
    fun documents => ?_
  exact (Request.confined_lift (confined_collectionSizes.mono fun _ => Measures.asks)).bind
    fun sizes => Request.confined_pure _

end Source

/-! ## Scrapes -/

namespace Scrape

/-- Describing and collecting only put questions to the client. -/
structure Collector.AsksOnly (client : Client) (c : Collector) : Prop where
  describe : Session.Confined (Asks client) c.describe
  collect : ∀ s, Session.Confined (Asks client) (c.collect s)

theorem asksOnly_collector {source : Scrape.Source} (h : Source.AsksOnly client source)
    (conditions : Conditions) : (source.collector conditions).AsksOnly client := by
  refine ⟨?_, fun s => Session.confined_pure _⟩
  refine (Session.confined_atOnce fun _ t => t).bind fun started => ?_
  refine (Session.Confined.within h _).bind fun result => ?_
  split
  · exact (Session.confined_atOnce fun _ t => t).bind fun now => Session.confined_pure _
  · exact Session.confined_pure _
  · exact Session.confined_pure _

theorem asksOnly_processCollector (started : Instant) (bootMillis : Int) :
    (processCollector started bootMillis).AsksOnly client := by
  refine ⟨?_, fun s => Session.confined_pure _⟩
  refine (Session.confined_atOnce fun _ t => t).bind fun now => ?_
  refine (Session.confined_atOnce fun w t => w.residentBytes t).bind fun resident => ?_
  exact (Session.confined_atOnce fun w _ => w.parallelism).bind fun threads => Session.confined_pure _

theorem Roster.confined_gather {r : Roster} (h : ∀ m ∈ r.members, m.1.AsksOnly client) :
    Session.Confined (Asks client) r.gather := by
  have hplace : ∀ p ∈ r.members.zipIdx, p.1.1.AsksOnly client := fun p hp =>
    h p.1 (List.fst_mem_of_mem_zipIdx hp)
  refine (Session.confined_race fun s hs => ?_).bind fun described => ?_
  · obtain ⟨p, hp, rfl⟩ := List.mem_map.1 hs
    exact (hplace p hp).describe.bind fun d => Session.confined_pure _
  · refine (Session.confined_race fun s hs => ?_).bind fun collected => Session.confined_pure _
    obtain ⟨p, hp, rfl⟩ := List.mem_map.1 hs
    exact ((hplace p hp).collect _).bind fun samples => Session.confined_pure _

end Scrape

namespace Exporter

theorem confined_readsStats (s : Settings) : Session.Confined (Asks client) (readsStats s client) := by
  unfold readsStats
  split
  · exact Session.confined_pure _
  · split
    · exact Session.confined_pure _
    · refine (Session.Confined.within ((Catalogue.confined_countCollections [] []).mono
        fun _ => Lists.asks) _).bind fun answer => ?_
      split <;> exact Session.confined_pure _

theorem confined_sources (s : Settings) (c : Connection) :
    Session.Confined (Asks c.client) (sources s c) := by
  refine Session.Confined.bind ?_ fun stats => Session.confined_pure _
  refine (confined_readsStats s).bind fun reads => ?_
  split <;> exact Session.confined_pure _

/-- What holds of the sources of statistics holds of those that are read. -/
theorem yields_statsSources {P : Scrape.Source → Prop} (s : Settings)
    (hcollections : ∀ namespaces discovering naming,
      P (Source.collectionStats client namespaces discovering naming))
    (hindexes : ∀ namespaces discovering, P (Source.indexStats client namespaces discovering)) :
    Session.Yields (statsSources s client) fun l => ∀ source ∈ l, P source := by
  refine Session.yields_bind Session.yields_true fun reads _ => ?_
  split
  · refine Session.yields_pure (List.forall_mem_append.2 ⟨fun x hx => ?_, fun x hx => ?_⟩)
    · rw [List.mem_ite_nil_left, List.mem_singleton] at hx
      exact hx.2 ▸ hcollections _ _ _
    · rw [List.mem_ite_nil_left, List.mem_singleton] at hx
      exact hx.2 ▸ hindexes _ _
  · exact Session.yields_nil

/-- The diagnostic data as a source of the connection, if they are read. -/
def diagnosticSources (s : Settings) (c : Connection) : List Scrape.Source :=
  if s.diagnosticData then [Source.diagnosticData c.client c.deployment s.naming] else []

/-- First the ping, then the diagnostic data if they are read, and then other sources. What holds of
each of these holds of those that are read. -/
theorem yields_sources {P : Scrape.Source → Prop} (s : Settings) (c : Connection)
    (hreplica : P (Source.replicaStatus c.client c.deployment))
    (hdatabases : ∀ namespaces, P (Source.databaseStats c.client namespaces))
    (hcollections : ∀ namespaces discovering naming,
      P (Source.collectionStats c.client namespaces discovering naming))
    (hindexes : ∀ namespaces discovering, P (Source.indexStats c.client namespaces discovering))
    (hsharding : P (Source.sharding c.client)) :
    Session.Yields (sources s c) fun l =>
      ∃ others, l = Source.general c.client :: (diagnosticSources s c ++ others) ∧
        ∀ source ∈ others, P source := by
  have hite : ∀ {source : Scrape.Source}, P source → ∀ (b : Prop) [Decidable b],
      ∀ x ∈ (if b then [source] else []), P x := by
    intro source h b _ x hx
    rw [List.mem_ite_nil_right, List.mem_singleton] at hx
    exact hx.2 ▸ h
  refine Session.yields_bind (yields_statsSources s hcollections hindexes) fun stats hstats => ?_
  refine Session.yields_pure ⟨?_, ?_, ?_⟩
  · exact (if s.replicaStatus && c.deployment.role.hasReplicaStatus then
        [Source.replicaStatus c.client c.deployment] else []) ++
      ((if s.databaseStats then [Source.databaseStats c.client s.databaseNamespaces] else []) ++
        (stats ++ (if s.sharding && c.deployment.role == .router then
          [Source.sharding c.client] else [])))
  · simp only [diagnosticSources, List.append_assoc]
    rfl
  · simp only [List.forall_mem_append]
    exact ⟨hite hreplica _, hite (hdatabases _) _, hstats, hite hsharding _⟩

/-- The sources of a connection only put questions to its client. -/
theorem yields_asksOnly_sources (s : Settings) (c : Connection) : Session.Yields (sources s c) fun l =>
    ∀ source ∈ l, Source.AsksOnly c.client source := by
  intro w t l ready hl
  obtain ⟨others, rfl, hothers⟩ := yields_sources s c (Source.asksOnly_replicaStatus _)
    Source.asksOnly_databaseStats Source.asksOnly_collectionStats Source.asksOnly_indexStats
    Source.asksOnly_sharding w t l ready hl
  refine List.forall_mem_cons.2 ⟨Source.asksOnly_general, List.forall_mem_append.2 ⟨fun x hx => ?_, hothers⟩⟩
  rw [diagnosticSources, List.mem_ite_nil_right, List.mem_singleton] at hx
  exact hx.2 ▸ Source.asksOnly_diagnosticData _ _

/-! ## Expositions -/

theorem confined_roster (e : Exporter) (c : Connection) :
    Session.Confined (Asks c.client) (e.roster c) :=
  (confined_sources e.settings c).bind fun _ => Session.confined_pure _

theorem yields_roster (e : Exporter) (c : Connection) : Session.Yields (e.roster c) fun x =>
    ∀ r, x = .ok r → ∀ m ∈ r.members, m.1.AsksOnly c.client := by
  intro w t x ready hx r hr
  obtain ⟨found, began, hfound, -, hroster⟩ := e.outcome_roster c w t
  rw [hx, hr] at hroster
  cases hroster
  have hasks := yields_asksOnly_sources e.settings c w t found _ hfound
  exact forall_mem_members (asksOnly_processCollector _ _) fun source hsource =>
    asksOnly_collector (hasks source hsource) _

/-- Making an exposition only puts questions to the client of the connection. -/
theorem confined_exposition (e : Exporter) (c : Connection) :
    Session.Confined (Asks c.client) (e.exposition c) := by
  refine (confined_roster e c).bind_of_yields (yields_roster e c) fun x hx => ?_
  cases x with
  | error fault => exact Session.confined_pure _
  | ok r =>
    refine Session.Confined.bind ?_ fun p => Session.confined_pure _
    exact (Roster.confined_gather (hx r rfl)).bind fun p => Session.confined_pure _

end Exporter

end MongoMetrics
