/-
Sources that read item by item: databases, namespaces, and sharded collections with their chunks. The
items are found first; then each is asked about once, in order, whatever came of the items before it. A
question that fails adds no document, and no other effect either. Main statement
(`failures_stay_within_items`), for every world in which the calls of the fetch are answered: the
documents are what the server reports of the items.
-/
import MongoMetrics.Proofs.Source.Questions
import MongoMetrics.Proofs.Source.Readers

namespace MongoMetrics.Source

open MongoMetrics.Scrape
open MongoMetrics.Session (Talks)

variable {client : Client} {w : World} {t t₁ : Instant}

/-- The sources that read item by item: the request for their items, what is reported of each, and what
follows the last item. -/
inductive ReadsItems (client : Client) : Source → Request (List String) →
    (String → List Exchange → List Fetched → Prop) → Session (List Sample) → Prop
  | databases (namespaces : List String) :
    ReadsItems client (databaseStats client namespaces) (Catalogue.listDatabases client namespaces [])
      ReportsDatabase (return [])
  | collections (namespaces : List String) (discovering : Bool) (naming : Extraction.Naming) :
    ReadsItems client (collectionStats client namespaces discovering naming)
      (Catalogue.statsNamespaces client namespaces discovering) (ReportsCollection naming) (return [])
  | indexes (namespaces : List String) (discovering : Bool) :
    ReadsItems client (indexStats client namespaces discovering)
      (Catalogue.statsNamespaces client namespaces discovering) ReportsIndexes (return [])
  | sharded : ReadsItems client (sharding client)
      (Request.ask client (.listDatabases DatabaseSelection.everything)) ReportsShards
      (collectionSizes client)

/-! ## Fetching -/

section

variable {resolve : Request (List String)} {follow : Session (List Sample)}
  {reports : String → List Exchange → List Fetched → Prop}

/-- What is read of the items, gathered into documents, and then the samples that follow. -/
def readThen {α : Type} (reading : Session α) (gather : α → List Fetched)
    (follow : Session (List Sample)) : Session (Except Fault Batch) := do
  let found ← reading
  let samples ← follow
  return .ok ⟨gather found, samples⟩

/-- Items are resolved, and then read. -/
def fetchItems {α : Type} (resolve : Request (List String)) (reading : List String → Session α)
    (gather : α → List Fetched) (follow : Session (List Sample)) : Request Batch := do
  let items ← resolve
  let found ← ExceptT.lift (reading items)
  let samples ← ExceptT.lift follow
  return ⟨gather found, samples⟩

theorem run_fetchItems {α : Type} (reading : List String → Session α) (gather : α → List Fetched)
    {items : List String} (hitems : (resolve.attempt.run w t).outcome = some (.ok items, t₁)) :
    (fetchItems resolve reading gather follow).attempt.run w t =
      ⟨((readThen (reading items) gather follow).run w t₁).outcome,
        (resolve.attempt.run w t).events ++ ((readThen (reading items) gather follow).run w t₁).events⟩ := by
  unfold fetchItems
  rw [Request.run_bind_ok hitems, Request.attempt_lift_bind]
  simp only [Request.attempt_lift_bind]
  rfl

/-- Without samples to follow, the documents are the whole batch. -/
theorem fetchItems_documents (resolve : Request (List String)) (reading : List String → Session (List Fetched)) :
    fetchItems resolve reading id (return []) = do
      let items ← resolve
      let documents ← ExceptT.lift (reading items)
      return Batch.ofDocuments documents :=
  congrArg (resolve >>= ·) (funext fun items => congrArg (ExceptT.lift (reading items) >>= ·)
    (funext fun _ => rfl))

/-- Once the items are known, a fetch whose calls are answered comes to what the exchanges about its items
come to, one item after the other. -/
theorem exists_exchanges {α : Type} {fetch : Request Batch} {reading : List String → Session α}
    {gather : α → List Fetched} (hfetch : fetch = fetchItems resolve reading gather follow)
    (htalks : ∀ items, Talks client (reading items) fun exchanges found =>
      InTurn reports items exchanges (gather found))
    (hfollow : Session.Responds client follow) {items : List String}
    (hitems : (resolve.attempt.run w t).outcome = some (.ok items, t₁))
    (hanswered : Session.Answered client w (fetch.attempt.run w t)) :
    ∃ exchanges documents t₂ samples ready, InTurn reports items exchanges documents ∧
      Heard client w t₁ exchanges t₂ ∧ (follow.run w t₂).outcome = some (samples, ready) ∧
      (fetch.attempt.run w t).outcome = some (.ok ⟨documents, samples⟩, ready) ∧
      (fetch.attempt.run w t).events.map Prod.snd =
        (resolve.attempt.run w t).events.map Prod.snd ++ exchanges.map (Exchange.event client) ++
          (follow.run w t₂).events.map Prod.snd := by
  -- what is answered of the whole fetch is answered of its parts
  rw [hfetch, run_fetchItems reading gather hitems] at hanswered ⊢
  have hread : Session.Answered client w ((readThen (reading items) gather follow).run w t₁) :=
    fun t' c hmem => hanswered t' c (List.mem_append_right _ hmem)
  obtain ⟨exchanges, found, t₂, hconducts, hfound⟩ := htalks items w t₁ hread.first
  obtain ⟨samples, ready, hsamples⟩ := hfollow w t₂ (hread.second hconducts.outcome).first
  have hrun : (readThen (reading items) gather follow).run w t₁ =
      ⟨some (.ok ⟨gather found, samples⟩, ready),
        ((reading items).run w t₁).events ++ (follow.run w t₂).events⟩ := by
    unfold readThen
    rw [Session.run_bind hconducts.outcome, Session.run_bind hsamples, Session.run_pure, List.append_nil]
  refine ⟨exchanges, gather found, t₂, samples, ready, hfound, hconducts.heard, hsamples, ?_, ?_⟩
  · rw [hrun]
  · rw [hrun, List.map_append, List.map_append, hconducts.events, List.append_assoc]

/-! ## What the sources read -/

theorem responds_collectionSizes : Session.Responds client (collectionSizes client) := by
  have hcontents : Session.Responds client (Catalogue.contents client [] []).attempt := by
    refine Request.responds_bind (Session.responds_ask _) fun databases => ?_
    refine Request.responds_foldlM (fun contents database => ?_) databases _
    refine Request.responds_foldlM (fun contents entry => ?_) _ contents
    unfold Catalogue.addEntry
    split
    · refine Request.responds_bind (Session.Responds.bind ?_ fun answer => ?_) fun found =>
        Session.responds_pure _
      · refine Request.responds_bind (fun _ t _ => ⟨_, t, rfl⟩) fun selection => ?_
        exact Session.responds_ask _
      · cases answer <;> exact Session.responds_pure _
    · exact Session.responds_pure _
  refine hcontents.bind fun answer => ?_
  cases answer with
  | error fault => exact Session.responds_pure []
  | ok contents =>
    refine (Session.responds_forEach (fun item => ?_) _).bind fun sizes => Session.responds_pure _
    refine (Session.responds_ask _).bind fun stats => ?_
    cases stats <;> exact Session.responds_pure _

variable {source : Source}

theorem ReadsItems.responds (h : ReadsItems client source resolve reports follow) :
    Session.Responds client follow := by
  cases h with
  | databases | collections | indexes => exact Session.responds_pure []
  | sharded => exact responds_collectionSizes

theorem ReadsItems.lists (h : ReadsItems client source resolve reports follow) :
    Request.Confined (Lists client) resolve := by
  cases h with
  | databases => exact Catalogue.confined_listDatabases _ _
  | collections | indexes => exact Catalogue.confined_statsNamespaces _ _
  | sharded => exact Request.confined_ask (lists_call rfl)

theorem ReadsItems.measures (h : ReadsItems client source resolve reports follow) :
    Session.Confined (Measures client) follow := by
  cases h with
  | databases | collections | indexes => exact Session.confined_pure []
  | sharded => exact confined_collectionSizes

/-- A fetch finds its items, and then talks about them in turn. -/
theorem ReadsItems.exists_reading (h : ReadsItems client source resolve reports follow) :
    ∃ (α : Type) (reading : List String → Session α) (gather : α → List Fetched),
      source.fetch = fetchItems resolve reading gather follow ∧ ∀ items, Talks client (reading items)
        fun exchanges found => InTurn reports items exchanges (gather found) := by
  -- without samples to follow, the documents need no gathering
  cases h with
  | databases =>
    refine ⟨_, _, id, (fetchItems_documents _ _).symm, fun items => ?_⟩
    exact (talks_eachDatabase items).mono fun _ _ h => h.mono fun _ _ _ => reportsDatabase
  | collections =>
    refine ⟨_, _, id, (fetchItems_documents _ _).symm, fun items => ?_⟩
    exact (talks_eachNamespace _ _ items).mono fun _ _ h => h.mono fun _ _ _ => reportsCollection
  | indexes =>
    refine ⟨_, _, id, (fetchItems_documents _ _).symm, fun items => ?_⟩
    exact (talks_eachNamespace _ _ items).mono fun _ _ h => h.mono fun _ _ _ => reportsIndexes
  | sharded =>
    refine ⟨_, Session.forEach (databaseChunks client), List.flatten, rfl, fun items => ?_⟩
    exact Session.talks_forEach fun database _ =>
      (talks_databaseChunks database).mono fun _ _ => AskedSharded.reports

end

/-- Reading item by item, on a server that answers every call of the fetch, be it with a failure. Once the
items are found, the fetch succeeds. Each item is asked about in turn, once, whatever came of those before
it, and the documents of the fetch are those that the server reports of the items, in their order: of a
question that is refused there is none. Besides these questions the fetch puts only the listings that find
the items, and, for shards, those for the sizes of collections. -/
theorem failures_stay_within_items {source : Source} {resolve : Request (List String)}
    {reports : String → List Exchange → List Fetched → Prop} {follow : Session (List Sample)}
    (h : ReadsItems client source resolve reports follow) {items : List String}
    (hitems : (resolve.attempt.run w t).outcome = some (.ok items, t₁))
    (hanswered : Session.Answered client w (source.fetch.attempt.run w t)) :
    ∃ exchanges documents t₂ samples ready, InTurn reports items exchanges documents ∧
      Heard client w t₁ exchanges t₂ ∧ (follow.run w t₂).outcome = some (samples, ready) ∧
      (source.fetch.attempt.run w t).outcome = some (.ok ⟨documents, samples⟩, ready) ∧
      (source.fetch.attempt.run w t).events.map Prod.snd =
        (resolve.attempt.run w t).events.map Prod.snd ++ exchanges.map (Exchange.event client) ++
          (follow.run w t₂).events.map Prod.snd ∧
      (∀ x ∈ (resolve.attempt.run w t).events, Lists client x.2) ∧
      ∀ x ∈ (follow.run w t₂).events, Measures client x.2 := by
  obtain ⟨α, reading, gather, hfetch, htalks⟩ := h.exists_reading
  obtain ⟨exchanges, documents, t₂, samples, ready, hturn, hheard, hfollow, houtcome, hevents⟩ :=
    exists_exchanges hfetch htalks h.responds hitems hanswered
  exact ⟨exchanges, documents, t₂, samples, ready, hturn, hheard, hfollow, houtcome, hevents,
    (h.lists w t).kind, (h.measures w t₂).kind⟩

/-- A server with the databases `a` and `b`, which takes one unit of time for each answer. It refuses
whatever is asked about `a` and about the chunks of the collection `b.x`. -/
def partlyRefusing : World where
  connect _ _ := .never
  answer
    | _, _, .listDatabases _ => .after 1 (.ok ["a", "b"])
    | _, _, .listCollections "a" _ => .after 1 (.ok ["x"])
    | _, _, .listCollections "b" _ => .after 1 (.ok ["y"])
    | _, _, .command "b" (("dbStats", _) :: _) => .after 1 (.ok [("objects", .int32 7)])
    | _, _, .aggregate "b" "y" [[("$collStats", _)], [("$project", _)]] =>
      .after 1 (.ok [[("shard", .string "s0")], [("shard", .string "s1")]])
    | _, _, .aggregate "b" "y" [[("$indexStats", _)]] =>
      .after 1 (.ok [[("name", .string "by_age"), ("accesses", .document [("ops", .int32 2)])],
        [("name", .string "by_name")]])
    | _, _, .aggregate "config" "collections" [[("$match", .document [("_id", .regex "^b\\." "i")])]] =>
      .after 1 (.ok [[("_id", .string "b.x")], [("_id", .string "B.x")], [("_id", .string "b.y")]])
    | _, _, .aggregate "config" "chunks" ([("$match", .document [("ns", .string "b.y")])] :: _) =>
      .after 1 (.ok [[("shard", .string "s0"), ("nChunks", .int32 3)], [("shard", .string "s1")]])
    | _, _, _ => .after 1 (.error (.command "" (some 13) "not authorized"))
  wallClock _ := 0
  residentBytes _ := none
  parallelism := none

theorem answers_partlyRefusing (t : Instant) (c : Call) :
    ∃ x, partlyRefusing.answer client t c = .after 1 x := by
  simp only [partlyRefusing]
  split <;> exact ⟨_, rfl⟩

/-- The source reads the items at this server, which answers each call, and comes to documents with these
paths, contents and labels, as the server reports them. -/
def ReadsAt (w : World) (source : Source) (resolve : Request (List String))
    (reports : String → List Exchange → List Fetched → Prop) (items : List String)
    (told : List (String × Document × List (String × String))) : Prop :=
  ∃ follow t₁ exchanges documents samples ready, ReadsItems 0 source resolve reports follow ∧
    (resolve.attempt.run w 0).outcome = some (.ok items, t₁) ∧
    Session.Answered 0 w (source.fetch.attempt.run w 0) ∧ InTurn reports items exchanges documents ∧
    (source.fetch.attempt.run w 0).outcome = some (.ok ⟨documents, samples⟩, ready) ∧
    documents.map (fun f => (f.path, f.document, f.labels.toList)) = told

/-- The refusals about one database, one collection and the chunks of another leave the documents of the
others as they are, for each kind of item. -/
theorem reported_beside_refusals :
    ReadsAt partlyRefusing (databaseStats 0 []) (Catalogue.listDatabases 0 [] []) ReportsDatabase
      ["a", "b"] [("dbstats", [("objects", .int32 7)], [("database", "b")])] ∧
    ReadsAt partlyRefusing (collectionStats 0 ["a.x", "b.y"] false .full)
      (Catalogue.statsNamespaces 0 ["a.x", "b.y"] false) (ReportsCollection .full) ["a.x", "b.y"]
      [("collstats", [("shard", .string "s0")], [("collection", "y"), ("database", "b")]),
        ("collstats", [("shard", .string "s1")], [("collection", "y"), ("database", "b")])] ∧
    ReadsAt partlyRefusing (indexStats 0 ["a.x", "b.y"] false)
      (Catalogue.statsNamespaces 0 ["a.x", "b.y"] false) ReportsIndexes ["a.x", "b.y"]
      [("indexstats.accesses", [("ops", .int32 2)],
        [("collection", "y"), ("database", "b"), ("key_name", "by_age")])] ∧
    ReadsAt partlyRefusing (sharding 0)
      (Request.ask 0 (.listDatabases DatabaseSelection.everything)) ReportsShards ["a", "b"]
      [("sharded collection chunks", [("count", .int32 3)],
        [("collection", "y"), ("database", "b"), ("shard", "s0")])] := by
  have hread : ∀ {source resolve reports follow items t₁ told},
      ReadsItems 0 source resolve reports follow →
      (resolve.attempt.run partlyRefusing 0).outcome = some (.ok items, t₁) →
      (source.fetch.attempt.run partlyRefusing 0).outcome.map (fun r => r.1.toOption.map fun batch =>
        batch.documents.map fun f => (f.path, f.document, f.labels.toList)) = some (some told) →
      ReadsAt partlyRefusing source resolve reports items told := by
    intro source resolve reports follow items t₁ told h hitems htold
    have hanswered : Session.Answered 0 partlyRefusing (source.fetch.attempt.run partlyRefusing 0) :=
      fun t c _ => (answers_partlyRefusing t c).elim fun x hx => ⟨1, x, hx⟩
    obtain ⟨exchanges, documents, t₂, samples, ready, hturn, -, -, houtcome, -⟩ :=
      failures_stay_within_items h hitems hanswered
    rw [houtcome] at htold
    exact ⟨follow, t₁, exchanges, documents, samples, ready, h, hitems, hanswered, hturn, houtcome,
      Option.some.inj (Option.some.inj htold)⟩
  refine ⟨hread (.databases []) rfl rfl, hread (.collections _ false .full) rfl rfl,
    hread (.indexes _ false) rfl rfl, hread .sharded rfl rfl⟩

end MongoMetrics.Source
