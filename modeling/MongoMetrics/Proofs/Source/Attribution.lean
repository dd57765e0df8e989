/-
Whose chunks are counted. The configuration is asked for the collections of one database after the
other, by a pattern that ignores case; so a row can come back for several databases, and for databases
that it has nothing to do with. The identifier of the row decides: it counts for the database before its
first dot, and for no other one. Main statement: `chunks_count_under_one_database`.
-/
import MongoMetrics.Proofs.Catalogue.Discovery
import MongoMetrics.Proofs.Source.Items

namespace MongoMetrics.Source

open MongoMetrics.Scrape

variable {client : Client} {w : World} {t t₁ : Instant} {database : String}

/-- The row of a collection that is not dropped, whose identifier is cut at its first dot into the database
and the collection. -/
def NamesSharded (database name : String) (row : Document) : Prop :=
  Document.boolean? row "dropped" ≠ some true ∧ ∃ id, Document.string? row "_id" = some id ∧
    '.' ∈ id.toList ∧ Catalogue.splitNamespace id = (database, name)

/-- A row counts for one database at most. -/
theorem NamesSharded.unique {database' name name' : String} {row : Document}
    (h : NamesSharded database name row) (h' : NamesSharded database' name' row) :
    database = database' ∧ name = name' := by
  obtain ⟨-, id, hid, -, hsplit⟩ := h
  obtain ⟨-, id', hid', -, hsplit'⟩ := h'
  cases Option.some.inj (hid.symm.trans hid')
  cases hsplit.symm.trans hsplit'
  exact ⟨rfl, rfl⟩

theorem mem_ownCollections (hdot : '.' ∉ database.toList) {rows : List Document} {row : Document}
    {name : String} :
    (row, name) ∈ ownCollections database rows ↔ row ∈ rows ∧ NamesSharded database name row := by
  have hrow : shardedName? database row = some name ↔ NamesSharded database name row := by
    rw [shardedName?_eq_some]
    refine and_congr_right fun _ => ?_
    simp only [← Catalogue.eq_namespaceOf_iff hdot]
    exact ⟨fun h => ⟨_, h, rfl⟩, fun ⟨id, hid, he⟩ => he ▸ hid⟩
  rw [ownCollections, List.mem_filterMap, ← hrow]
  constructor
  · rintro ⟨row', hmem, hname⟩
    obtain ⟨name', hname', he⟩ := Option.map_eq_some_iff.1 hname
    cases he
    exact ⟨hmem, hname'⟩
  · rintro ⟨hmem, hname⟩
    exact ⟨row, hmem, by rw [hname]; rfl⟩

/-- The document is labelled with the database. -/
def isUnder (database : String) (f : Fetched) : Bool := f.labels.get? "database" == some database

theorem OfShard.isUnder_iff {exchanges : List Exchange} {f : Fetched} (h : OfShard database exchanges f)
    (database' : String) : isUnder database' f = true ↔ database = database' := by
  cases h with
  | counted _ _ _ _ _ _ _ _ _ hdatabase => rw [isUnder, hdatabase, beq_iff_eq, Option.some.injEq]

/-- Counting the chunks of sharded collections, on a server that lists databases with different names and
without dots and answers every call of the fetch, be it with a failure. The fetch succeeds. Each document
counts the chunks on one shard, of a collection that a row names, and is labelled with the parts of its
identifier. The documents labelled with a database are those of the exchanges about it, and these count the
rows that name a collection of this database, whatever else came back; no row is counted for two. -/
theorem chunks_count_under_one_database {databases : List String} {delay : Duration}
    (hlisted : w.answer client t (.listDatabases .everything) = .after delay (.ok databases))
    (hnodup : databases.Nodup) (hdots : ∀ database ∈ databases, '.' ∉ database.toList)
    (hanswered : Session.Answered client w ((sharding client).fetch.attempt.run w t)) :
    ∃ exchanges t₂ documents samples ready, Heard client w (t + delay) exchanges t₂ ∧
      ((sharding client).fetch.attempt.run w t).outcome = some (.ok ⟨documents, samples⟩, ready) ∧
      (∀ f ∈ documents, ∃ database ∈ databases, OfShard database exchanges f) ∧
      (∀ database ∈ databases, ∃ own, own <:+: exchanges ∧
        AskedSharded database own (documents.filter (isUnder database))) ∧
      (∀ database ∈ databases, ∀ rows row name, (row, name) ∈ ownCollections database rows ↔
        row ∈ rows ∧ NamesSharded database name row) ∧
      ∀ database ∈ databases, ∀ database' ∈ databases, ∀ rows rows' row name name',
        (row, name) ∈ ownCollections database rows → (row, name') ∈ ownCollections database' rows' →
          database = database' ∧ name = name' := by
  have hitems : ((Request.ask client (.listDatabases .everything)).attempt.run w t).outcome =
      some (.ok databases, t + delay) := Request.outcome_ask hlisted
  obtain ⟨exchanges, documents, t₂, samples, ready, hturn, hheard, -, houtcome, -⟩ :=
    exists_exchanges rfl (fun _ => Session.talks_forEach fun database _ => talks_databaseChunks database)
      responds_collectionSizes hitems hanswered
  refine ⟨exchanges, t₂, documents, samples, ready, hheard, houtcome, fun f hf => ?_, fun database hdb => ?_,
    fun database hdb rows row name => mem_ownCollections (hdots database hdb), ?_⟩
  · obtain ⟨database, hdb, own, part, hasked, hown, hf⟩ := hturn.exists_of_mem hf
    exact ⟨database, hdb, (hasked.ofShard f hf).mono hown.subset⟩
  · exact hturn.exists_filter hnodup (fun database own part hasked f hf database' =>
      (hasked.ofShard f hf).isUnder_iff database') hdb
  · intro database hdb database' hdb' rows rows' row name name' hrow hrow'
    exact ((mem_ownCollections (hdots database hdb)).1 hrow).2.unique
      ((mem_ownCollections (hdots database' hdb')).1 hrow').2

/-- A router that answers at once: with three databases, for each of them with the same rows of the
configuration, and for each collection with one row about a shard and one without. -/
def sameRowsRouter : World where
  connect _ _ := .never
  answer
    | _, _, .listDatabases _ => .after 0 (.ok ["db", "DB", "db1"])
    | _, _, .aggregate _ "collections" _ => .after 0 (.ok
      [[("_id", .string "db.a.b")], [("_id", .string "DB.a")], [("_id", .string "db1.c"),
        ("dropped", .boolean true)], [("_id", .int32 5)], [("_id", .string "other.a")]])
    | _, _, .aggregate .. => .after 0 (.ok [[("shard", .string "s0"), ("nChunks", .int32 3)], []])
    | _, _, _ => .after 0 (.error (.command "listCollections" (some 13) "not authorized"))
  wallClock _ := 0
  residentBytes _ := none
  parallelism := none

theorem answers_sameRowsRouter (t : Instant) (c : Call) :
    ∃ x, sameRowsRouter.answer client t c = .after 0 x := by
  simp only [sameRowsRouter]
  split <;> exact ⟨_, rfl⟩

/-- Three databases whose names differ in case or begin alike, with the same rows for each: each of the two
collections is counted once. -/
theorem same_rows_count_once :
    sameRowsRouter.answer 0 0 (.listDatabases .everything) = .after 0 (.ok ["db", "DB", "db1"]) ∧
    Session.Answered 0 sameRowsRouter ((sharding 0).fetch.attempt.run sameRowsRouter 0) ∧
    ∃ exchanges documents samples ready,
      ((sharding 0).fetch.attempt.run sameRowsRouter 0).outcome =
        some (.ok ⟨documents, samples⟩, ready) ∧
      (∀ f ∈ documents, ∃ database ∈ ["db", "DB", "db1"], OfShard database exchanges f) ∧
      documents.map (fun f => (f.labels.get? "database", f.labels.get? "collection")) =
        [(some "db", some "a.b"), (some "DB", some "a")] := by
  have hlisted : sameRowsRouter.answer 0 0 (.listDatabases .everything) =
      .after 0 (.ok ["db", "DB", "db1"]) := rfl
  have hanswered : Session.Answered 0 sameRowsRouter
      ((sharding 0).fetch.attempt.run sameRowsRouter 0) := fun t c _ =>
    (answers_sameRowsRouter t c).elim fun x hx => ⟨0, x, hx⟩
  have hdocuments : ((sharding 0).fetch.attempt.run sameRowsRouter 0).outcome.map (fun r =>
      r.1.toOption.map fun b => b.documents.map fun f =>
        (f.labels.get? "database", f.labels.get? "collection")) =
      some (some [(some "db", some "a.b"), (some "DB", some "a")]) := rfl
  obtain ⟨exchanges, -, documents, samples, ready, -, houtcome, horigin, -⟩ :=
    chunks_count_under_one_database hlisted (by decide) (by decide) hanswered
  rw [houtcome] at hdocuments
  exact ⟨hlisted, hanswered, exchanges, documents, samples, ready, houtcome, horigin,
    Option.some.inj (Option.some.inj hdocuments)⟩

end MongoMetrics.Source
