/-
How an item is read. What a source asks about a database, a namespace or a sharded collection and what
it makes of the answers is what the server reports of the item (`reportsDatabase`, `reportsCollection`,
`reportsIndexes`, `AskedSharded.reports`); and sessions for many items ask about one after the other.
-/
import MongoMetrics.Proofs.Source.Reports
import MongoMetrics.Source.Sharding

namespace MongoMetrics.Source

open MongoMetrics.Scrape
open MongoMetrics.Session (Talks)

variable {client : Client}

/-! ## One item -/

/-- One question about an item: an answer is read, and a failure gives nothing. -/
inductive AskedOnce {α β γ : Type} (about : α → Except Fault β → Exchange) (read : α → β → List γ)
    (item : α) : List Exchange → List γ → Prop
  | succeeds (answer : β) : AskedOnce about read item [about item (.ok answer)] (read item answer)
  | fails (fault : Fault) : AskedOnce about read item [about item (.error fault)] []

/-- The question for the statistics of a database. -/
def databaseExchange (database : String) (x : Except Fault Document) : Exchange :=
  ⟨.command database [("dbStats", .int32 1), ("scale", .int32 1)], x⟩

/-- The question for the rows of a namespace. -/
def rowsExchange (pipeline : List Document) (ns : String) (x : Except Fault (List Document)) : Exchange :=
  ⟨.aggregate (Catalogue.databaseOf ns) (Catalogue.collectionOf ns) pipeline, x⟩

/-- The question for the sharded collections of a database. -/
def shardedExchange (database : String) (x : Except Fault (List Document)) : Exchange :=
  ⟨.aggregate "config" "collections" (shardedPipeline database), x⟩

/-- The question for the chunks of a sharded collection. -/
def chunksExchange (collection : Document × String) (x : Except Fault (List Document)) : Exchange :=
  ⟨.aggregate "config" "chunks" (chunkPipeline collection.1), x⟩

/-- The rows of the collections that are the database's own, with the names of these. -/
def ownCollections (database : String) (rows : List Document) : List (Document × String) :=
  rows.filterMap fun row => (shardedName? database row).map fun name => (row, name)

/-- The documents of a collection, one for each row that counts the chunks on a shard. -/
def chunkCounts (database : String) (collection : Document × String) (chunks : List Document) :
    List Fetched :=
  chunks.filterMap (chunkRow? database collection.2)

/-- The question for the sharded collections of a database, and then one for the chunks of each. -/
inductive AskedSharded (database : String) : List Exchange → List Fetched → Prop
  | fails (fault : Fault) : AskedSharded database [shardedExchange database (.error fault)] []
  | succeeds (rows : List Document) {exchanges : List Exchange} {documents : List Fetched}
    (h : InTurn (AskedOnce chunksExchange (chunkCounts database)) (ownCollections database rows)
      exchanges documents) :
    AskedSharded database (shardedExchange database (.ok rows) :: exchanges) documents

/-! ## Chunks of a collection -/

/-- The document holds what a row says of the chunks on a shard, of a collection of the database that is
not dropped. Its labels are the database, the collection and the shard. -/
inductive OfShard (database : String) (exchanges : List Exchange) (f : Fetched) : Prop
  | counted {rows chunks : List Document} {row chunk : Document} {name shard : String} {count : Value}
    (hrows : shardedExchange database (.ok rows) ∈ exchanges) (hrow : row ∈ rows)
    (hdropped : Document.boolean? row "dropped" ≠ some true)
    (hid : Document.string? row "_id" = some (Catalogue.namespaceOf database name))
    (hchunks : chunksExchange (row, name) (.ok chunks) ∈ exchanges) (hchunk : chunk ∈ chunks)
    (hshard : Document.string? chunk "shard" = some shard)
    (hcount : Document.get? chunk "nChunks" = some count) (hdocument : f.document = [("count", count)])
    (hdatabase : f.labels.get? "database" = some database)
    (hcollection : f.labels.get? "collection" = some name) (hlabel : f.labels.get? "shard" = some shard)

theorem OfShard.mono {database : String} {exchanges exchanges' : List Exchange} {f : Fetched}
    (h : OfShard database exchanges f) (hsub : exchanges ⊆ exchanges') : OfShard database exchanges' f := by
  cases h with
  | counted hrows hrow hdropped hid hchunks hchunk hshard hcount hdocument hdatabase hcollection hlabel =>
    exact .counted (hsub hrows) hrow hdropped hid (hsub hchunks) hchunk hshard hcount hdocument hdatabase
      hcollection hlabel

/-! ## Reports -/

theorem AskedOnce.asked {α β : Type} {about : α → Except Fault β → Exchange} {read : α → β → List Fetched}
    {tells : β → List Fetched → Prop} {a : α} {exchanges : List Exchange} {found : List Fetched}
    (h : AskedOnce about read a exchanges found) (htells : ∀ answer, tells answer (read a answer)) :
    Asked (about a) tells exchanges found := by
  cases h with
  | succeeds answer => exact .answered answer (htells answer)
  | fails fault => exact .refused fault

/-- One more label at the end. -/
theorem get?_insert_eq_lookup {labels : Labels} {l : List (String × String)}
    (h : ∀ key, labels.get? key = l.lookup key) {name : String} (hname : l.lookup name = none)
    (value : String) (key : String) : (labels.insert name value).get? key = (l ++ [(name, value)]).lookup key := by
  rw [Keyed.get?_insert, List.lookup_append, Keyed.lookup_entry, h]
  split
  · -- the labels before it do not have the name, so they hide nothing
    rename_i hkey
    rw [hkey, hname]
    rfl
  · rw [List.lookup_nil, Option.or_none]

theorem get?_single (name value key : String) :
    (Keyed.single name value : Labels).get? key = [(name, value)].lookup key :=
  get?_insert_eq_lookup (l := []) (fun _ => rfl) rfl value key

theorem get?_namespaceLabels (ns key : String) : (namespaceLabels ns).get? key =
    [("database", Catalogue.databaseOf ns), ("collection", Catalogue.collectionOf ns)].lookup key :=
  get?_insert_eq_lookup (get?_single _ _) rfl _ key

theorem parts_namespace (ns : String) :
    Parts ns (Catalogue.databaseOf ns) (Catalogue.collectionOf ns) := by
  unfold Catalogue.databaseOf Catalogue.collectionOf Catalogue.splitNamespace
  split
  · rename_i database collection hcut
    -- the cut is at the first dot, so there is none in the database
    obtain ⟨htext, hdot⟩ := Text.splitFirst_eq_some hcut
    have hns : String.ofList database ++ "." ++ String.ofList collection = ns := by
      rw [← String.toList_inj, htext]
      simp
    have hdatabase : '.' ∉ (String.ofList database).toList := by rwa [String.toList_ofList]
    have h := Parts.cut (String.ofList collection) hdatabase
    rwa [hns] at h
  · rename_i hcut
    exact .whole (Text.splitFirst_eq_none.1 hcut)

theorem reportsDatabase {database : String} {exchanges : List Exchange} {found : List Fetched}
    (h : AskedOnce databaseExchange databaseDocument database exchanges found) :
    ReportsDatabase database exchanges found :=
  h.asked fun _ => ⟨_, rfl, rfl, rfl, get?_single _ _⟩

theorem reportsCollection {naming : Extraction.Naming} {ns : String} {exchanges : List Exchange}
    {found : List Fetched}
    (h : AskedOnce (rowsExchange (collectionPipeline naming)) collectionRows ns exchanges found) :
    ReportsCollection naming ns exchanges found := by
  refine ⟨_, _, parts_namespace ns, ?_⟩
  have htells : ∀ rows, RowByRow (fun row f => Holds f "collstats" row
      [("database", Catalogue.databaseOf ns), ("collection", Catalogue.collectionOf ns)]) rows
      (collectionRows ns rows) :=
    rowByRow_map fun _ => ⟨rfl, rfl, get?_namespaceLabels ns⟩
  cases naming with
  | full => exact h.asked htells
  | legacy => exact h.asked htells

theorem tellsOfIndex_of_indexRow {ns : String} {row : Document} {f : Fetched} (h : indexRow? ns row = some f) :
    TellsOfIndex (Catalogue.databaseOf ns) (Catalogue.collectionOf ns) row f := by
  simp only [indexRow?, Option.bind_eq_bind, Option.bind_eq_some_iff, Option.pure_def,
    Option.some.injEq] at h
  obtain ⟨key, hkey, accesses, haccesses, rfl⟩ := h
  exact ⟨key, accesses, hkey, haccesses, rfl, rfl, get?_insert_eq_lookup (get?_namespaceLabels ns) rfl _⟩

theorem reportsIndexes {ns : String} {exchanges : List Exchange} {found : List Fetched}
    (h : AskedOnce (rowsExchange indexPipeline) indexRows ns exchanges found) :
    ReportsIndexes ns exchanges found := by
  refine ⟨_, _, parts_namespace ns, h.asked fun rows => ?_⟩
  refine rowByRow_filterMap (fun row f => tellsOfIndex_of_indexRow) (fun row f htells hsilent => ?_) rows
  obtain ⟨key, accesses, hkey, haccesses, -⟩ := htells
  rw [indexRow?, hkey, haccesses] at hsilent
  cases hsilent

theorem refersTo_chunkCondition (row : Document) : RefersTo row (chunkCondition row) := by
  unfold chunkCondition
  split
  · rename_i stamp uuid hstamp huuid
    exact .identifier hstamp huuid
  · rename_i hmissing
    refine .name ?_
    cases hstamp : Document.get? row "timestamp" with
    | none => exact .inl rfl
    | some stamp =>
      cases huuid : Document.get? row "uuid" with
      | none => exact .inr rfl
      | some uuid => exact (hmissing stamp uuid hstamp huuid).elim

theorem countsChunks_of_chunkRow {database collection : String} {row : Document} {f : Fetched}
    (h : chunkRow? database collection row = some f) : CountsChunks database collection row f := by
  simp only [chunkRow?, Option.bind_eq_bind, Option.bind_eq_some_iff, Option.pure_def,
    Option.some.injEq] at h
  obtain ⟨shard, hshard, count, hcount, rfl⟩ := h
  refine ⟨shard, count, hshard, hcount, rfl, rfl, ?_⟩
  exact get?_insert_eq_lookup (get?_insert_eq_lookup (get?_single _ _) rfl _) rfl _

theorem reportsChunks {database : String} {collection : Document × String} {exchanges : List Exchange}
    {found : List Fetched}
    (h : AskedOnce chunksExchange (chunkCounts database) collection exchanges found) :
    ReportsChunks database collection exchanges found := by
  refine ⟨_, refersTo_chunkCondition collection.1, h.asked fun rows => ?_⟩
  refine rowByRow_filterMap (fun row f => countsChunks_of_chunkRow) (fun row f htells hsilent => ?_) rows
  obtain ⟨shard, count, hshard, hcount, -⟩ := htells
  rw [chunkRow?, hshard, hcount] at hsilent
  cases hsilent

/-- The name of a collection is what its identifier has behind the database and a dot. -/
theorem shardedName?_eq_some {database name : String} {row : Document} :
    shardedName? database row = some name ↔ Document.boolean? row "dropped" ≠ some true ∧
      Document.string? row "_id" = some (Catalogue.namespaceOf database name) := by
  have hdropped : (Document.boolean? row "dropped").getD false = true ↔
      Document.boolean? row "dropped" = some true := by
    cases Document.boolean? row "dropped" <;> simp
  have hcut : ∀ id : String, Text.afterPrefix? (database ++ ".").toList id.toList = some name.toList ↔
      id = Catalogue.namespaceOf database name := fun id => by
    rw [Text.afterPrefix?_eq_some, ← String.toList_append, String.toList_inj]
    rfl
  unfold shardedName?
  rw [ne_eq, ← hdropped]
  by_cases h : (Document.boolean? row "dropped").getD false = true
  · rw [if_pos h]
    exact ⟨fun hname => (by cases hname), fun hname => absurd h hname.1⟩
  · rw [if_neg h]
    simp only [Option.bind_eq_bind, Option.bind_eq_some_iff, Option.pure_def, Option.some.injEq]
    constructor
    · rintro ⟨id, hid, rest, hrest, rfl⟩
      rw [← String.toList_ofList (l := rest), hcut] at hrest
      exact ⟨h, hrest ▸ hid⟩
    · rintro ⟨-, hid⟩
      exact ⟨_, hid, name.toList, (hcut _).2 rfl, String.ofList_toList⟩

theorem namesOwn_of_ownCollections (database : String) (rows : List Document) :
    RowByRow (NamesOwn database) rows (ownCollections database rows) := by
  refine rowByRow_filterMap (fun row collection h => ?_) (fun row collection h hsilent => ?_) rows
  · obtain ⟨name, hname, rfl⟩ := Option.map_eq_some_iff.1 h
    exact ⟨rfl, shardedName?_eq_some.1 hname⟩
  · rw [shardedName?_eq_some.2 h.2] at hsilent
    cases hsilent

/-- The question is for the identifiers that begin with the database and a dot. -/
theorem shardedExchange_eq (database : String) (x : Except Fault (List Document)) :
    shardedExchange database x = shardedQuestion ("^" ++ Pattern.escapeText (database ++ ".")) x := by
  -- the dot is escaped by hand, in the way in which texts are escaped
  have hdot : Pattern.escapeText "." = "\\." := rfl
  rw [Pattern.escapeText_append, hdot, ← String.append_assoc]
  rfl

theorem AskedSharded.reports {database : String} {exchanges : List Exchange} {found : List Fetched}
    (h : AskedSharded database exchanges found) : ReportsShards database exchanges found := by
  have hpattern := Pattern.finds_beginnings (database ++ ".")
  cases h with
  | fails fault =>
    rw [shardedExchange_eq]
    exact .refused hpattern fault
  | succeeds rows h =>
    rw [shardedExchange_eq]
    refine .answered hpattern rows (namesOwn_of_ownCollections database rows) ?_
    exact h.mono fun _ _ _ => reportsChunks

theorem ofShard_of_mem_chunkCounts {database : String} {rows chunks : List Document}
    {collection : Document × String} {exchanges : List Exchange} {f : Fetched}
    (hrows : shardedExchange database (.ok rows) ∈ exchanges)
    (hcollection : collection ∈ ownCollections database rows)
    (hchunks : chunksExchange collection (.ok chunks) ∈ exchanges)
    (hf : f ∈ chunkCounts database collection chunks) : OfShard database exchanges f := by
  obtain ⟨row, hrow, hown⟩ := List.mem_filterMap.1 hcollection
  obtain ⟨name, hname, rfl⟩ := Option.map_eq_some_iff.1 hown
  obtain ⟨hdropped, hid⟩ := shardedName?_eq_some.1 hname
  obtain ⟨chunk, hchunk, hcounted⟩ := List.mem_filterMap.1 hf
  obtain ⟨shard, count, hshard, hcount, hholds⟩ := countsChunks_of_chunkRow hcounted
  exact .counted hrows hrow hdropped hid hchunks hchunk hshard hcount hholds.content
    (hholds.labels "database") (hholds.labels "collection") (hholds.labels "shard")

theorem AskedSharded.ofShard {database : String} {exchanges : List Exchange} {documents : List Fetched}
    (h : AskedSharded database exchanges documents) : ∀ f ∈ documents, OfShard database exchanges f := by
  cases h with
  | fails fault => exact fun f hf => by cases hf
  | succeeds rows h =>
    intro f hf
    obtain ⟨collection, hcollection, own, found, hasked, hown, hf⟩ := h.exists_of_mem hf
    cases hasked with
    | fails fault => cases hf
    | succeeds chunks =>
      refine ofShard_of_mem_chunkCounts (List.mem_cons_self ..) hcollection ?_ hf
      exact List.mem_cons_of_mem _ (hown.subset (List.mem_singleton.2 rfl))

/-! ## All items -/

theorem talks_eachItem {α β : Type} {question : α → Session (Except Fault β)}
    (about : α → Except Fault β → Exchange) {read : α → β → List Fetched}
    (h : ∀ a, Talks client (question a) fun exchanges x => exchanges = [about a x]) (items : List α) :
    Talks client (eachItem question read items) (InTurn (AskedOnce about read) items) := by
  refine Session.talks_bind (Session.talks_forEach (R := AskedOnce about read) fun a _ => ?_)
    fun exchanges found hfound => ?_
  · refine Session.talks_bind (h a) fun exchanges x hx => ?_
    subst hx
    cases x with
    | ok answer => exact Session.talks_pure (.succeeds answer)
    | error fault => exact Session.talks_pure (.fails fault)
  · refine Session.talks_pure ?_
    rwa [List.append_nil]

theorem talks_eachDatabase (databases : List String) :
    Talks client (eachItem (fun database =>
        Session.ask client (.command database [("dbStats", .int32 1), ("scale", .int32 1)]))
      databaseDocument databases) (InTurn (AskedOnce databaseExchange databaseDocument) databases) :=
  talks_eachItem databaseExchange (fun _ => Session.talks_ask fun _ => rfl) databases

theorem talks_eachNamespace (pipeline : List Document) (read : String → List Document → List Fetched)
    (namespaces : List String) : Talks client (eachNamespace client pipeline read namespaces)
      (InTurn (AskedOnce (rowsExchange pipeline) read) namespaces) :=
  talks_eachItem (rowsExchange pipeline) (fun _ => Session.talks_ask fun _ => rfl) namespaces

theorem talks_chunkDocuments (database : String) (rows : List Document) :
    Talks client (chunkDocuments client database rows)
      (InTurn (AskedOnce chunksExchange (chunkCounts database)) (ownCollections database rows)) :=
  talks_eachItem chunksExchange (fun _ => Session.talks_ask fun _ => rfl) _

theorem talks_databaseChunks (database : String) :
    Talks client (databaseChunks client database) (AskedSharded database) := by
  refine Session.talks_bind (R := fun exchanges x => exchanges = [shardedExchange database x])
    (Session.talks_ask fun x => rfl) ?_
  rintro _ x rfl
  cases x with
  | error fault => exact Session.talks_pure (.fails fault)
  | ok rows => exact (talks_chunkDocuments database rows).mono fun _ _ h => .succeeds rows h

end MongoMetrics.Source
