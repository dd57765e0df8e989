/-
What a server reports of an item: a database, a namespace, or the sharded collections of a database. A
report is what is asked about the item with the replies, and the documents that come of these. The
questions are given in full, and so are the documents: of an answer there is one for each row that has
something to tell, in order, with its path, its content and just the labels of its item; of a refusal
there is none.
-/
import MongoMetrics.Proofs.Pattern.Escaped
import MongoMetrics.Proofs.Server.Exchanges
import MongoMetrics.Scrape.Collector

namespace MongoMetrics.Source

open MongoMetrics.Scrape

/-! ## Documents of rows -/

/-- The document has this path and this content, and these labels and no others. -/
structure Holds (f : Fetched) (path : String) (content : Document) (labels : List (String × String)) :
    Prop where
  path : f.path = path
  content : f.document = content
  labels : ∀ key, f.labels.get? key = labels.lookup key

/-- What rows say, one after the other; a row may be silent. -/
inductive RowByRow {α β : Type} (tells : α → β → Prop) : List α → List β → Prop
  | nil : RowByRow tells [] []
  | told {row : α} {rows : List α} {said : β} {found : List β} (h : tells row said)
    (hrest : RowByRow tells rows found) : RowByRow tells (row :: rows) (said :: found)
  | silent {row : α} {rows : List α} {found : List β} (h : ∀ said, ¬ tells row said)
    (hrest : RowByRow tells rows found) : RowByRow tells (row :: rows) found

/-- A reader that finds what a row tells, and nothing in a silent one, reads row by row. -/
theorem rowByRow_filterMap {α β : Type} {tells : α → β → Prop} {read : α → Option β}
    (htold : ∀ row said, read row = some said → tells row said)
    (hsilent : ∀ row said, tells row said → read row ≠ none) (rows : List α) :
    RowByRow tells rows (rows.filterMap read) := by
  induction rows with
  | nil => exact .nil
  | cons row rows ih =>
    -- a row in which the reader finds nothing has nothing to tell, or else `hsilent` would be broken
    cases hread : read row with
    | none =>
      rw [List.filterMap_cons_none hread]
      exact .silent (fun said htells => hsilent row said htells hread) ih
    | some said =>
      rw [List.filterMap_cons_some hread]
      exact .told (htold row said hread) ih

theorem rowByRow_map {α β : Type} {tells : α → β → Prop} {read : α → β} (h : ∀ row, tells row (read row))
    (rows : List α) : RowByRow tells rows (rows.map read) := by
  induction rows with
  | nil => exact .nil
  | cons row rows ih => exact .told (h row) ih

/-- One question: the answer tells what is found, and of a refusal nothing comes. -/
inductive Asked {β : Type} (about : Except Fault β → Exchange) (tells : β → List Fetched → Prop) :
    List Exchange → List Fetched → Prop
  | answered (answer : β) {found : List Fetched} (h : tells answer found) :
    Asked about tells [about (.ok answer)] found
  | refused (fault : Fault) : Asked about tells [about (.error fault)] []

/-! ## Databases -/

/-- The statistics of a database, as one document. -/
def ReportsDatabase (database : String) : List Exchange → List Fetched → Prop :=
  Asked (fun x => ⟨.command database [("dbStats", .int32 1), ("scale", .int32 1)], x⟩)
    fun stats found => ∃ f, found = [f] ∧ Holds f "dbstats" stats [("database", database)]

/-! ## Namespaces -/

/-- The database before the first dot of a namespace, and the collection behind it; without a dot there
is no collection. -/
inductive Parts : String → String → String → Prop
  | cut {database : String} (collection : String) (h : '.' ∉ database.toList) :
    Parts (database ++ "." ++ collection) database collection
  | whole {database : String} (h : '.' ∉ database.toList) : Parts database database ""

/-- The statistics of a collection, a document for each row. The full naming leaves the details of the
storage engine out. -/
def ReportsCollection (naming : Extraction.Naming) (ns : String) (exchanges : List Exchange)
    (found : List Fetched) : Prop :=
  ∃ database collection, Parts ns database collection ∧
    Asked (fun x => ⟨.aggregate database collection
        ([[("$collStats", .document [("latencyStats", .document [("histograms", .boolean true)]),
            ("storageStats", .document [("scale", .int32 1)])])]] ++
          if naming = .full then
            [[("$project", .document [("storageStats.wiredTiger", .int32 0),
              ("storageStats.indexDetails", .int32 0)])]]
          else []), x⟩)
      (RowByRow fun row f =>
        Holds f "collstats" row [("database", database), ("collection", collection)])
      exchanges found

/-- The row names an index and tells of the accesses to it. -/
def TellsOfIndex (database collection : String) (row : Document) (f : Fetched) : Prop :=
  ∃ key accesses, Document.string? row "name" = some key ∧
    Document.document? row "accesses" = some accesses ∧
    Holds f "indexstats.accesses" accesses
      [("database", database), ("collection", collection), ("key_name", key)]

/-- The accesses to the indexes of a collection. -/
def ReportsIndexes (ns : String) (exchanges : List Exchange) (found : List Fetched) : Prop :=
  ∃ database collection, Parts ns database collection ∧
    Asked (fun x => ⟨.aggregate database collection [[("$indexStats", .document [])]], x⟩)
      (RowByRow (TellsOfIndex database collection)) exchanges found

/-! ## Sharded collections -/

/-- The row is about a collection of the database that is not dropped, with this name. -/
def NamesOwn (database : String) (row : Document) (collection : Document × String) : Prop :=
  collection.1 = row ∧ Document.boolean? row "dropped" ≠ some true ∧
    Document.string? row "_id" = some (database ++ "." ++ collection.2)

/-- What the chunks of the collection of a row have in common: its unique identifier, when the row has
it together with a time stamp, and else its name. -/
inductive RefersTo (row : Document) : Document → Prop
  | identifier {stamp uuid : Value} (hstamp : Document.get? row "timestamp" = some stamp)
    (huuid : Document.get? row "uuid" = some uuid) : RefersTo row [("uuid", uuid)]
  | name (h : Document.get? row "timestamp" = none ∨ Document.get? row "uuid" = none) :
    RefersTo row [("ns", (Document.get? row "_id").getD .null)]

/-- The row has a shard and the number of chunks on it. -/
def CountsChunks (database collection : String) (row : Document) (f : Fetched) : Prop :=
  ∃ shard count, Document.string? row "shard" = some shard ∧ Document.get? row "nChunks" = some count ∧
    Holds f "sharded collection chunks" [("count", count)]
      [("database", database), ("collection", collection), ("shard", shard)]

/-- The numbers of chunks of a sharded collection by shard. -/
def ReportsChunks (database : String) (collection : Document × String) (exchanges : List Exchange)
    (found : List Fetched) : Prop :=
  ∃ condition, RefersTo collection.1 condition ∧
    Asked (fun x => ⟨.aggregate "config" "chunks"
        [[("$match", .document condition)],
          [("$group", .document [("_id", .string "$shard"), ("cnt", .document [("$sum", .int32 1)])])],
          [("$project", .document
            [("_id", .int32 0), ("shard", .string "$_id"), ("nChunks", .string "$cnt")])],
          [("$sort", .document [("shard", .int32 1)])]], x⟩)
      (RowByRow (CountsChunks database collection.2)) exchanges found

/-- The question for the collections whose identifiers a pattern finds. -/
def shardedQuestion (pattern : String) (x : Except Fault (List Document)) : Exchange :=
  ⟨.aggregate "config" "collections" [[("$match", .document [("_id", .regex pattern "i")])]], x⟩

/-- The sharded collections of a database, which are asked for by the beginnings of their identifiers up
to case, and then the chunks of each that is the database's own. -/
inductive ReportsShards (database : String) : List Exchange → List Fetched → Prop
  | refused {pattern : String} (hpattern : Pattern.FindsBeginnings pattern (database ++ "."))
    (fault : Fault) : ReportsShards database [shardedQuestion pattern (.error fault)] []
  | answered {pattern : String} (hpattern : Pattern.FindsBeginnings pattern (database ++ "."))
    (rows : List Document) {collections : List (Document × String)}
    (hown : RowByRow (NamesOwn database) rows collections) {exchanges : List Exchange}
    {found : List Fetched} (h : InTurn (ReportsChunks database) collections exchanges found) :
    ReportsShards database (shardedQuestion pattern (.ok rows) :: exchanges) found

end MongoMetrics.Source
