/-
The source that reads how collections are spread over the shards: for each sharded collection the
number of its chunks on each shard, and for every collection that the router sees its size.
-/
import MongoMetrics.Catalogue.Listing
import MongoMetrics.Scrape.Collector
import MongoMetrics.Source.Statistics

namespace MongoMetrics.Source

open MongoMetrics.Scrape

/-! ## Sharded collections -/

/-- The rows of the configuration whose name begins with the database, in any case. -/
def shardedPipeline (database : String) : List Document :=
  [[("$match", .document [("_id", .regex ("^" ++ Pattern.escapeText database ++ "\\.") "i")])]]

/-- The collection of a row that is not dropped and belongs to exactly this database. -/
def shardedName? (database : String) (row : Document) : Option String :=
  if (Document.boolean? row "dropped").getD false then none
  else do
    let id ← Document.string? row "_id"
    let name ← Text.afterPrefix? (database ++ ".").toList id.toList
    return String.ofList name

/-- Chunks refer to their collection by its identifier in newer configurations, else by name. -/
def chunkCondition (row : Document) : Document :=
  match Document.get? row "timestamp", Document.get? row "uuid" with
  | some _, some uuid => [("uuid", uuid)]
  | _, _ => [("ns", (Document.get? row "_id").getD .null)]

/-- The stages that count the chunks of a collection by shard. -/
def chunkPipeline (row : Document) : List Document :=
  [[("$match", .document (chunkCondition row))],
   [("$group", .document [("_id", .string "$shard"), ("cnt", .document [("$sum", .int32 1)])])],
   [("$project", .document
      [("_id", .int32 0), ("shard", .string "$_id"), ("nChunks", .string "$cnt")])],
   [("$sort", .document [("shard", .int32 1)])]]

/-- The number of chunks on one shard; rows without a shard or a number do not count. -/
def chunkRow? (database collection : String) (chunk : Document) : Option Fetched := do
  let shard ← Document.string? chunk "shard"
  let count ← Document.get? chunk "nChunks"
  return ⟨"sharded collection chunks", [("count", count)],
    ((Keyed.single "database" database).insert "collection" collection).insert "shard" shard⟩

/-- The chunks of the sharded collections among the rows of one database. -/
def chunkDocuments (client : Client) (database : String) (rows : List Document) :
    Session (List Fetched) :=
  let sharded := rows.filterMap fun row => (shardedName? database row).map fun name => (row, name)
  eachItem (fun (row, _) => Session.ask client (.aggregate "config" "chunks" (chunkPipeline row)))
    (fun (_, name) chunks => chunks.filterMap (chunkRow? database name)) sharded

def databaseChunks (client : Client) (database : String) : Session (List Fetched) := do
  match ← Session.ask client (.aggregate "config" "collections" (shardedPipeline database)) with
  | .ok rows => chunkDocuments client database rows
  | .error _ => return []

/-! ## Sizes of collections -/

/-- Fields of the statistics with the metrics and help texts for them. -/
def sizeFields : List (String × String × String) :=
  [("size", "size", "The total size in memory of all records in a collection"),
   ("count", "count", "The number of objects or documents in this collection"),
   ("avgObjSize", "avgobjsize",
     "The average size of an object in the collection (plus any padding)"),
   ("storageSize", "storage_size",
     "The total amount of storage allocated to this collection for document storage"),
   ("nindexes", "indexes", "The number of indexes on the collection"),
   ("totalIndexSize", "indexes_size", "The total size of all indexes")]

/-- A sample for every field; a field that is missing or no number is zero. -/
def sizeSamples (database collection : String) (stats : Document) : List Sample :=
  sizeFields.map fun (field, metric, help) =>
    Sample.gauge ("mongodb_mongos_db_coll_" ++ metric) help ((Document.number? stats field).getD 0)
      ((Keyed.single "db" database).insert "coll" collection)

def collectionSize (client : Client) (item : String × String) : Session (List Sample) := do
  let (database, collection) := item
  let body : Document := [("collStats", .string collection), ("scale", .int32 1)]
  match ← Session.ask client (.command database body) with
  | .ok stats => return sizeSamples database collection stats
  | .error _ => return []

/-- All pairs of a database and one of its collections. -/
def allCollections (contents : Catalogue.Contents) : List (String × String) :=
  contents.toList.flatMap fun (database, collections) => collections.keys.map fun c => (database, c)

/-- The sizes of all collections; nothing when they cannot be listed. -/
def collectionSizes (client : Client) : Session (List Sample) := do
  match ← (Catalogue.contents client [] []).attempt with
  | .ok contents => return (← Session.forEach (collectionSize client) (allCollections contents)).flatten
  | .error _ => return []

/-! ## The source -/

def sharding (client : Client) : Source where
  family := "sharded"
  fetch := do
    let databases ← Request.ask client (.listDatabases DatabaseSelection.everything)
    let documents ← (Session.forEach (databaseChunks client) databases : Session (List (List Fetched)))
    let sizes ← (collectionSizes client : Session (List Sample))
    return ⟨documents.flatten, sizes⟩
  augment := fun _ => []

end MongoMetrics.Source
