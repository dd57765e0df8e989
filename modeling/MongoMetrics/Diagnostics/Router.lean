/-
What a router tells of its cluster: the log of cluster changes of the last ten minutes, whether the
balancer runs, and how many shards and chunks there are. Every well-known event of the log has a
sample, zero when the log does not mention it.
-/
import MongoMetrics.Sample
import MongoMetrics.Server.Session

namespace MongoMetrics.Diagnostics

/-! ## The log of changes -/

def changeWindowMinutes : Int := 10

/-- The events that always have a sample. -/
def knownChanges : List String :=
  ["moveChunk.start", "moveChunk.to", "moveChunk.to_failed", "moveChunk.from",
   "moveChunk.from_failed", "moveChunk.commit", "addShard", "removeShard.start",
   "shardCollection", "shardCollection.start", "split", "multi-split"]

/-- The event under which a row counts: a move of a chunk with a note other than success failed. -/
def changeEvent (event note : String) : String :=
  if (event == "moveChunk.to" || event == "moveChunk.from") && !note.isEmpty && note != "success"
  then event ++ "_failed" else event

/-- The event and the count of a row; rows without a text for the event do not count. -/
def changeRow? (row : Document) : Option (String × Float) := do
  let id ← Document.document? row "_id"
  let event ← Document.string? id "event"
  let note := (Document.string? id "note").getD ""
  return (changeEvent event note, (Document.number? row "count").getD 0)

/-- The counts with the one of an event set; a new event comes last. -/
def setCount (event : String) (count : Float) : List (String × Float) → List (String × Float)
  | [] => [(event, count)]
  | (known, old) :: rest =>
    if known = event then (known, count) :: rest else (known, old) :: setCount event count rest

/-- The counts after all rows, each row setting the count of its event. -/
def changeCounts (rows : List Document) : List (String × Float) :=
  (rows.filterMap changeRow?).foldl (fun counts (event, count) => setCount event count counts)
    (knownChanges.map fun event => (event, 0))

def changeSample (event : String) (count : Float) : Sample :=
  Sample.gauge "mongodb_mongos_sharding_changelog_10min_total"
    "Total # of Cluster Balancer log events over the last 10 minutes" count
    (Keyed.single "event" event)

/-- One sample for each event. -/
def changeSamples (rows : List Document) : List Sample :=
  (changeCounts rows).map fun (event, count) => changeSample event count

/-- The stages that count changes by event and note from an instant on. -/
def changePipeline (since : Int) : List Document :=
  [[("$match", .document [("time", .document [("$gt", .dateTime (Int64.ofInt since))])])],
   [("$group", .document [
      ("_id", .document [("event", .string "$what"), ("note", .string "$details.note")]),
      ("count", .document [("$sum", .int32 1)])])]]

/-! ## Asking the router -/

def recentChanges (client : Client) : Session (List Sample) := do
  let since := minutesBefore (← Session.unixMillis) changeWindowMinutes
  match ← Session.ask client (.aggregate "config" "changelog" (changePipeline since)) with
  | .ok rows => return changeSamples rows
  | .error _ => return []

def balancerSample (settings : Option Document) : Sample :=
  let stopped := (settings.bind (Document.boolean? · "stopped")).getD false
  Sample.gauge "mongodb_mongos_sharding_balancer_enabled" "Whether the cluster balancer is enabled"
    (if stopped then 0 else 1) {}

def balancer (client : Client) : Session (List Sample) := do
  let filter : Document := [("_id", .string "balancer")]
  match ← Session.ask client (.findOne "config" "settings" filter) with
  | .ok settings => return [balancerSample settings]
  | .error _ => return []

/-- The collections of the configuration database that are counted. -/
def countedCollections : List (String × String × String) :=
  [("shards", "mongodb_mongos_sharding_shards_total", "Total # of shards"),
   ("chunks", "mongodb_mongos_sharding_chunks_total", "Total # of chunks")]

def countSamples (client : Client) (counted : String × String × String) : Session (List Sample) := do
  let (collection, metric, help) := counted
  match ← Session.ask client (.command "config" [("count", .string collection)]) with
  | .ok reply => return ((Document.number? reply "n").map fun x => Sample.gauge metric help x {}).toList
  | .error _ => return []

/-- All that a router tells; a question that fails adds nothing. -/
def routerSamples (client : Client) : Session (List Sample) := do
  let changes ← recentChanges client
  let balancer ← balancer client
  let counts ← Session.forEach (countSamples client) countedCollections
  return changes ++ balancer ++ counts.flatten

end MongoMetrics.Diagnostics
