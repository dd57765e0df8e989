/-
Samples that only the legacy naming has: evicted pages of the cache, and the identity of the server
as labels of constant samples.
-/
import MongoMetrics.Document.Value
import MongoMetrics.Sample

namespace MongoMetrics.Diagnostics

/-- Evicted pages, clean and dirty together, when both are counted. -/
def evictedPages (data : Document) : Option Sample :=
  match Document.at? data ["serverStatus", "wiredTiger", "cache"] with
  | some (.document cache) => do
    let modified ← Document.number? cache "modified pages evicted"
    let unmodified ← Document.number? cache "unmodified pages evicted"
    return Sample.counter "mongodb_mongod_wiredtiger_cache_evicted_total"
      "WiredTiger cache evicted total" (modified + unmodified) {}
  | _ => none

def textAt? (data : Document) (path : List String) : Option String :=
  match Document.at? data path with
  | some (.string s) => some s
  | _ => none

def versionSample? (data : Document) : Option Sample :=
  (textAt? data ["serverStatus", "version"]).map fun version =>
    Sample.gauge "mongodb_version_info" "The server version" 1 (Keyed.single "mongodb" version)

def engineSample? (data : Document) : Option Sample :=
  (textAt? data ["serverStatus", "storageEngine", "name"]).map fun engine =>
    Sample.gauge "mongodb_mongod_storage_engine"
      "The storage engine used by the MongoDB instance" 1 (Keyed.single "engine" engine)

/-- The state of this member of the replica set, which may be without a name. -/
def stateSample? (data : Document) : Option Sample :=
  ((Document.at? data ["replSetGetStatus", "myState"]).bind Value.number?).map fun state =>
    Sample.gauge "mongodb_mongod_replset_my_state"
      "An integer between 0 and 10 that represents the replica state of the current member" state
      (Keyed.single "set" ((textAt? data ["replSetGetStatus", "set"]).getD ""))

def identitySamples (data : Document) : List Sample :=
  (versionSample? data).toList ++ (engineSample? data).toList ++ (stateSample? data).toList

end MongoMetrics.Diagnostics
