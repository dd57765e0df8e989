/-
Lock statistics. The diagnostic data lists locks by resource, statistic and mode; here each
statistic becomes one metric with the resource and the mode as labels. The global lock has its
queues, its clients and its total time.
-/
import MongoMetrics.Document.Value
import MongoMetrics.Extraction.MetricName
import MongoMetrics.Sample

namespace MongoMetrics.Diagnostics

/-- The one-letter names of lock modes, and their names as labels. -/
def lockModes : List (String × String) := [("r", "read"), ("w", "write"), ("R", "READ"), ("W", "WRITE")]

/-- The fields of a document; any other value has none. -/
def fieldsOf : Value → Document
  | .document fields => fields
  | _ => []

/-- The counter of one statistic in one mode, when the mode holds a number. -/
def lockSample? (resource statistic : String) (modes : Document) (mode : String × String) :
    Option Sample :=
  (Document.number? modes mode.1).map fun x =>
    Sample.counter ("mongodb_locks_" ++ Extraction.normalize statistic)
      ("serverStatus.locks." ++ statistic) x
      ((Keyed.single "resource" resource).insert "lock_mode" mode.2)

/-- All lock counters, by resource, statistic and mode. -/
def lockSamples (data : Document) : List Sample :=
  match Document.at? data ["serverStatus", "locks"] with
  | some (.document locks) =>
    locks.flatMap fun (resource, statistics) =>
      (fieldsOf statistics).flatMap fun (statistic, modes) =>
        lockModes.filterMap (lockSample? resource statistic (fieldsOf modes))
  | _ => []

/-! ## The global lock -/

/-- Sections of the global lock with their metrics. -/
def globalLockSections : List (String × String) :=
  [("currentQueue", "mongodb_global_lock_current_queue"),
   ("activeClients", "mongodb_global_lock_client")]

/-- The two sides of a section with their labels. -/
def globalLockSides : List (String × String) := [("readers", "reader"), ("writers", "writer")]

def globalLockSamples (data : Document) : List Sample :=
  match Document.at? data ["serverStatus", "globalLock"] with
  | some (.document lock) =>
    let sides := globalLockSections.flatMap fun (part, metric) =>
      globalLockSides.filterMap fun (key, side) =>
        (Document.number? ((Document.document? lock part).getD []) key).map fun x =>
          Sample.gauge metric ("serverStatus.globalLock." ++ part) x (Keyed.single "type" side)
    let total := (Document.number? lock "totalTime").map fun x =>
      Sample.counter "mongodb_global_lock_total" "serverStatus.globalLock.totalTime" x {}
    sides ++ total.toList
  | _ => []

end MongoMetrics.Diagnostics
