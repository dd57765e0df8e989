/-
The collector of the exporter's own process: when it started, how long it has run, and what memory
and threads it has.
-/
import MongoMetrics.Scrape.Collector

namespace MongoMetrics.Scrape

/-- Unix seconds of a time in milliseconds, rounded down. -/
def wholeSeconds (millis : Int) : Int := millis.fdiv 1000

/-- The samples of the process, as far as its readings are known. -/
def processSamples (bootMillis : Int) (uptime : Duration) (resident threads : Option Nat) :
    List Sample :=
  [Sample.gauge "process_start_time_seconds" "Start time of the process since unix epoch in seconds"
     (Float.ofInt (wholeSeconds bootMillis)) {},
   Sample.gauge "process_uptime_seconds" "Process uptime in seconds" uptime.toSeconds {}] ++
  (resident.map fun bytes =>
    Sample.gauge "process_resident_memory_bytes" "Resident memory size of the process in bytes"
      (Float.ofNat bytes) {}).toList ++
  (threads.map fun n =>
    Sample.gauge "process_available_parallelism"
      "Number of worker threads the runtime can schedule on" (Float.ofNat n) {}).toList

def describeProcess (started : Instant) (bootMillis : Int) : Session (List Shape × Snapshot) := do
  let uptime := (← Session.now) - started
  let samples := processSamples bootMillis uptime (← Session.residentBytes) (← Session.parallelism)
  return (samples.map Sample.shape, some samples)

/-- The collector of the process that started at an instant, with its start in Unix time. -/
def processCollector (started : Instant) (bootMillis : Int) : Collector :=
  ⟨"process", describeProcess started bootMillis, replay⟩

end MongoMetrics.Scrape
