/-
Sources that read the server itself: whether it answers, its diagnostic data and the status of its
replica set. On an arbiter a refused reading is expected.
-/
import MongoMetrics.Diagnostics.Legacy
import MongoMetrics.Diagnostics.Locks
import MongoMetrics.Diagnostics.Router
import MongoMetrics.Scrape.Collector

namespace MongoMetrics.Source

open MongoMetrics.Scrape

/-! ## Whether the server answers -/

def upSample (isUp : Bool) : Sample :=
  Sample.gauge "mongodb_up" "Whether MongoDB is up." (if isUp then 1 else 0) {}

/-- Asks for a sign of life. -/
def ping (client : Client) : Request Unit := do
  let _ ← Deployment.administer client "ping"
  return ()

def general (client : Client) : Source where
  family := "general"
  fetch := ExceptT.mk do
    let answer ← (ping client).attempt
    return .ok (Batch.ofSamples [upSample answer.isOk])
  augment := fun _ => []

/-! ## Reading with regard to arbiters -/

/-- A command to the administration database, whose failure on an arbiter is expected. -/
def read (client : Client) (deployment : Deployment) (name : String) : Request Document :=
  ExceptT.mk do
    match ← (Deployment.administer client name).attempt with
    | .ok reply => return .ok reply
    | .error fault => return .error (if deployment.isArbiter then .arbiterSkip else fault)

/-- The document under a key of a reply. -/
def dataOf (reply : Document) : Except Fault Document :=
  match Document.document? reply "data" with
  | some data => .ok data
  | none => .error (.command "getDiagnosticData" none "response has no data document")

/-- Samples that regroup parts of the diagnostic data. -/
def diagnosticAugment (naming : Extraction.Naming) (data : Document) : List Sample :=
  Diagnostics.lockSamples data ++ Diagnostics.globalLockSamples data ++
    match naming with
    | .full => []
    | .legacy => (Diagnostics.evictedPages data).toList ++ Diagnostics.identitySamples data

/-- The diagnostic data; in the legacy naming, a router tells of its cluster as well. -/
def diagnosticData (client : Client) (deployment : Deployment) (naming : Extraction.Naming) :
    Source where
  family := "diagnosticdata"
  fetch := do
    let reply ← read client deployment "getDiagnosticData"
    let data ← ExceptT.mk (Session.pure (dataOf reply))
    let samples ← (if naming == .legacy && deployment.role == .router then
      Diagnostics.routerSamples client else Session.pure [] : Session (List Sample))
    return ⟨[⟨"", data, {}⟩], samples⟩
  augment := fun documents => documents.flatMap fun f => diagnosticAugment naming f.document

def replicaStatus (client : Client) (deployment : Deployment) : Source where
  family := "replicasetstatus"
  fetch := do
    let status ← read client deployment "replSetGetStatus"
    return Batch.ofDocuments [⟨"replSetGetStatus", status, {}⟩]
  augment := fun _ => []

end MongoMetrics.Source
