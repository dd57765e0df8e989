/-
The exporter. Each request needs a connection: its own, which is closed again when the request is
answered, or the shared one, which is made once and kept. A connection comes with what was found
out about the server. Connecting fails a request; all else that fails or takes too long only leaves
samples out.
-/
import MongoMetrics.Scrape.Process
import MongoMetrics.Scrape.Roster
import MongoMetrics.Service.Settings
import MongoMetrics.Source.Server
import MongoMetrics.Source.Sharding
import MongoMetrics.Source.Statistics

namespace MongoMetrics

open MongoMetrics.Scrape

/-- A connected server and what is known about it. -/
structure Connection where
  client : Client
  deployment : Deployment

/-- A running exporter. -/
structure Exporter where
  settings : Settings
  /-- The shared connection, once it is made. -/
  connection : Option Connection
  started : Instant
  bootMillis : Int

namespace Exporter

/-! ## Connecting -/

/-- Any failure to connect counts as one of the connection. -/
def asConnectionFault : Fault → Fault
  | .connection message => .connection message
  | other => .connection other.message

/-- The client that a connector delivers in time. -/
def openClient (s : Settings) : Session (Except Fault Client) := do
  match ← (Session.connect s.uri).within s.limit with
  | some (.ok client) => return .ok client
  | some (.error fault) => return .error (asConnectionFault fault)
  | none => return .error (asConnectionFault (.timeout s.limit))

/-- What can be found out about the server in time. -/
def identifyInTime (s : Settings) (client : Client) : Session Deployment := do
  return ((← (Deployment.identify client).within s.limit).getD Deployment.unknown)

/-- A new connection. -/
def connect (s : Settings) : Session (Except Fault Connection) := do
  match ← openClient s with
  | .ok client => return .ok ⟨client, ← identifyInTime s client⟩
  | .error fault => return .error fault

/-- The shared connection, which is made when there is none yet. -/
def sharedConnection (e : Exporter) : Session (Except Fault Connection × Exporter) := do
  match e.connection with
  | some c => return (.ok c, e)
  | none =>
    match ← connect e.settings with
    | .ok c => return (.ok c, { e with connection := some c })
    | .error fault => return (.error fault, e)

/-- The connection for one request. -/
def obtain (e : Exporter) : Session (Except Fault Connection × Exporter) := do
  if e.settings.shared then e.sharedConnection
  else return (← connect e.settings, e)

/-- Closes the connection of one request. -/
def release (e : Exporter) (c : Connection) : Session Unit :=
  if e.settings.shared then return () else Session.shutdown c.client

/-- Starts an exporter. A shared connection is tried at once; if that fails, the next request tries
again. -/
def start (s : Settings) : Session Exporter := do
  let e : Exporter := ⟨s, none, ← Session.now, ← Session.unixMillis⟩
  if s.shared then return (← e.sharedConnection).2 else return e

/-! ## Choosing collectors -/

/-- Statistics of collections or indexes are asked for, and the number of collections allows to read
them. A count that fails does not forbid it, one that is not ready in time does. -/
def readsStats (s : Settings) (client : Client) : Session Bool := do
  if !s.wantsStats then return false
  else if s.collectionLimit == 0 then return true
  else
    match ← (Catalogue.countCollections client [] []).attempt.within s.limit with
    | some (.ok count) => return count ≤ s.collectionLimit
    | some (.error _) => return true
    | none => return false

/-- The statistics of collections and indexes, as far as they are asked for and allowed. -/
def statsSources (s : Settings) (client : Client) : Session (List Source) := do
  if ← readsStats s client then
    return (if s.collectionNamespaces.isEmpty then []
        else [Source.collectionStats client s.collectionNamespaces s.discovering s.naming]) ++
      (if s.indexNamespaces.isEmpty then []
        else [Source.indexStats client s.indexNamespaces s.discovering])
  else return []

/-- The sources to read, in order. -/
def sources (s : Settings) (c : Connection) : Session (List Source) := do
  let stats ← statsSources s c.client
  return [Source.general c.client] ++
    (if s.diagnosticData then [Source.diagnosticData c.client c.deployment s.naming] else []) ++
    (if s.replicaStatus && c.deployment.role.hasReplicaStatus then
      [Source.replicaStatus c.client c.deployment] else []) ++
    (if s.databaseStats then [Source.databaseStats c.client s.databaseNamespaces] else []) ++
    stats ++
    (if s.sharding && c.deployment.role == .router then [Source.sharding c.client] else [])

/-- The collectors of one scrape: the process first, then one for each source. -/
def roster (e : Exporter) (c : Connection) : Session (Except Fault Roster) := do
  let conditions : Conditions := ⟨c.deployment, e.settings.naming, e.settings.limit⟩
  let collectors := (← sources e.settings c).map fun s => s.collector conditions
  return Roster.empty.registerAll (processCollector e.started e.bootMillis :: collectors)

/-! ## Requests -/

/-- The exposition of the collectors of a connection. -/
def exposition (e : Exporter) (c : Connection) : Session (Except Fault String) := do
  match ← e.roster c with
  | .ok r => return .ok (← r.render).1
  | .error fault => return .error fault

/-- The text of one scrape. -/
def scrape (e : Exporter) : Session (Except Fault String × Exporter) := do
  let (connection, e) ← e.obtain
  match connection with
  | .error fault => return (.error fault, e)
  | .ok c =>
    let text ← e.exposition c
    e.release c
    return (text, e)

/-- What is known about the server. -/
def inspect (e : Exporter) : Session (Except Fault Deployment × Exporter) := do
  let (connection, e) ← e.obtain
  match connection with
  | .error fault => return (.error fault, e)
  | .ok c =>
    e.release c
    return (.ok c.deployment, e)

end Exporter

end MongoMetrics
