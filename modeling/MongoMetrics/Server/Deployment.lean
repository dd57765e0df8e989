/-
What part a server plays in its deployment, found out by asking it. The greeting of the server
decides the role, except that a replica set member whose own state is that of an arbiter is one.
Labels for all its samples follow: the replica set, the role in a sharded cluster and the identity
of the cluster, each when it is known. A server that does not answer the greeting is unknown.
-/
import MongoMetrics.Number.Binary64
import MongoMetrics.Sample
import MongoMetrics.Server.Session

namespace MongoMetrics

inductive Role where
  | standalone
  | router
  | replicaMember
  | arbiter
  | unknown
  deriving DecidableEq, Repr

namespace Role

def text : Role → String
  | standalone => "standalone"
  | router => "router"
  | replicaMember => "replset-member"
  | arbiter => "arbiter"
  | unknown => "unknown"

/-- Members of a replica set report its status. -/
def hasReplicaStatus (r : Role) : Bool := r == replicaMember || r == arbiter

/-- The role that the greeting of a server shows. -/
def ofGreeting (greeting : Document) : Role :=
  if Document.string? greeting "msg" == some "isdbgrid" then router
  else if Document.boolean? greeting "arbiterOnly" == some true then arbiter
  else if Document.has greeting "setName" then replicaMember
  else standalone

end Role

/-- The role of a server, with the labels that its samples carry. -/
structure Deployment where
  role : Role
  labels : Labels
  deriving DecidableEq

namespace Deployment

def unknown : Deployment := ⟨.unknown, {}⟩

def isArbiter (d : Deployment) : Bool := d.role == .arbiter

def replicaSetLabel : String := "rs_nm"

def clusterRoleLabel : String := "cl_role"

def clusterIdLabel : String := "cl_id"

/-- The state number of arbiters. -/
def arbiterState : Int := 7

/-! ## Reading replies -/

/-- The integer that a number holds, without its fraction. -/
def wholeNumber? : Value → Option Int
  | .int32 n => some n.toInt
  | .int64 n => some n.toInt
  | .double x => some (Number.truncate x)
  | _ => none

/-- A member that is the asked server itself, in the state of an arbiter. -/
def isArbiterSelf : Value → Bool
  | .document member =>
    Document.boolean? member "self" == some true &&
      (Document.get? member "state").bind wholeNumber? == some arbiterState
  | _ => false

/-- The text of an identifier; an empty one does not count. -/
def identifier? : Value → Option String
  | .objectId hex => some hex
  | .string s => if s.isEmpty then none else some s
  | _ => none

def identifierAt? (d : Document) (key : String) : Option String :=
  (Document.get? d key).bind identifier?

/-! ## Asking -/

/-- A command without arguments to the administration database. -/
def administer (client : Client) (name : String) : Request Document :=
  Request.ask client (.command "admin" [(name, .int32 1)])

/-- The greeting of the server, asked for by its older name when the new one is refused. -/
def greeting (client : Client) : Request Document := ExceptT.mk do
  match ← (administer client "hello").attempt with
  | .ok reply => return .ok reply
  | .error fault =>
    if fault.isConnection then return .error fault
    else (administer client "isMaster").attempt

def reportsArbiterState (client : Client) : Session Bool := do
  match ← (administer client "replSetGetStatus").attempt with
  | .ok status => return ((Document.array? status "members").getD []).any isArbiterSelf
  | .error _ => return false

/-- A document, with a failure counting as its absence. -/
def lookUp (client : Client) (database collection : String) (filter : Document) :
    Session (Option Document) := do
  match ← Session.ask client (.findOne database collection filter) with
  | .ok found => return found
  | .error _ => return none

/-- The identity of the cluster: from the configuration database, else from the shard's own
record, else from the replica set. -/
def clusterId (client : Client) (shardIdentity : Option Document) : Session (Option String) := do
  match (← lookUp client "config" "version" []).bind (identifierAt? · "clusterId") with
  | some id => return some id
  | none =>
    match shardIdentity.bind (identifierAt? · "clusterId") with
    | some id => return some id
    | none =>
      match ← (administer client "replSetGetConfig").attempt with
      | .ok reply =>
        return ((Document.document? reply "config").bind (Document.document? · "settings")).bind
          (identifierAt? · "replicaSetId")
      | .error _ => return none

/-- The role of the server in a sharded cluster. -/
def clusterRole? (role : Role) (greeting : Document) (shardIdentity : Option Document) :
    Option String :=
  if role == .router then some "mongos"
  else if Document.has greeting "configsvr" then some "configsvr"
  else if shardIdentity.isSome then some "shardsvr"
  else none

/-- The labels with one more, when its value is known. -/
def label (labels : Labels) (name : String) : Option String → Labels
  | some value => labels.insert name value
  | none => labels

/-- The role that the greeting shows, where a replica set member may turn out an arbiter. -/
def roleOf (client : Client) (greeting : Document) : Session Role := do
  let role := Role.ofGreeting greeting
  if role == .replicaMember then
    let arbiter ← reportsArbiterState client
    return (if arbiter then .arbiter else role)
  else return role

def shardIdentity (client : Client) (role : Role) : Session (Option Document) :=
  if role == .router then return none
  else lookUp client "admin" "system.version" [("_id", .string "shardIdentity")]

/-- Finds out about the server behind a connection. -/
def identify (client : Client) : Session Deployment := do
  match ← (greeting client).attempt with
  | .error _ => return unknown
  | .ok reply =>
    let role ← roleOf client reply
    let shard ← shardIdentity client role
    let id ← clusterId client shard
    let labels := label {} replicaSetLabel (Document.string? reply "setName")
    let labels := label labels clusterRoleLabel (clusterRole? role reply shard)
    return ⟨role, label labels clusterIdLabel id⟩

end Deployment

end MongoMetrics
