/-
What can go wrong, and how it is told. Three command codes mean that the server runs without
replication; they and the skip on an arbiter are expected and reported quietly.
-/
import MongoMetrics.Clock

namespace MongoMetrics

/-- The cause of a failure. -/
inductive Fault where
  | connection (message : String)
  | command (name : String) (code : Option Int) (message : String)
  | arbiterSkip
  | malformedField (path reason : String)
  | viewNamespace (ns : String)
  | invalidArgument (message : String)
  | timeout (limit : Duration)
  deriving DecidableEq, Repr

namespace Fault

/-- The codes of a server without replication: not yet initialised, not enabled, and neither
primary nor secondary. -/
def noReplicationCodes : List Int := [94, 76, 13436]

def code? : Fault → Option Int
  | command _ code _ => code
  | _ => none

def isConnection : Fault → Bool
  | connection _ => true
  | _ => false

def isNoReplication (f : Fault) : Bool :=
  match f.code? with
  | some code => noReplicationCodes.contains code
  | none => false

/-- Faults that a healthy deployment produces. -/
def isQuiet (f : Fault) : Bool := f == arbiterSkip || f.isNoReplication

/-- The name of the cause. -/
def label : Fault → String
  | connection _ => "ConnectionError"
  | command .. => "CommandError"
  | arbiterSkip => "ArbiterSkip"
  | malformedField .. => "MalformedField"
  | viewNamespace _ => "InvalidNamespaceKind"
  | invalidArgument _ => "InvalidArgument"
  | timeout _ => "Timeout"

def codeText : Option Int → String
  | some code => "Some(" ++ Number.intText code ++ ")"
  | none => "None"

/-- The wording of the fault. -/
def message : Fault → String
  | connection m => "cannot connect to mongodb: " ++ m
  | command name code m => "command " ++ name ++ " failed (code " ++ codeText code ++ "): " ++ m
  | arbiterSkip => "no data to report on an arbiter"
  | malformedField path reason => "cannot handle field " ++ path ++ ": " ++ reason
  | viewNamespace ns =>
    "collection/namespace " ++ ns ++ " is a view and cannot be used for collstats/indexstats"
  | invalidArgument m => "invalid argument: " ++ m
  | timeout limit => "operation timed out after " ++ limit.text

end Fault

end MongoMetrics
