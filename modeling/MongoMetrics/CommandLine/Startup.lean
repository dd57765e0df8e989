/-
From arguments to a running exporter: the arguments are read, the log level is checked, the settings
are made and the listen address is taken apart, in this order, and the first of these that fails
decides how the program ends.
-/
import MongoMetrics.CommandLine.Arguments
import MongoMetrics.Service.Web
import MongoMetrics.Text.Quoted
import MongoMetrics.Text.Trim

namespace MongoMetrics.CommandLine

/-! ## Settings -/

/-- Items without blanks around them; empty ones are dropped. -/
def tidy (values : List String) : List String :=
  (values.map Text.trim).filter fun v => !v.isEmpty

/-- A path for metrics begins with a slash and leaves the health path free. -/
def isMetricsPath (path : String) : Bool := path.toList.head? == some '/' && path != Web.healthPath

/-- The settings that the arguments ask for. -/
def Arguments.settings (a : Arguments) : Except Fault Settings :=
  if !isMetricsPath a.telemetryPath then
    .error (.invalidArgument ("invalid telemetry path " ++ Text.quoted a.telemetryPath))
  else if a.timeoutSeconds == 0 then
    .error (.invalidArgument "--mongodb.timeout must be at least one second")
  else .ok {
    uri := a.uri
    metricsPath := a.telemetryPath
    naming := if a.compatibleMode then .legacy else .full
    shared := a.globalConnectionPool
    collectionNamespaces := tidy a.collectionNamespaces
    indexNamespaces := tidy a.indexNamespaces
    databaseStats := a.databaseStats
    databaseNamespaces := tidy a.databases
    sharding := a.sharded
    diagnosticData := a.diagnosticData && !a.noDiagnosticData
    replicaStatus := a.replicaSetStatus && !a.noReplicaSetStatus
    discovering := a.discovering
    collectionLimit := a.collectionLimit
    limit := Duration.ofSeconds a.timeoutSeconds }

/-! ## Log levels -/

def logLevels : List String := ["off", "error", "warn", "info", "debug", "trace"]

/-- A log level is empty, the name of a level in any case, or its number. -/
def isLogLevel (s : String) : Bool :=
  s.isEmpty || logLevels.any (Text.equalsIgnoringCase s) ||
    (Address.natural? logLevels.length s.toList).isSome

/-! ## Starting -/

/-- How the program begins, or why it ends before it serves. -/
inductive Startup where
  | help
  | usage (fault : UsageFault)
  | badLogLevel
  | badSettings (fault : Fault)
  | badAddress (address : String)
  | ready (settings : Settings) (address : String)
  deriving DecidableEq, Repr

namespace Startup

def of (args : List String) (environmentUri : Option String) : Startup :=
  match Arguments.read args environmentUri with
  | .error .displayHelp => help
  | .error fault => usage fault
  | .ok a =>
    if !isLogLevel a.logLevel then badLogLevel
    else match a.settings with
    | .error fault => badSettings fault
    | .ok settings =>
      let address := Address.bind a.listenAddress
      match Address.hostAndNumber? address with
      | none => badAddress address
      | some _ => ready settings address

def exitCode : Startup → Nat
  | help => 0
  | usage _ => 2
  | badLogLevel | badSettings _ | badAddress _ => 1
  | ready .. => 0

/-- The line that tells of an argument with an impossible value. -/
def argumentLine? : Startup → Option String
  | badSettings (.invalidArgument message) =>
    some ("Error: InvalidArgument(" ++ Text.quoted message ++ ")")
  | _ => none

end Startup

end MongoMetrics.CommandLine
