/-
The arguments of the command line. Long options take their value after an equals sign or as the next
argument; a value that follows must not begin with a hyphen, unless it is a hyphen alone. Options
that hold a list may be repeated, all others not. The value of an option is read when the option
is complete: at once after an equals sign, else when the next option begins or the arguments end.
-/
import MongoMetrics.Service.Address
import MongoMetrics.Service.Settings
import MongoMetrics.Text.Ascii

namespace MongoMetrics.CommandLine

/-- Why the arguments cannot be used; asking for help ends reading them as well. -/
inductive UsageFault where
  | unknownArgument
  | invalidValue
  | valueValidation
  | tooManyValues
  | argumentConflict
  | displayHelp
  deriving DecidableEq, Repr

/-- What an option takes. -/
inductive OptionKind where
  | switch
  | text
  | list
  | truth
  | number
  deriving DecidableEq, Repr

/-- The long options by name. -/
def options : List (String × OptionKind) :=
  [("mongodb.uri", .text),
   ("web.listen-address", .text),
   ("web.telemetry-path", .text),
   ("compatible-mode", .switch),
   ("mongodb.global-conn-pool", .switch),
   ("mongodb.collstats-colls", .list),
   ("mongodb.indexstats-colls", .list),
   ("collector.dbstats", .switch),
   ("collector.dbstats-dbs", .list),
   ("collector.sharded", .switch),
   ("collector.diagnosticdata", .truth),
   ("no-diagnosticdata", .switch),
   ("collector.replicasetstatus", .truth),
   ("no-replicasetstatus", .switch),
   ("discovering-mode", .switch),
   ("collector.collstats-limit", .number),
   ("mongodb.timeout", .number),
   ("log.level", .text)]

/-- The values that options were given, latest option first. -/
abbrev Given := List (String × List String)

/-- An option whose value may still follow. -/
structure Pending where
  option : String
  kind : OptionKind
  value : Option String

/-- The arguments read so far. -/
structure Reading where
  given : Given
  pending : Option Pending

/-! ## Values -/

/-- The largest number of an option is below this bound. -/
def numberBound : Nat := Nat.pow 2 64

/-- The value of an option must fit its kind. -/
def checkValue (kind : OptionKind) (value : String) : Except UsageFault Unit :=
  match kind with
  | .truth => if value == "true" || value == "false" then .ok () else .error .invalidValue
  | .number =>
    match Address.natural? numberBound value.toList with
    | some _ => .ok ()
    | none => .error .valueValidation
  | _ => .ok ()

/-- The items of a list that is written with commas. -/
def items (value : String) : List String := (value.toList.splitOn ',').map String.ofList

/-- Gives an option its value. -/
def give (given : Given) (option : String) (kind : OptionKind) (value : String) :
    Except UsageFault Given :=
  match kind with
  | .list => .ok ((option, items value) :: given)
  | _ =>
    if (given.lookup option).isSome then .error .argumentConflict
    else (checkValue kind value).map fun _ => (option, [value]) :: given

/-- Completes the pending option. -/
def settle (r : Reading) : Except UsageFault Given :=
  match r.pending with
  | none => .ok r.given
  | some p =>
    match p.value with
    | none => .error .invalidValue
    | some value => give r.given p.option p.kind value

/-! ## Arguments -/

/-- Gives an option its value after completing the pending one. -/
def settleAndGive (r : Reading) (option : String) (kind : OptionKind) (value : String) :
    Except UsageFault Reading := do
  let given ← settle r
  let given ← give given option kind value
  return ⟨given, none⟩

/-- Help is shown after completing the pending option. -/
def help (r : Reading) : Except UsageFault Reading := do
  let _ ← settle r
  throw .displayHelp

/-- A long option, with the value after its equals sign. -/
def readLong (r : Reading) (name : String) (attached : Option String) : Except UsageFault Reading :=
  if name == "help" then
    if attached.isSome then .error .tooManyValues else help r
  else match options.lookup name with
  | none => .error .unknownArgument
  | some .switch =>
    if attached.isSome then .error .tooManyValues else settleAndGive r name .switch "true"
  | some kind =>
    match attached with
    | some value => settleAndGive r name kind value
    | none => do
      let given ← settle r
      return ⟨given, some ⟨name, kind, none⟩⟩

/-- A short option; only the one for help is known. -/
def readShort (r : Reading) : List Char → Except UsageFault Reading
  | 'h' :: _ => help r
  | _ => .error .unknownArgument

/-- An argument that is no option: the value that the pending option waits for. -/
def readValue (r : Reading) (value : String) : Except UsageFault Reading :=
  match r.pending with
  | some ⟨option, kind, none⟩ => .ok ⟨r.given, some ⟨option, kind, some value⟩⟩
  | _ => .error .unknownArgument

/-- The name and the value around the first equals sign. -/
def splitAttached (s : List Char) : String × Option String :=
  match Text.splitFirst '=' s with
  | some (name, value) => (String.ofList name, some (String.ofList value))
  | none => (String.ofList s, none)

def readArgument (r : Reading) (arg : String) : Except UsageFault Reading :=
  match arg.toList with
  | '-' :: '-' :: rest =>
    let (name, attached) := splitAttached rest
    readLong r name attached
  | '-' :: c :: rest => readShort r (c :: rest)
  | _ => readValue r arg

/-- Reads all arguments. After two hyphens alone nothing may follow. -/
def readAll (r : Reading) : List String → Except UsageFault Given
  | [] => settle r
  | "--" :: [] => settle r
  | "--" :: _ :: _ => .error .unknownArgument
  | arg :: rest =>
    match readArgument r arg with
    | .ok r => readAll r rest
    | .error fault => .error fault

/-! ## Settings -/

/-- The arguments with their meaning. -/
structure Arguments where
  uri : String
  listenAddress : String
  telemetryPath : String
  compatibleMode : Bool
  globalConnectionPool : Bool
  collectionNamespaces : List String
  indexNamespaces : List String
  databaseStats : Bool
  databases : List String
  sharded : Bool
  diagnosticData : Bool
  noDiagnosticData : Bool
  replicaSetStatus : Bool
  noReplicaSetStatus : Bool
  discovering : Bool
  collectionLimit : Nat
  timeoutSeconds : Nat
  logLevel : String
  deriving DecidableEq, Repr

namespace Given

def text (g : Given) (option otherwise : String) : String :=
  match List.lookup option g with
  | some (value :: _) => value
  | _ => otherwise

def isOn (g : Given) (option : String) (otherwise : Bool) : Bool :=
  match List.lookup option g with
  | some (value :: _) => value == "true"
  | _ => otherwise

def number (g : Given) (option : String) (otherwise : Nat) : Nat :=
  match List.lookup option g with
  | some (value :: _) => (Address.natural? numberBound value.toList).getD otherwise
  | _ => otherwise

/-- All items of a list option, in the order given. -/
def list (g : Given) (option : String) : List String :=
  (g.reverse.filter fun p => p.1 == option).flatMap fun p => p.2

end Given

/-- The meaning of the given options; the environment may hold the connection string. -/
def Arguments.ofGiven (g : Given) (environmentUri : Option String) : Arguments where
  uri := Given.text g "mongodb.uri" (environmentUri.getD Settings.defaultUri)
  listenAddress := Given.text g "web.listen-address" ":9216"
  telemetryPath := Given.text g "web.telemetry-path" Settings.defaultMetricsPath
  compatibleMode := Given.isOn g "compatible-mode" false
  globalConnectionPool := Given.isOn g "mongodb.global-conn-pool" false
  collectionNamespaces := Given.list g "mongodb.collstats-colls"
  indexNamespaces := Given.list g "mongodb.indexstats-colls"
  databaseStats := Given.isOn g "collector.dbstats" false
  databases := Given.list g "collector.dbstats-dbs"
  sharded := Given.isOn g "collector.sharded" false
  diagnosticData := Given.isOn g "collector.diagnosticdata" true
  noDiagnosticData := Given.isOn g "no-diagnosticdata" false
  replicaSetStatus := Given.isOn g "collector.replicasetstatus" true
  noReplicaSetStatus := Given.isOn g "no-replicasetstatus" false
  discovering := Given.isOn g "discovering-mode" false
  collectionLimit := Given.number g "collector.collstats-limit" 0
  timeoutSeconds := Given.number g "mongodb.timeout" 10
  logLevel := Given.text g "log.level" "info"

def Arguments.read (args : List String) (environmentUri : Option String) :
    Except UsageFault Arguments :=
  (readAll ⟨[], none⟩ args).map fun g => .ofGiven g environmentUri

end MongoMetrics.CommandLine
