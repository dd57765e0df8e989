/-
The command line program.
-/
import MongoMetrics.CommandLine.Startup

namespace MongoMetrics.CommandLine

def usageText : String :=
  "Prometheus exporter for MongoDB\n\nOptions:\n" ++
    String.join (options.map fun (name, _) => "  --" ++ name ++ "\n") ++ "  -h, --help"

/-- What the program says on standard error before it ends. -/
def complaint : Startup → String
  | .help => ""
  | .usage _ => "error: the arguments cannot be used\n\n" ++ usageText
  | .badLogLevel => "Error: invalid log level"
  | .badSettings fault => (Startup.argumentLine? (.badSettings fault)).getD ("Error: " ++ fault.message)
  | .badAddress address => "Error: invalid listen address " ++ Text.quoted address
  | .ready _ address => "Error: no network to listen on " ++ address

end MongoMetrics.CommandLine

open MongoMetrics.CommandLine in
def main (args : List String) : IO UInt32 := do
  let startup := Startup.of args (← IO.getEnv "MONGODB_URI")
  match startup with
  | .help => IO.println usageText
  | other => IO.eprintln (complaint other)
  return UInt32.ofNat startup.exitCode
