/-
Addresses: where the exporter listens, and where the database is.
-/
import MongoMetrics.Fault
import MongoMetrics.Text.Ascii

namespace MongoMetrics.Address

/-! ## Listening -/

/-- The address to bind; a colon and a number alone stand for all interfaces. -/
def bind (listen : String) : String :=
  match listen.toList with
  | ':' :: number => "0.0.0.0:" ++ String.ofList number
  | _ => listen

/-- A natural number below `bound` in decimal digits, perhaps with a plus sign before them. -/
def natural? (bound : Nat) (s : List Char) : Option Nat :=
  let digits := match s with
    | '+' :: rest => rest
    | _ => s
  let n := digits.foldl (fun n c => 10 * n + (c.toNat - '0'.toNat)) 0
  if !digits.isEmpty && digits.all Char.isDigit && n < bound then some n else none

/-- The host of an address and the number behind its last colon; nothing when there is no number
from 0 to 65535. -/
def hostAndNumber? (address : String) : Option (String × Nat) := do
  let (host, digits) ← Text.splitLast ':' address.toList
  let number ← natural? 65536 digits
  return (String.ofList host, number)

/-! ## The database -/

/-- The beginnings of connection strings. -/
def schemes : List String := ["mongodb://", "mongodb+srv://"]

/-- The hosts of a connection string: what stands between the credentials and the path or query. -/
def hosts (afterScheme : List Char) : List Char :=
  let authority := afterScheme.takeWhile fun c => c != '/' && c != '?'
  match Text.splitLast '@' authority with
  | some (_, hosts) => hosts
  | none => authority

/-- The name of a host, without the number behind it. -/
def hostName (host : List Char) : List Char := host.takeWhile (· != ':')

/-- A list of hosts with commas between them, where no name is missing. -/
def isHostList (hosts : List Char) : Bool := (hosts.splitOn ',').all fun h => !(hostName h).isEmpty

/-- A connection string names a scheme and at least one host. -/
def checkUri (uri : String) : Except Fault Unit :=
  match schemes.findSome? fun s => Text.afterPrefix? s.toList uri.toList with
  | none => .error (.connection "connection string contains no scheme")
  | some rest =>
    if isHostList (hosts rest) then .ok ()
    else .error (.connection "connection string names no host")

end MongoMetrics.Address
