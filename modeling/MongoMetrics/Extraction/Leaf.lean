/-
What the leaves of a document say. Numbers, truth values, dates and timestamps convert to a
floating-point number; texts, nulls and identifiers say nothing; all other kinds are refused.
-/
import MongoMetrics.Document.Value
import MongoMetrics.Clock
import MongoMetrics.Extraction.MetricName
import MongoMetrics.Sample

namespace MongoMetrics.Extraction

/-- The nature of a converted leaf, which bears on the kind of its metric. -/
inductive Nature where
  | number
  | date
  | logicalClock
  deriving DecidableEq, Repr

/-- What one value says where a leaf is expected. -/
inductive Reading where
  | value (x : Float) (nature : Nature)
  | silent
  | unsupported (what : String)

def truthValue (b : Bool) : Float := if b then 1 else 0

def Reading.of : Value → Reading
  | .double x => .value x .number
  | .int32 n => .value (Float.ofInt n.toInt) .number
  | .int64 n => .value (Float.ofInt n.toInt) .number
  | .boolean b => .value (truthValue b) .number
  | .dateTime millis => .value (secondsOfMillis millis.toInt) .date
  | .timestamp seconds _ => .value (Float.ofNat seconds.toNat) .logicalClock
  | .string _ | .null | .objectId _ => .silent
  | .document _ | .array _ => .unsupported "nested value in scalar position"
  | .decimal128 _ => .unsupported "decimal128"
  | .binary .. => .unsupported "binary"
  | .regex .. => .unsupported "regular expression"
  | .javaScript _ | .scopedJavaScript .. => .unsupported "javascript"
  | .symbol _ => .unsupported "symbol"
  | .undefined => .unsupported "undefined"
  | .minKey | .maxKey => .unsupported "min/max key"
  | .dbPointer .. => .unsupported "db pointer"

/-! ## Kinds -/

/-- Sections whose numbers only grow. -/
def countingSections : List String := ["opcounters", "opcountersRepl", "asserts", "metrics.document"]

/-- The path ends in the section, as whole components. -/
def endsInSection (path name : String) : Bool :=
  path == name ||
    match Text.afterPrefix? name.toList.reverse path.toList.reverse with
    | some ('.' :: _) => true
    | _ => false

/-- The path without its last component, and the last component. -/
def parentAndKey (path : String) : String × String :=
  match Text.splitLast '.' path.toList with
  | some (parent, key) => (String.ofList parent, String.ofList key)
  | none => ("", path)

/-- The key ends in `total` in any case and has more before it. -/
def isTotal (key : String) : Bool :=
  match Text.afterPrefix? "latot".toList ((Text.lowerAscii key).toList.reverse) with
  | some rest => !rest.isEmpty
  | none => false

/-- Totals and the numbers of counting sections are counters, dates and other numbers gauges, and
logical clocks have no kind. -/
def kindOf (path : String) : Nature → Kind
  | .logicalClock => .untyped
  | .date => .gauge
  | .number =>
    let (parent, key) := parentAndKey path
    if isTotal key || countingSections.any (endsInSection parent) then .counter else .gauge

end MongoMetrics.Extraction
