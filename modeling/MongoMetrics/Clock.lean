/-
Instants and durations, both counted in nanoseconds, and the text of a duration. A duration is
written in the largest of the units s, ms, µs and ns in which its whole part is not zero, with as
many decimal places as it needs.
-/
import MongoMetrics.Number.Positional

namespace MongoMetrics

/-- A span of time in nanoseconds. -/
abbrev Duration := Nat

/-- Nanoseconds since the clock started. -/
abbrev Instant := Nat

namespace Duration

def ofMillis (n : Nat) : Duration := n * 1000000

def ofSeconds (n : Nat) : Duration := n * 1000000000

/-- The duration in milliseconds. -/
def toMillis (d : Duration) : Float := Float.ofNat d / 1000000

/-- The duration in seconds. -/
def toSeconds (d : Duration) : Float := Float.ofNat d / 1000000000

/-- The duration in a unit of `10 ^ places` nanoseconds. -/
def inUnit (d : Duration) (places : Nat) : String := Number.positional ⟨d, -(places : Int)⟩

def text (d : Duration) : String :=
  if 1000000000 ≤ d then d.inUnit 9 ++ "s"
  else if 1000000 ≤ d then d.inUnit 6 ++ "ms"
  else if 1000 ≤ d then d.inUnit 3 ++ "µs"
  else d.inUnit 0 ++ "ns"

example : text (ofMillis 1500) = "1.5s" := by decide
example : text (ofMillis 50) = "50ms" := by decide
example : text 0 = "0ns" := by decide

end Duration

/-- Unix time in milliseconds as seconds. -/
def secondsOfMillis (millis : Int) : Float := Float.ofInt millis / 1000

/-- The Unix time in milliseconds that lies `minutes` before `millis`. -/
def minutesBefore (millis minutes : Int) : Int := millis - 60000 * minutes

end MongoMetrics
