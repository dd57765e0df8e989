/-
The text of a sample's value. Whole numbers below 10^15 are written exactly, all other finite ones
with the fewest digits that read back, both without an exponent; a negative zero keeps its sign.
-/
import MongoMetrics.Number.Positional

namespace MongoMetrics.Exposition

open MongoMetrics.Number

/-- Whole numbers from here on are written with the fewest digits. -/
def exactBelow : Nat := Nat.pow 10 15

/-- The magnitude `m · 2 ^ q`. -/
def magnitude (m : Nat) (q : Int) : String :=
  match whole? m q with
  | some n => if n < exactBelow then natText n else positional (shortest m q)
  | none => positional (shortest m q)

def amountOfParts : Parts → String
  | .notANumber => "NaN"
  | .infinite false => "+Inf"
  | .infinite true => "-Inf"
  | .finite negative m q => if negative then "-" ++ magnitude m q else magnitude m q

def amount (x : Float) : String := amountOfParts (Parts.of x)

/-! ## Checks -/

example : amountOfParts (.ofBits 0x8000000000000000) = "-0" := by decide +kernel
example : amountOfParts (.ofBits 0x4045000000000000) = "42" := by decide +kernel
example : amountOfParts (.ofBits 0x3fb999999999999a) = "0.1" := by decide +kernel
example : amountOfParts (.ofBits 0x43e0000000000000) = "9223372036854776000" := by decide +kernel

end MongoMetrics.Exposition
