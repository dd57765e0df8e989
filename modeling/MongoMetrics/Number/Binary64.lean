/-
The parts of a binary floating-point number of 64 bits: its sign and, for a finite one, the natural
numbers `m` and `q` with magnitude `m · 2 ^ q`. The smallest exponent is -1074; a number whose
leading mantissa bit is the hidden one has 53 bits.
-/
namespace MongoMetrics.Number

/-- What the bits of a floating-point number say. -/
inductive Parts where
  | notANumber
  | infinite (negative : Bool)
  /-- The magnitude is `mantissa · 2 ^ exponent`. -/
  | finite (negative : Bool) (mantissa : Nat) (exponent : Int)
  deriving DecidableEq, Repr

/-- The hidden leading bit of a normal mantissa. -/
def hiddenBit : Nat := Nat.pow 2 52

def leastExponent : Int := -1074

def Parts.ofBits (bits : UInt64) : Parts :=
  let negative := bits.toNat / Nat.pow 2 63 == 1
  let biased : Nat := bits.toNat / hiddenBit % 2048
  let fraction : Nat := bits.toNat % hiddenBit
  if biased == 2047 then
    if fraction == 0 then .infinite negative else .notANumber
  else if biased == 0 then .finite negative fraction leastExponent
  else .finite negative (hiddenBit + fraction) (leastExponent + biased - 1)

def Parts.of (x : Float) : Parts := .ofBits x.toBits

/-- `m · 2 ^ q` as a quotient of natural numbers. -/
def quotient (m : Nat) (q : Int) : Nat × Nat := (m * Nat.pow 2 q.toNat, Nat.pow 2 (-q).toNat)

/-- The magnitude without its fraction, when there is no fraction to lose. -/
def whole? (m : Nat) (q : Int) : Option Nat :=
  let (num, den) := quotient m q
  if num % den == 0 then some (num / den) else none

/-- The integer next to the number on the side of zero; zero when the number is not finite. -/
def truncate (x : Float) : Int :=
  match Parts.of x with
  | .finite negative m q =>
    let (num, den) := quotient m q
    if negative then -(num / den : Nat) else (num / den : Nat)
  | _ => 0

/-! ## Checks -/

example : Parts.ofBits 0x3ff8000000000000 = .finite false (3 * 2 ^ 51) (-52) := by decide
example : Parts.ofBits 0x8000000000000001 = .finite true 1 (-1074) := by decide
example : Parts.ofBits 0xfff0000000000000 = .infinite true := by decide
example : truncate 7.9 = 7 := by decide +kernel

end MongoMetrics.Number
