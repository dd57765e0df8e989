/-
The fewest decimal digits that read back as a given floating-point number. The reals that round to
`m · 2 ^ q` form an interval, closed when `m` is even. On the grid of decimals with `n` digits the
only candidates are the two neighbours of the number; the first grid with a candidate inside the
interval wins, and of two candidates the nearer one. Seventeen digits always suffice.
-/
import MongoMetrics.Number.Binary64

namespace MongoMetrics.Number

/-- The decimal `digits · 10 ^ exponent`. -/
structure Decimal where
  digits : Nat
  exponent : Int
  deriving DecidableEq, Repr

/-- The interval of reals that round to `m · 2 ^ q`, over the common denominator `den`. -/
structure RoundingInterval where
  low : Nat
  value : Nat
  high : Nat
  den : Nat
  closed : Bool
  deriving Repr

/-- Half a step below and above the number. The step below a power of two is half as wide, except
at the least exponent. -/
def RoundingInterval.of (m : Nat) (q : Int) : RoundingInterval :=
  let below := if m == hiddenBit && leastExponent < q then 1 else 2
  let up := Nat.pow 2 (q - 2).toNat
  { low := (4 * m - below) * up, value := 4 * m * up, high := (4 * m + 2) * up
    den := Nat.pow 2 (2 - q).toNat, closed := m % 2 == 0 }

namespace RoundingInterval

/-- The same interval as multiples of `10 ^ p`. -/
def scale (r : RoundingInterval) (p : Int) : RoundingInterval :=
  let up := Nat.pow 10 (-p).toNat
  { low := r.low * up, value := r.value * up, high := r.high * up
    den := r.den * Nat.pow 10 p.toNat, closed := r.closed }

def contains (r : RoundingInterval) (c : Nat) : Bool :=
  if r.closed then r.low ≤ c * r.den && c * r.den ≤ r.high
  else r.low < c * r.den && c * r.den < r.high

/-- The grid point that stands for the value: the nearer of its two neighbours inside the interval,
the upper one of a tie. -/
def nearest? (r : RoundingInterval) : Option Nat :=
  let lower := r.value / r.den
  let upper := lower + 1
  match r.contains lower, r.contains upper with
  | true, true =>
    some (if r.value - lower * r.den < upper * r.den - r.value then lower else upper)
  | true, false => some lower
  | false, true => some upper
  | false, false => none

end RoundingInterval

/-- The number of decimal digits of `n`. -/
def digitCount (n : Nat) : Nat := (Nat.toDigits 10 n).length

/-- The least `k ≤ limit` with `den ≤ num · 10 ^ k`. -/
def leadingZeros (num den : Nat) : (limit : Nat) → Nat
  | 0 => 0
  | limit + 1 => if den ≤ num then 0 else leadingZeros (num * 10) den limit + 1

/-- The decimal exponent of the leading digit of `num / den`. -/
def leadingExponent (num den : Nat) : Int :=
  if den ≤ num then (digitCount (num / den) : Int) - 1 else -(leadingZeros num den 400 : Int)

/-- The decimal of the first grid with a candidate, counting digits up from `17 - left`. -/
def search (r : RoundingInterval) (top : Int) : (left : Nat) → Decimal
  | 0 => ⟨(r.scale (top - 16)).value / (r.scale (top - 16)).den, top - 16⟩
  | left + 1 =>
    let p := top - (16 - (left : Int))
    match (r.scale p).nearest? with
    | some c => ⟨c, p⟩
    | none => search r top left

/-- The shortest decimal of a positive number `m · 2 ^ q`. -/
def shortest (m : Nat) (q : Int) : Decimal :=
  let r := RoundingInterval.of m q
  search r (leadingExponent r.value r.den) 17

/-! ## Checks -/

example : shortest (3 * 2 ^ 51) (-52) = ⟨15, -1⟩ := by decide +kernel
example : shortest 1 (-1074) = ⟨5, -324⟩ := by decide +kernel

end MongoMetrics.Number
