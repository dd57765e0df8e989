/-
Sets of code points written as text. A table is a list of hexadecimal ranges such as `41-5A 5F`,
read once into pairs of bounds; a list of orbits such as `4B 6B 212A/53 73 17F` names the groups
of letters that differ in case only.
-/
namespace MongoMetrics.Unicode

/-- A set of code points as closed intervals. -/
abbrev Ranges := List (Nat × Nat)

namespace Ranges

def contains (r : Ranges) (n : Nat) : Bool := r.any fun (lo, hi) => lo ≤ n && n ≤ hi

def has (r : Ranges) (c : Char) : Bool := r.contains c.toNat

end Ranges

/-! ## Reading tables -/

/-- The value of a hexadecimal digit; other characters count zero. -/
def hexDigit (c : Char) : Nat :=
  if '0' ≤ c ∧ c ≤ '9' then c.toNat - '0'.toNat
  else if 'A' ≤ c ∧ c ≤ 'F' then c.toNat - 'A'.toNat + 10
  else if 'a' ≤ c ∧ c ≤ 'f' then c.toNat - 'a'.toNat + 10
  else 0

def hexNat (s : List Char) : Nat := s.foldl (fun n c => 16 * n + hexDigit c) 0

/-- The pieces of a text between the characters `sep`. -/
def pieces (sep : Char) (s : List Char) : List (List Char) := s.splitOn sep

/-- The interval written as `lo-hi`, or as one number. -/
def readRange (s : List Char) : Nat × Nat :=
  match pieces '-' s with
  | [lo, hi] => (hexNat lo, hexNat hi)
  | _ => (hexNat s, hexNat s)

def readRanges (s : String) : Ranges := (pieces ' ' s.toList).map readRange

def readOrbits (s : String) : List (List Nat) :=
  (pieces '/' s.toList).map fun orbit => (pieces ' ' orbit).map hexNat

/-! ## Checks -/

example : readRanges "41-5A 5F" = [(0x41, 0x5A), (0x5F, 0x5F)] := by decide
example : readOrbits "4B 6B 212A/53 73" = [[0x4B, 0x6B, 0x212A], [0x53, 0x73]] := by decide

end MongoMetrics.Unicode
