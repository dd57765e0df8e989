/-
Sets of characters as patterns use them: ranges, their Boolean combinations, closure under case,
and the named classes of ASCII and of Unicode.
-/
import MongoMetrics.Unicode.Category
import MongoMetrics.Unicode.Fold
import MongoMetrics.Unicode.Property
import MongoMetrics.Unicode.Script

namespace MongoMetrics.Pattern

/-- A set of characters, given by its membership test. -/
structure CharSet where
  contains : Char → Bool

namespace CharSet

def none : CharSet := ⟨fun _ => false⟩

def range (lo hi : Char) : CharSet := ⟨fun c => lo ≤ c && c ≤ hi⟩

def single (c : Char) : CharSet := ⟨fun d => d == c⟩

def union (a b : CharSet) : CharSet := ⟨fun c => a.contains c || b.contains c⟩

def inter (a b : CharSet) : CharSet := ⟨fun c => a.contains c && b.contains c⟩

def diff (a b : CharSet) : CharSet := ⟨fun c => a.contains c && !b.contains c⟩

def symmDiff (a b : CharSet) : CharSet := ⟨fun c => a.contains c != b.contains c⟩

def complement (a : CharSet) : CharSet := ⟨fun c => !a.contains c⟩

/-- The characters that equal a member up to case. -/
def anyCase (a : CharSet) : CharSet := ⟨fun c => (Unicode.caseVariants c).any a.contains⟩

/-- The characters that equal a member up to the case of the letters A to Z. -/
def anyAsciiCase (a : CharSet) : CharSet :=
  ⟨fun c => a.contains c || a.contains c.toLower || a.contains c.toUpper⟩

/-- Any of the ranges. -/
def ranges (rs : List (Char × Char)) : CharSet := ⟨fun c => rs.any fun (lo, hi) => lo ≤ c && c ≤ hi⟩

/-! ## Named classes -/

/-- The classes written between brackets and colons; all of them hold ASCII characters only. -/
def ascii? (name : String) : Option CharSet :=
  match name with
  | "alnum" => some (ranges [('0', '9'), ('A', 'Z'), ('a', 'z')])
  | "alpha" => some (ranges [('A', 'Z'), ('a', 'z')])
  | "ascii" => some (ranges [('\x00', '\x7F')])
  | "blank" => some (ranges [('\t', '\t'), (' ', ' ')])
  | "cntrl" => some (ranges [('\x00', '\x1F'), ('\x7F', '\x7F')])
  | "digit" => some (ranges [('0', '9')])
  | "graph" => some (ranges [('!', '~')])
  | "lower" => some (ranges [('a', 'z')])
  | "print" => some (ranges [(' ', '~')])
  | "punct" => some (ranges [('!', '/'), (':', '@'), ('[', '\x60'), ('\x7B', '~')])
  | "space" => some (ranges [('\t', '\r'), (' ', ' ')])
  | "upper" => some (ranges [('A', 'Z')])
  | "word" => some (ranges [('0', '9'), ('A', 'Z'), ('_', '_'), ('a', 'z')])
  | "xdigit" => some (ranges [('0', '9'), ('A', 'F'), ('a', 'f')])
  | _ => Option.none

def digits (unicode : Bool) : CharSet :=
  if unicode then ⟨Unicode.isDecimalDigit⟩ else ranges [('0', '9')]

def blanks (unicode : Bool) : CharSet :=
  if unicode then ⟨Unicode.isBlank⟩ else ranges [('\t', '\r'), (' ', ' ')]

def wordChars (unicode : Bool) : CharSet :=
  if unicode then ⟨Unicode.isWord⟩ else ⟨Unicode.isAsciiWord⟩

/-- A property name in lower case without blanks, hyphens, underscores and a leading `is`. -/
def propertyName (s : List Char) : String :=
  let kept := (s.filter fun c => c != ' ' && c != '_' && c != '-' && c.toNat < 0x80).map Char.toLower
  match kept with
  | 'i' :: 's' :: rest => if rest == ['c'] then "isc" else String.ofList rest
  | _ => String.ofList kept

/-- A class of Unicode by one name: a property, a category or a script. -/
def named? (s : List Char) : Option CharSet :=
  let name := propertyName s
  ((Unicode.property? name <|> Unicode.category? name <|> Unicode.script? name)).map CharSet.mk

/-- A class of Unicode by property and value. -/
def valued? (property value : List Char) : Option CharSet :=
  let name := propertyName value
  match propertyName property with
  | "gc" | "generalcategory" => (Unicode.category? name).map CharSet.mk
  | "sc" | "script" => (Unicode.script? name).map CharSet.mk
  | _ => Option.none

end CharSet

end MongoMetrics.Pattern
