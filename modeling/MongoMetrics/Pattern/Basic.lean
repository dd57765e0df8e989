/-
Patterns over characters and what they match. A pattern carries a set of positions of a text to the
positions where a match that began at one of them can end; it occurs in a text when some position
leads anywhere. Repetitions may be cut at one more than the length of the text: a longer run must
stand still somewhere, and then a shorter one ends at the same places.
-/
import MongoMetrics.Pattern.CharSet

namespace MongoMetrics.Pattern

/-- A condition on a position, which looks at the characters before and after it. -/
inductive Look where
  | textStart
  | textEnd
  | lineStart
  | lineEnd
  /-- Lines may end in a carriage return, a line feed or both. -/
  | anyLineStart
  | anyLineEnd
  | wordBoundary (unicode : Bool)
  | noWordBoundary (unicode : Bool)
  | wordStart (unicode : Bool)
  | wordEnd (unicode : Bool)
  | noWordBefore (unicode : Bool)
  | noWordAfter (unicode : Bool)
  deriving DecidableEq, Repr

inductive Expr where
  | empty
  | char (set : CharSet)
  | look (l : Look)
  | seq (first second : Expr)
  | alt (first second : Expr)
  /-- Between `least` and `most` copies; without `most`, any number from `least` on. -/
  | repeated (least : Nat) (most : Option Nat) (e : Expr)

/-! ## Looking around -/

namespace Look

def isWordAt (unicode : Bool) : Option Char → Bool
  | some c => (CharSet.wordChars unicode).contains c
  | none => false

/-- The condition between the characters `before` and `after`. -/
def holds (before after : Option Char) : Look → Bool
  | textStart => before.isNone
  | textEnd => after.isNone
  | lineStart => before.isNone || before == some '\n'
  | lineEnd => after.isNone || after == some '\n'
  | anyLineStart =>
    before.isNone || before == some '\n' || (before == some '\r' && after != some '\n')
  | anyLineEnd => after.isNone || after == some '\r' || (after == some '\n' && before != some '\r')
  | wordBoundary u => isWordAt u before != isWordAt u after
  | noWordBoundary u => isWordAt u before == isWordAt u after
  | wordStart u => !isWordAt u before && isWordAt u after
  | wordEnd u => isWordAt u before && !isWordAt u after
  | noWordBefore u => !isWordAt u before
  | noWordAfter u => !isWordAt u after

end Look

/-! ## Positions -/

/-- Positions of a text, from zero to its length. -/
abbrev Positions := List Nat

/-- Both sets, each position once when it was so before. -/
def merge (a b : Positions) : Positions := a ++ b.filter fun p => !a.contains p

/-- The function applied `n` times. -/
def iterate {α : Type} (f : α → α) : (n : Nat) → α → α
  | 0, a => a
  | n + 1, a => iterate f n (f a)

/-- All positions that `f` reaches within `n` steps. -/
def spread (f : Positions → Positions) : (n : Nat) → Positions → Positions
  | 0, s => s
  | n + 1, s => spread f n (merge s (f s))

/-- Where matches that begin at the positions `s` can end. -/
def ends (text : Array Char) : Expr → Positions → Positions
  | .empty, s => s
  | .char set, s => s.filterMap fun p =>
    match text[p]? with
    | some c => if set.contains c then some (p + 1) else none
    | none => none
  | .look l, s => s.filter fun p => l.holds (if p = 0 then none else text[p - 1]?) text[p]?
  | .seq a b, s => ends text b (ends text a s)
  | .alt a b, s => merge (ends text a s) (ends text b s)
  | .repeated least most e, s =>
    let bound := text.size + 1
    let extra := match most with
      | some n => n - least
      | none => bound
    spread (ends text e) (min extra bound) (iterate (ends text e) (min least bound) s)

/-- The pattern matches somewhere in the text. -/
def occursIn (e : Expr) (s : String) : Bool :=
  let text := s.toList.toArray
  !(ends text e (List.range (text.size + 1))).isEmpty

/-! ## Size -/

/-- The number of copies of character sets when all repetitions are written out. -/
def copies : Expr → Nat
  | .char _ => 1
  | .seq a b | .alt a b => copies a + copies b
  | .repeated least most e => max 1 (max least (most.getD least)) * copies e
  | _ => 0

/-- The most memory that a pattern may take, in bytes. -/
def memoryLimit : Nat := 10 * Nat.pow 2 20

/-- The estimated memory of a pattern: a fixed number of bytes for each copy of a set. -/
def memory (e : Expr) : Nat := 48 * copies e

end MongoMetrics.Pattern
