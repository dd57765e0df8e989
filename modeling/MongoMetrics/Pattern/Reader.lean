/-
Reading patterns. The grammar: alternatives separated by bars; sequences of characters, escapes,
classes in brackets, anchors and groups, each with repetitions behind it. Flags set in a group hold
until the group ends, across its bars. Classes combine with `&&`, `--` and `~~`, all of one rank
and grouped to the left. Without the Unicode flag a pattern must not match a part of a character,
so there all negations and the dot are refused.
-/
import MongoMetrics.Pattern.Basic
import MongoMetrics.Text.Ascii

namespace MongoMetrics.Pattern

structure Flags where
  ignoreCase : Bool
  multiLine : Bool
  dotAll : Bool
  anyLineEnd : Bool
  unicode : Bool
  /-- Blanks and comments between the parts of a pattern are skipped. -/
  spaced : Bool
  deriving DecidableEq, Repr

namespace Flags

/-- The flags of a pattern that is matched without regard to case. -/
def caseless : Flags := ⟨true, false, false, false, true, false⟩

/-- Sets the flag of a letter; which of two matches a repetition prefers is no matter here. -/
def set? (f : Flags) (letter : Char) (on : Bool) : Option Flags :=
  match letter with
  | 'i' => some { f with ignoreCase := on }
  | 'm' => some { f with multiLine := on }
  | 's' => some { f with dotAll := on }
  | 'R' => some { f with anyLineEnd := on }
  | 'u' => some { f with unicode := on }
  | 'x' => some { f with spaced := on }
  | 'U' => some f
  | _ => none

end Flags

/-! ## Blanks -/

/-- The text from the first character on that is neither blank nor in a comment. -/
def skipBlanks : (comment : Bool) → List Char → List Char
  | _, [] => []
  | true, c :: rest => skipBlanks (c != '\n') rest
  | false, c :: rest =>
    if Unicode.isBlank c then skipBlanks false rest
    else if c == '#' then skipBlanks true rest
    else c :: rest

def Flags.skip (f : Flags) (s : List Char) : List Char := if f.spaced then skipBlanks false s else s

/-! ## Escapes -/

/-- A part of a pattern that has no parts of its own. -/
inductive Atom where
  /-- `raw` marks a character given by two hexadecimal digits. -/
  | literal (c : Char) (raw : Bool)
  | set (s : CharSet)
  | look (l : Look)

/-- The characters with a meaning of their own. -/
def isMeta (c : Char) : Bool := "\\.+*?()|[]\x7b\x7d^$#&-~".toList.contains c

/-- The characters that stand for themselves behind a backslash: all of ASCII but letters, digits
and the two angles. -/
def isEscapable (c : Char) : Bool :=
  c.toNat < 0x80 && !c.isAlphanum && c != '<' && c != '>'

def isHex (c : Char) : Bool :=
  c.isDigit || ('a' ≤ c && c ≤ 'f') || ('A' ≤ c && c ≤ 'F')

/-- The character of a code point. -/
def charOf? (digits : List Char) : Option Char :=
  let n := Unicode.hexNat digits
  if n.isValidChar then some (Char.ofNat n) else none

/-- Exactly `n` hexadecimal digits. -/
def hexDigits (f : Flags) : (n : Nat) → List Char → Option (List Char × List Char)
  | 0, s => some ([], s)
  | _ + 1, [] => none
  | n + 1, c :: s =>
    if isHex c then (hexDigits f n (f.skip s)).map fun (ds, rest) => (c :: ds, rest) else none

/-- The characters up to a closing brace; `fuel` is at least their number. -/
def untilBrace (f : Flags) : (fuel : Nat) → List Char → Option (List Char × List Char)
  | 0, _ => none
  | _ + 1, [] => none
  | fuel + 1, c :: s =>
    if c == '\x7d' then some ([], s)
    else (untilBrace f fuel (f.skip s)).map fun (cs, rest) => (c :: cs, rest)

/-- A character by its number, behind `x`, `u` or `U`. -/
def hexEscape (f : Flags) (width : Nat) (s : List Char) : Option (Atom × List Char) :=
  match f.skip s with
  | '\x7b' :: rest =>
    match untilBrace f (rest.length + 1) (f.skip rest) with
    | some (ds, after) =>
      if ds.isEmpty || !ds.all isHex then none
      else (charOf? ds).map fun c => (.literal c false, f.skip after)
    | none => none
  | rest =>
    match hexDigits f width rest with
    | some (ds, after) => (charOf? ds).map fun c => (.literal c (width == 2), after)
    | none => none

/-- Closes a set under case as the flags ask. -/
def fold (f : Flags) (s : CharSet) : CharSet :=
  if f.ignoreCase then (if f.unicode then s.anyCase else s.anyAsciiCase) else s

/-- The set or its complement; without the Unicode flag there is no complement. -/
def negate? (f : Flags) (negated : Bool) (s : CharSet) : Option CharSet :=
  if negated then (if f.unicode then some s.complement else none) else some s

/-- The class that the text between the braces names. -/
def propertySet? (name : List Char) : Option (Bool × CharSet) :=
  match Text.splitFirst '!' name with
  | some (property, '=' :: value) => (CharSet.valued? property value).map fun s => (true, s)
  | _ =>
    match (Text.splitFirst ':' name).or (Text.splitFirst '=' name) with
    | some (property, value) => (CharSet.valued? property value).map fun s => (false, s)
    | none => (CharSet.named? name).map fun s => (false, s)

/-- A class of Unicode, behind `p` or `P`. -/
def propertyEscape (f : Flags) (negated : Bool) (s : List Char) : Option (Atom × List Char) := do
  let (name, rest) ← match f.skip s with
    | '\x7b' :: rest => untilBrace f (rest.length + 1) (f.skip rest)
    | c :: rest => if c == '\\' then none else some ([c], rest)
    | [] => none
  let (inverse, set) ← propertySet? name
  if f.unicode then
    let set ← negate? f (negated != inverse) (fold f set)
    return (.set set, rest)
  else none

def classEscape (f : Flags) (negated : Bool) (set : CharSet) (rest : List Char) :
    Option (Atom × List Char) :=
  (negate? f negated set).map fun s => (.set s, rest)

/-- The names of the one-sided word boundaries. -/
def boundaryNamed? (f : Flags) (name : String) : Option Look :=
  match name with
  | "start" => some (.wordStart f.unicode)
  | "end" => some (.wordEnd f.unicode)
  | "start-half" => some (.noWordBefore f.unicode)
  | "end-half" => some (.noWordAfter f.unicode)
  | _ => none

/-- A word boundary, with its name in braces when a name follows the brace. -/
def boundaryEscape (f : Flags) (s : List Char) : Option (Atom × List Char) :=
  let plain : Atom := .look (.wordBoundary f.unicode)
  match s with
  | '\x7b' :: rest =>
    match f.skip rest with
    | [] => none
    | c :: more =>
      if c.isAlpha || c == '-' then
        match untilBrace f (more.length + 2) (c :: more) with
        | some (name, after) =>
          (boundaryNamed? f (String.ofList name)).map fun l => (.look l, after)
        | none => none
      else some (plain, s)
  | _ => some (plain, s)

/-- What follows a backslash. -/
def escape (f : Flags) : List Char → Option (Atom × List Char)
  | [] => none
  | c :: rest =>
    if isEscapable c then some (.literal c false, rest)
    else match c with
    | 'x' => hexEscape f 2 rest
    | 'u' => hexEscape f 4 rest
    | 'U' => hexEscape f 8 rest
    | 'p' => propertyEscape f false rest
    | 'P' => propertyEscape f true rest
    | 'd' => classEscape f false (CharSet.digits f.unicode) rest
    | 'D' => classEscape f true (CharSet.digits f.unicode) rest
    | 's' => classEscape f false (CharSet.blanks f.unicode) rest
    | 'S' => classEscape f true (CharSet.blanks f.unicode) rest
    | 'w' => classEscape f false (CharSet.wordChars f.unicode) rest
    | 'W' => classEscape f true (CharSet.wordChars f.unicode) rest
    | 'a' => some (.literal '\x07' false, rest)
    | 'f' => some (.literal '\x0C' false, rest)
    | 't' => some (.literal '\t' false, rest)
    | 'n' => some (.literal '\n' false, rest)
    | 'r' => some (.literal '\r' false, rest)
    | 'v' => some (.literal '\x0B' false, rest)
    | 'A' => some (.look .textStart, rest)
    | 'z' => some (.look .textEnd, rest)
    | 'b' => boundaryEscape f rest
    | 'B' => some (.look (.noWordBoundary f.unicode), rest)
    | '<' => some (.look (.wordStart f.unicode), rest)
    | '>' => some (.look (.wordEnd f.unicode), rest)
    | _ => none

/-! ## Classes in brackets -/

/-- One end of a range, or a class of its own. -/
def classAtom (f : Flags) : List Char → Option (Atom × List Char)
  | [] => none
  | '\\' :: rest => escape f rest
  | c :: rest => some (.literal c false, rest)

/-- A character may stand in a class without the Unicode flag only when it is ASCII. -/
def allowedInClass (f : Flags) (c : Char) : Bool := f.unicode || c.toNat < 0x80

def Atom.literal? (f : Flags) : Atom → Option Char
  | .literal c _ => if allowedInClass f c then some c else none
  | _ => none

def Atom.set? (f : Flags) : Atom → Option CharSet
  | .literal c _ => if allowedInClass f c then some (fold f (.single c)) else none
  | .set s => some s
  | .look _ => none

/-- A class by name between `[:` and `:]`, behind its opening bracket. -/
def asciiClass? (f : Flags) (s : List Char) : Option (Option CharSet × List Char) :=
  match s with
  | ':' :: rest =>
    let (negated, rest) := match rest with
      | '^' :: more => (true, more)
      | _ => (false, rest)
    match Text.splitFirst ':' rest with
    | some (name, ']' :: after) =>
      (CharSet.ascii? (String.ofList name)).map fun s => (negate? f negated (fold f s), after)
    | _ => none
  | _ => none

inductive SetOp where
  | inter
  | diff
  | symmDiff
  deriving DecidableEq, Repr

def SetOp.apply : SetOp → CharSet → CharSet → CharSet
  | inter => CharSet.inter
  | diff => CharSet.diff
  | symmDiff => CharSet.symmDiff

/-- The operators of a class seen so far, applied to its last operand. -/
def operate (left : Option (SetOp × CharSet)) (right : CharSet) : CharSet :=
  match left with
  | some (op, a) => op.apply a right
  | none => right

/-- The operator at the beginning of the text. -/
def setOp? : List Char → Option (SetOp × List Char)
  | '&' :: '&' :: rest => some (.inter, rest)
  | '-' :: '-' :: rest => some (.diff, rest)
  | '~' :: '~' :: rest => some (.symmDiff, rest)
  | _ => none

/-- One item of a class: a range, a character or a class of its own. -/
def classItem (f : Flags) (s : List Char) : Option (CharSet × List Char) := do
  let (first, afterFirst) ← classAtom f s
  match f.skip afterFirst with
  | [] => none
  | '-' :: more =>
    match f.skip more with
    | ']' :: _ | '-' :: _ => return (← first.set? f, '-' :: more)
    | [] => none
    | afterDash =>
      let (second, rest) ← classAtom f afterDash
      let lo ← first.literal? f
      let hi ← second.literal? f
      if lo ≤ hi then return (fold f (.range lo hi), rest) else none
  | rest => return (← first.set? f, rest)

/-- The hyphens that begin a class stand for themselves. -/
def leadingHyphens (f : Flags) : (fuel : Nat) → List Char → Option CharSet → Option CharSet × List Char
  | 0, s, acc => (acc, s)
  | fuel + 1, s, acc =>
    match s with
    | '-' :: rest => leadingHyphens f fuel (f.skip rest) (some (.single '-'))
    | _ => (acc, s)

/-- How a class begins: negation, then hyphens or a closing bracket that stand for themselves. -/
def classOpening (f : Flags) (s : List Char) : Bool × CharSet × List Char :=
  let s := f.skip s
  let (negated, s) := match s with
    | '^' :: rest => (true, f.skip rest)
    | _ => (false, s)
  let (hyphens, s) := leadingHyphens f (s.length + 1) s none
  match hyphens, s with
  | some set, s => (negated, set, s)
  | none, ']' :: rest => (negated, .single ']', f.skip rest)
  | none, s => (negated, .none, s)

/-- The items of a class up to its closing bracket. `fuel` is at least the length of the text. -/
def classItems (f : Flags) : (fuel : Nat) → List Char → (acc : CharSet) →
    (left : Option (SetOp × CharSet)) → Option (CharSet × List Char)
  | 0, _, _, _ => none
  | fuel + 1, s, acc, left =>
    match f.skip s with
    | [] => none
    | ']' :: rest => some (operate left acc, rest)
    | '[' :: rest =>
      match asciiClass? f rest with
      | some (some set, after) => classItems f fuel after (acc.union set) left
      | some (none, _) => none
      | none =>
        let (negated, start, inside) := classOpening f rest
        match classItems f fuel inside start none with
        | some (set, after) =>
          match negate? f negated set with
          | some set => classItems f fuel after (acc.union set) left
          | none => none
        | none => none
    | s =>
      match setOp? s with
      | some (op, rest) => classItems f fuel rest .none (some (op, operate left acc))
      | none =>
        match classItem f s with
        | some (set, rest) => classItems f fuel rest (acc.union set) left
        | none => none

/-- A class, behind its opening bracket. -/
def bracketed (f : Flags) (s : List Char) : Option (CharSet × List Char) :=
  let (negated, start, inside) := classOpening f s
  match classItems f (inside.length + 1) inside start none with
  | some (set, rest) => (negate? f negated set).map fun set => (set, rest)
  | none => none

/-! ## Repetitions -/

/-- The decimal digits at the beginning of the text. -/
def countDigits (f : Flags) : (fuel : Nat) → List Char → List Char × List Char
  | 0, s => ([], s)
  | fuel + 1, s =>
    match s with
    | c :: rest =>
      if c.isDigit then
        let (ds, after) := countDigits f fuel (f.skip rest)
        (c :: ds, after)
      else ([], s)
    | [] => ([], [])

/-- A count below 2^32 with blanks around it, and the rest. -/
def count (f : Flags) (s : List Char) : Option Nat × List Char :=
  let (ds, rest) := countDigits f (s.length + 1) (s.dropWhile Unicode.isBlank)
  let n := ds.foldl (fun n c => 10 * n + (c.toNat - '0'.toNat)) 0
  (if ds.isEmpty || Nat.pow 2 32 ≤ n then none else some n, f.skip (rest.dropWhile Unicode.isBlank))

/-- The bounds of a repetition, behind its opening brace. -/
def bounds (f : Flags) (s : List Char) : Option (Nat × Option Nat × List Char) := do
  let (first, rest) := count f (f.skip s)
  let least ← first
  match rest with
  | '\x7d' :: rest => return (least, some least, rest)
  | ',' :: rest =>
    match f.skip rest with
    | '\x7d' :: rest => return (least, none, rest)
    | rest =>
      let (second, rest) := count f rest
      let most ← second
      match rest with
      | '\x7d' :: rest => if least ≤ most then return (least, some most, rest) else none
      | _ => none
  | _ => none

/-- A question mark behind a repetition changes only which match is preferred. -/
def dropLazy : List Char → List Char
  | '?' :: rest => rest
  | s => s

/-! ## Groups -/

/-- How a group begins. -/
inductive Opening where
  /-- A group with the flags that hold in it. -/
  | group (f : Flags) (names : List String) (rest : List Char)
  /-- Flags for the rest of the group around. -/
  | flags (f : Flags) (rest : List Char)

/-- Flag letters up to a colon or a closing parenthesis, which is the character returned. -/
def flagLetters : (s seen : List Char) → (on : Bool) → Flags → Option (Flags × Char × List Char)
  | [], _, _, _ => none
  | c :: rest, seen, on, f =>
    if c == ':' || c == ')' then
      match seen with
      | '-' :: _ => none
      | [] => if c == ')' then none else some (f, c, rest)
      | _ => some (f, c, rest)
    else if seen.contains c then none
    else if c == '-' then flagLetters rest (c :: seen) false f
    else match f.set? c on with
      | some f => flagLetters rest (c :: seen) on f
      | none => none

def isNameStart (c : Char) : Bool := c == '_' || Unicode.alphabeticRanges.has c

def isNameRest (c : Char) : Bool :=
  isNameStart c || c == '.' || c == '[' || c == ']' ||
    ["nd", "nl", "no"].any fun n => ((Unicode.category? n).getD fun _ => false) c

def isGroupName : List Char → Bool
  | [] => false
  | c :: rest => isNameStart c && rest.all isNameRest

/-- The beginning of a group, behind its opening parenthesis. -/
def opening (f : Flags) (names : List String) (s : List Char) : Option Opening :=
  let nameThen (s : List Char) : Option Opening :=
    match Text.splitFirst '>' s with
    | some (name, rest) =>
      if isGroupName name && !names.contains (String.ofList name) then
        some (.group f (String.ofList name :: names) rest)
      else none
    | none => none
  match f.skip s with
  | '?' :: '=' :: _ | '?' :: '!' :: _ | '?' :: '<' :: '=' :: _ | '?' :: '<' :: '!' :: _ => none
  | '?' :: 'P' :: '<' :: rest => nameThen rest
  | '?' :: '<' :: rest => nameThen rest
  | '?' :: rest =>
    match flagLetters rest [] true f with
    | some (g, ':', rest) => some (.group g names rest)
    | some (g, _, rest) => some (.flags g rest)
    | none => none
  | rest => some (.group f names rest)

/-! ## Expressions -/

/-- The expression of an atom. A character beyond ASCII that is given by two digits needs the
Unicode flag, because without it the digits mean a byte. -/
def Atom.expr? (f : Flags) : Atom → Option Expr
  | .literal c raw =>
    if raw && !f.unicode && 0x80 ≤ c.toNat then none else some (.char (fold f (.single c)))
  | .set s => some (.char s)
  | .look l => some (.look l)

def dot (f : Flags) : Option Expr :=
  if !f.unicode then none
  else if f.dotAll then some (.char CharSet.none.complement)
  else if f.anyLineEnd then
    some (.char ((CharSet.single '\n').union (.single '\r')).complement)
  else some (.char (CharSet.single '\n').complement)

def lineStart (f : Flags) : Look :=
  if f.multiLine then (if f.anyLineEnd then .anyLineStart else .lineStart) else .textStart

def lineEnd (f : Flags) : Look :=
  if f.multiLine then (if f.anyLineEnd then .anyLineEnd else .lineEnd) else .textEnd

/-- A single character, escape, class or anchor. -/
def atom (f : Flags) : List Char → Option (Expr × List Char)
  | [] => none
  | '\\' :: rest =>
    match escape f rest with
    | some (a, rest) => (a.expr? f).map fun e => (e, rest)
    | none => none
  | '[' :: rest => (bracketed f rest).map fun (set, rest) => (.char set, rest)
  | '.' :: rest => (dot f).map fun e => (e, rest)
  | '^' :: rest => some (.look (lineStart f), rest)
  | '$' :: rest => some (.look (lineEnd f), rest)
  | c :: rest => some (.char (fold f (.single c)), rest)

/-- The sequence of parts that were collected in reverse; a part is missing where flags were set. -/
def sequence (parts : List (Option Expr)) : Expr :=
  parts.foldl (fun acc part =>
    match part, acc with
    | none, acc => acc
    | some e, .empty => e
    | some e, acc => .seq e acc) .empty

/-- The alternatives before the last bar, and the last one. -/
def alternatives (before : Option Expr) (parts : List (Option Expr)) : Expr :=
  match before with
  | some e => .alt e (sequence parts)
  | none => sequence parts

/-- Reads up to the end of the text or to a closing parenthesis. `fuel` is at least the length of
the text, `before` holds the alternatives that are complete and `parts` the current one, last part
first. -/
def readUntil : (fuel : Nat) → Flags → (names : List String) → List Char →
    (before : Option Expr) → (parts : List (Option Expr)) →
    Option (Expr × List String × List Char)
  | 0, _, _, _, _, _ => none
  | fuel + 1, f, names, s, before, parts =>
    let again (least : Nat) (most : Option Nat) (rest : List Char) :=
      match parts with
      | some e :: others =>
        readUntil fuel f names (dropLazy rest) before (some (.repeated least most e) :: others)
      | _ => none
    match f.skip s with
    | [] => some (alternatives before parts, names, [])
    | ')' :: rest => some (alternatives before parts, names, ')' :: rest)
    | '|' :: rest => readUntil fuel f names rest (some (alternatives before parts)) []
    | '?' :: rest => again 0 (some 1) rest
    | '*' :: rest => again 0 none rest
    | '+' :: rest => again 1 none rest
    | '\x7b' :: rest =>
      match bounds f rest with
      | some (least, most, rest) => again least most (f.skip rest)
      | none => none
    | '(' :: rest =>
      match opening f names rest with
      | some (.flags g rest) => readUntil fuel g names rest before (none :: parts)
      | some (.group g names rest) =>
        match readUntil fuel g names rest none [] with
        | some (e, names, ')' :: rest) => readUntil fuel f names rest before (some e :: parts)
        | _ => none
      | none => none
    | s =>
      match atom f s with
      | some (e, rest) => readUntil fuel f names rest before (some e :: parts)
      | none => none

/-- The expression that a text denotes when case is ignored; nothing when it breaks the grammar. -/
def read? (s : String) : Option Expr :=
  match readUntil (s.toList.length + 1) Flags.caseless [] s.toList none [] with
  | some (e, _, []) => some e
  | _ => none

/-! ## Literal text -/

/-- The pattern that matches a text and nothing else: characters with a meaning get a backslash. -/
def escapeText (s : String) : String :=
  String.ofList (s.toList.flatMap fun c => if isMeta c then ['\\', c] else [c])

end MongoMetrics.Pattern
