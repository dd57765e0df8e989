/-
Which databases and collections a listing asks for. Selections are decided here by name, and they
have a form as a filter document that the server can evaluate. A database selection compares whole
names: excluded ones exactly, included ones up to ASCII case. A collection selection looks for any
of its patterns anywhere in the name, in any case, and may leave views out.
-/
import MongoMetrics.Document.Value
import MongoMetrics.Fault
import MongoMetrics.Pattern.Reader
import MongoMetrics.Text.Quoted

namespace MongoMetrics

/-- All databases but the excluded ones; when names are included, only those. -/
structure DatabaseSelection where
  excluded : List String
  included : List String
  deriving DecidableEq, Repr

namespace DatabaseSelection

def everything : DatabaseSelection := ⟨[], []⟩

def accepts (s : DatabaseSelection) (name : String) : Bool :=
  !s.excluded.contains name &&
    (s.included.isEmpty || s.included.any fun i => Text.equalsIgnoringCase i name)

/-- The condition that the name differs from `name`. -/
def differs (name : String) : Value :=
  .document [("name", .document [("$ne", .string name)])]

/-- The condition that the name equals `name` up to case. -/
def equals (name : String) : Value :=
  .document [("name", .regex ("^" ++ Pattern.escapeText name ++ "$") "i")]

/-- The selection as a filter document. -/
def filter (s : DatabaseSelection) : Document :=
  (if s.excluded.isEmpty then [] else [("$and", .array (s.excluded.map differs))]) ++
  (if s.included.isEmpty then [] else [("$or", .array (s.included.map equals))])

end DatabaseSelection

/-- A pattern with the expression it denotes. -/
structure NamePattern where
  text : String
  expr : Pattern.Expr

namespace NamePattern

/-- The fault of a pattern that breaks the grammar, with an account of the mistake where there is one. -/
def invalid (text : String) (account : Option String) : Fault :=
  .invalidArgument ("invalid collection pattern " ++ Text.quoted text ++ account.elim "" (": " ++ ·))

/-- The fault of a pattern that would take too much memory. -/
def tooLarge (text : String) : Fault :=
  .invalidArgument ("invalid collection pattern " ++ Text.quoted text ++
    ": Compiled regex exceeds size limit of " ++ Number.natText Pattern.memoryLimit ++ " bytes.")

/-- The pattern that a text denotes; `account` tells what is wrong with one that denotes none. -/
def readWith (account : Option String) (text : String) : Except Fault NamePattern :=
  match Pattern.read? text with
  | none => .error (invalid text account)
  | some e => if Pattern.memoryLimit < Pattern.memory e then .error (tooLarge text) else .ok ⟨text, e⟩

def read (text : String) : Except Fault NamePattern := readWith none text

def occursIn (p : NamePattern) (name : String) : Bool := Pattern.occursIn p.expr name

/-- The condition that the pattern occurs in the name, in any case. -/
def condition (p : NamePattern) : Value := .document [("name", .regex p.text "i")]

end NamePattern

/-- The collections whose name holds one of the patterns; without patterns, all of them. -/
structure CollectionSelection where
  patterns : List NamePattern
  physicalOnly : Bool

namespace CollectionSelection

def everything : CollectionSelection := ⟨[], false⟩

def physical : CollectionSelection := ⟨[], true⟩

/-- The selection by patterns; the first pattern that cannot be read fails it, and `explain` gives an
account of what is wrong with its text. -/
def ofPatternsWith (explain : String → Option String) (patterns : List String) :
    Except Fault CollectionSelection :=
  (patterns.mapM fun text => NamePattern.readWith (explain text) text).map fun ps => ⟨ps, false⟩

def ofPatterns (patterns : List String) : Except Fault CollectionSelection :=
  ofPatternsWith (fun _ => none) patterns

def accepts (s : CollectionSelection) (name : String) (isView : Bool) : Bool :=
  !(s.physicalOnly && isView) && (s.patterns.isEmpty || s.patterns.any fun p => p.occursIn name)

/-- The selection as a filter document. -/
def filter (s : CollectionSelection) : Document :=
  (if s.patterns.isEmpty then [] else [("$or", .array (s.patterns.map NamePattern.condition))]) ++
  (if s.physicalOnly then [("type", .string "collection")] else [])

end CollectionSelection

end MongoMetrics
