/-
How a server reads filter documents. A filter holds of a document when all its fields hold. A field
is a condition on the value of that name in the document, or one of the operators `$and` and `$or` with
the filters that it combines. Only conditions on texts are read here; all other filters, empty
combinations among them, are refused. How regular expressions match is the server's own and stands open.
-/
import MongoMetrics.Server.Selection

namespace MongoMetrics.Query

/-- Whether a regular expression with its options occurs in a text. -/
abbrev Matcher := (pattern options text : String) → Bool

/-- The condition on a text, which may be missing. -/
def meets (m : Matcher) (held : Option String) : Value → Option Bool
  | .string s => some (held == some s)
  | .regex pattern options => some (held.any (m pattern options))
  | .document [("$ne", .string s)] => some (held != some s)
  | _ => none

/-- What an operator makes of the verdicts of its filters, of which there must be one at least. -/
def combine (operator : String) (verdicts : List Bool) : Option Bool :=
  if verdicts.isEmpty then none
  else if operator == "$and" then some (verdicts.all id)
  else if operator == "$or" then some (verdicts.any id)
  else none

mutual

/-- The verdict of a filter on a document; nothing when the filter is refused. -/
def verdict? (m : Matcher) (subject : Document) : List (String × Value) → Option Bool
  | [] => some true
  | (key, v) :: rest => do
    let here ← fieldVerdict? m subject key v
    let others ← verdict? m subject rest
    return here && others

def fieldVerdict? (m : Matcher) (subject : Document) (key : String) : Value → Option Bool
  | .array filters => do combine key (← verdicts? m subject filters)
  | v => if key.toList.head? == some '$' then none else meets m (Document.string? subject key) v

/-- The verdicts of the filters that an operator combines. -/
def verdicts? (m : Matcher) (subject : Document) : List Value → Option (List Bool)
  | [] => some []
  | .document filter :: rest => do
    let first ← verdict? m subject filter
    let others ← verdicts? m subject rest
    return first :: others
  | _ :: _ => none

end

/-! ## Checks -/

example : verdict? (fun _ _ _ => true) [("name", .string "a"), ("type", .string "view")]
    [("name", .regex "a" "i"), ("type", .string "collection")] = some false := by decide
example : verdict? (fun _ _ _ => true) [("name", .string "a")] [("$or", .array [])] = none := by decide

end MongoMetrics.Query
