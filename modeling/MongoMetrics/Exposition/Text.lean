/-
The text exposition format. A family is a help line, a type line and one line for each sample; the
labels of a sample stand in braces in the order of their names. Backslashes and line ends are
escaped in help texts, double quotes as well in label values.
-/
import MongoMetrics.Exposition.Amount
import MongoMetrics.Family

namespace MongoMetrics.Exposition

/-- Escapes for help texts. -/
def helpChar : Char → List Char
  | '\\' => ['\\', '\\']
  | '\n' => ['\\', 'n']
  | c => [c]

/-- Escapes for label values. -/
def valueChar : Char → List Char
  | '\\' => ['\\', '\\']
  | '\n' => ['\\', 'n']
  | '"' => ['\\', '"']
  | c => [c]

def escapeHelp (s : String) : String := String.ofList (s.toList.flatMap helpChar)

def escapeValue (s : String) : String := String.ofList (s.toList.flatMap valueChar)

/-- A label as it stands between braces. -/
def labelText (l : String × String) : String := l.1 ++ "=\"" ++ escapeValue l.2 ++ "\""

/-- The label part of a sample line; nothing when there are no labels. -/
def labelsText (labels : Labels) : String :=
  if labels.isEmpty then ""
  else "\x7b" ++ String.intercalate "," (labels.toList.map labelText) ++ "\x7d"

def sampleLine (s : Sample) : String :=
  s.name ++ labelsText s.labels ++ " " ++ amount s.value ++ "\n"

def familyText (f : Family) : String :=
  "# HELP " ++ f.name ++ " " ++ escapeHelp f.help ++ "\n" ++
  "# TYPE " ++ f.name ++ " " ++ f.kind.text ++ "\n" ++
  String.join (f.samples.map sampleLine)

/-- The exposition of families, one after the other. -/
def text (families : List Family) : String := String.join (families.map familyText)

end MongoMetrics.Exposition
