/-
Reading an exposition back. Each line is a help line, a type line or a sample line, and its first
characters tell which; the lines of a family stand together, help and type first. Label values and
help texts are read without their escapes, the values of samples stay texts.
-/
import MongoMetrics.Exposition.Identifier
import MongoMetrics.Exposition.Text
import MongoMetrics.Text.Ascii

namespace MongoMetrics.Exposition

/-! ## Lines -/

/-- What one line says. -/
inductive Line where
  | help (name help : String)
  | kind (name : String) (kind : Kind)
  | sample (name : String) (labels : Labels) (amount : String)
  deriving DecidableEq

namespace Line

/-- The metric that the line is about. -/
def name : Line → String
  | .help n _ => n
  | .kind n _ => n
  | .sample n _ _ => n

/-- The line as it stands in the text, without its end. -/
def text : Line → String
  | .help name plain => "# HELP " ++ name ++ " " ++ escapeHelp plain
  | .kind name k => "# TYPE " ++ name ++ " " ++ k.text
  | .sample name labels amount => name ++ labelsText labels ++ " " ++ amount

/-! ## Escapes -/

/-- What a backslash and a character stand for in a help text. -/
def helpEscape? : Char → Option Char
  | '\\' => some '\\'
  | 'n' => some '\n'
  | _ => none

/-- What a backslash and a character stand for in a label value. -/
def valueEscape? : Char → Option Char
  | '\\' => some '\\'
  | 'n' => some '\n'
  | '"' => some '"'
  | _ => none

/-- A whole help text. -/
def readHelp : List Char → Option (List Char)
  | [] => some []
  | '\\' :: c :: rest => do
    let plain ← helpEscape? c
    let more ← readHelp rest
    return plain :: more
  | '\\' :: [] => none
  | c :: rest => (readHelp rest).map (c :: ·)

/-- A label value up to its closing quote, and what follows the quote. -/
def readValue : List Char → Option (List Char × List Char)
  | [] => none
  | '"' :: rest => some ([], rest)
  | '\\' :: c :: rest => do
    let plain ← valueEscape? c
    let (more, after) ← readValue rest
    return (plain :: more, after)
  | c :: rest => (readValue rest).map fun (more, after) => (c :: more, after)

/-! ## Labels -/

/-- A label up to its closing quote, and what follows. -/
def readLabel (s : List Char) : Option ((String × String) × List Char) :=
  match Text.splitFirst '=' s with
  | some (name, '"' :: rest) =>
    if isLabelName (String.ofList name) then
      (readValue rest).map fun (value, after) => ((String.ofList name, String.ofList value), after)
    else none
  | _ => none

theorem length_of_readValue {s value after : List Char} (h : readValue s = some (value, after)) :
    after.length < s.length := by
  induction s using readValue.induct generalizing value after with
  | case1 => simp [readValue] at h
  | case2 rest =>
    simp only [readValue, Option.some.injEq, Prod.mk.injEq] at h
    simp [← h.2]
  | case3 c rest ih =>
    simp only [readValue, Option.bind_eq_bind, Option.bind_eq_some_iff] at h
    obtain ⟨plain, -, ⟨more, after'⟩, hr, he⟩ := h
    cases he
    have := ih hr
    simp only [List.length_cons]
    omega
  | case4 c rest _ _ ih =>
    simp only [readValue, Option.map_eq_some_iff] at h
    obtain ⟨⟨more, after'⟩, hr, he⟩ := h
    cases he
    have := ih hr
    simp only [List.length_cons]
    omega

theorem length_of_readLabel {s after : List Char} {l : String × String}
    (h : readLabel s = some (l, after)) : after.length < s.length := by
  unfold readLabel at h
  split at h
  · rename_i name rest hs
    split at h
    · obtain ⟨⟨value, after'⟩, hv, he⟩ := Option.map_eq_some_iff.1 h
      cases he
      have hlen := length_of_readValue hv
      rw [(Text.splitFirst_eq_some hs).1]
      simp only [List.length_append, List.length_cons]
      omega
    · cases h
  · cases h

/-- The labels up to the closing brace, and what follows the brace. -/
def readLabels (s : List Char) : Option (List (String × String) × List Char) :=
  match _h : readLabel s with
  | some (l, ',' :: rest) => (readLabels rest).map fun (more, after) => (l :: more, after)
  | some (l, '\x7d' :: rest) => some ([l], rest)
  | _ => none
termination_by s.length
decreasing_by
  have := length_of_readLabel _h
  simp only [List.length_cons] at this
  omega

/-! ## Whole lines -/

def kindNamed? (s : String) : Option Kind :=
  [Kind.counter, Kind.gauge, Kind.untyped].find? fun k => k.text == s

/-- The name up to the first blank, and what follows the blank. -/
def readHeader (s : List Char) : Option (String × List Char) :=
  match Text.splitFirst ' ' s with
  | some (name, rest) =>
    if isMetricName (String.ofList name) then some (String.ofList name, rest) else none
  | none => none

/-- A sample line: the name, the labels in braces when there are any, a blank and the value. -/
def readSample (s : List Char) : Option Line :=
  let name := String.ofList (s.takeWhile continuesMetric)
  if isMetricName name then
    match s.dropWhile continuesMetric with
    | ' ' :: amount => some (sample name {} (String.ofList amount))
    | '\x7b' :: rest =>
      match readLabels rest with
      | some (labels, ' ' :: amount) =>
        some (sample name (Keyed.ofList labels) (String.ofList amount))
      | _ => none
    | _ => none
  else none

def read? (s : List Char) : Option Line :=
  match Text.afterPrefix? "# HELP ".toList s, Text.afterPrefix? "# TYPE ".toList s with
  | some rest, _ => do
    let (name, escaped) ← readHeader rest
    let plain ← readHelp escaped
    return help name (String.ofList plain)
  | none, some rest => do
    let (name, k) ← readHeader rest
    let k ← kindNamed? (String.ofList k)
    return kind name k
  | none, none => readSample s

end Line

/-! ## Families -/

/-- A sample as the text tells of it. -/
structure Row where
  labels : Labels
  amount : String
  deriving DecidableEq

/-- A family as the text tells of it. -/
structure Block where
  name : String
  help : String
  kind : Kind
  rows : List Row
  deriving DecidableEq

/-- The rows of the sample lines in front that bear the name, and the lines behind them. -/
def takeRows (name : String) : List Line → List Row × List Line
  | .sample n labels amount :: rest =>
    if n = name then
      let (rows, after) := takeRows name rest
      (⟨labels, amount⟩ :: rows, after)
    else ([], .sample n labels amount :: rest)
  | rest => ([], rest)

theorem length_takeRows (name : String) (lines : List Line) :
    (takeRows name lines).2.length ≤ lines.length := by
  induction lines using takeRows.induct name with
  | case1 labels amount rest rows after h ih =>
    simp only [takeRows, if_pos, List.length_cons]
    exact Nat.le_succ_of_le ih
  | case2 n labels amount rest hn => simp [takeRows, hn]
  | case3 rest hs =>
    unfold takeRows
    split
    · exact absurd rfl (hs _ _ _ _)
    · exact Nat.le_refl _

/-- The blocks that the lines are made of: each begins with help and type under one name. -/
def readBlocks : List Line → Option (List Block)
  | [] => some []
  | .help name help :: .kind n kind :: rest =>
    if n = name then
      (readBlocks (takeRows name rest).2).map (⟨name, help, kind, (takeRows name rest).1⟩ :: ·)
    else none
  | _ => none
termination_by lines => lines.length
decreasing_by
  have := length_takeRows name rest
  simp only [List.length_cons]
  omega

/-- The lines of a text, each of which has an end. -/
def splitLines (s : List Char) : Option (List (List Char)) :=
  let pieces := s.splitOn '\n'
  if pieces.getLast? = some [] then some pieces.dropLast else none

/-- The blocks of a text; nothing when it breaks the format. -/
def read? (s : String) : Option (List Block) := do
  let lines ← splitLines s.toList
  let lines ← lines.mapM Line.read?
  readBlocks lines

/-! ## Checks -/

example : Line.read? "a:b\x7bl=\"x\\\"\\n\"\x7d +Inf".toList =
    some (.sample "a:b" (Keyed.single "l" "x\"\n") "+Inf") := by decide +kernel

end MongoMetrics.Exposition
