/-
From documents to samples. A document is walked depth first in the order of its fields. Each leaf
that converts gives one sample, named after its path; a leaf of an unsupported kind, or one whose
path holds no letter or digit, gives one refusal. Elements of arrays are told apart by a label that
no outer label uses: documents by their name and state, or else by their position; leaves by their
position, which the legacy naming puts into the path.
-/
import MongoMetrics.Extraction.Leaf
import MongoMetrics.Fault

namespace MongoMetrics.Extraction

/-- What one leaf contributes. -/
inductive Finding where
  | sample (s : Sample)
  | refusal (f : Fault)

namespace Finding

def sample? : Finding → Option Sample
  | sample s => some s
  | refusal _ => none

def refusal? : Finding → Option Fault
  | sample _ => none
  | refusal f => some f

end Finding

/-! ## Labels of array elements -/

def positionLabel : String := "index"

def memberLabel : String := "member_idx"

def memberStateLabel : String := "member_state"

/-- The first of `base` with the numbers from `n` on that no label has, among `tries` many. -/
def numberedLabel (labels : Labels) (base : String) : (tries n : Nat) → String
  | 0, _ => base
  | tries + 1, n =>
    let candidate := base ++ Number.natText n
    if labels.contains candidate then numberedLabel labels base tries (n + 1) else candidate

/-- A label name that is not in use: `base`, or `base` with the least number from 2 on. -/
def freshLabel (labels : Labels) (base : String) : String :=
  if labels.contains base then numberedLabel labels base (labels.toList.length + 1) 2 else base

def withPosition (labels : Labels) (index : Nat) : Labels :=
  labels.insert (freshLabel labels positionLabel) (Number.natText index)

/-- The labels below a document of an array. -/
def elementLabels (labels : Labels) (index : Nat) (element : Document) : Labels :=
  match Document.get? element "name" with
  | some (.string name) =>
    let named := labels.insert (freshLabel labels memberLabel) name
    match Document.get? element "stateStr" with
    | some (.string state) => named.insert (freshLabel labels memberStateLabel) state
    | _ => named
  | _ => withPosition labels index

/-! ## Leaves -/

/-- A section whose numbers share one metric in the legacy naming, told apart by a label. -/
structure LegacySection where
  path : String
  metric : String
  label : String
  kind : Kind

def legacySections : List LegacySection :=
  [⟨"serverStatus.opcounters", "mongodb_op_counters_total", "type", .counter⟩,
   ⟨"serverStatus.opcountersRepl", "mongodb_op_counters_repl_total", "type", .counter⟩,
   ⟨"serverStatus.connections", "mongodb_connections", "state", .gauge⟩,
   ⟨"serverStatus.asserts", "mongodb_asserts_total", "type", .counter⟩,
   ⟨"serverStatus.mem", "mongodb_memory", "type", .gauge⟩,
   ⟨"serverStatus.metrics.document", "mongodb_mongod_metrics_document_total", "state", .counter⟩,
   ⟨"serverStatus.network", "mongodb_network_total", "type", .counter⟩]

def legacySection? (naming : Naming) (parent : String) : Option LegacySection :=
  match naming with
  | .full => none
  | .legacy => legacySections.find? (·.path == parent)

/-- A sample named after `path`, or a refusal when the path gives no name. -/
def named (naming : Naming) (path help : String) (x : Float) (nature : Nature) (labels : Labels) :
    Finding :=
  if (stem naming path).isEmpty then
    .refusal (.malformedField help "key does not produce a valid metric name")
  else .sample ⟨metricName naming path, help, kindOf path nature, x, labels⟩

def unsupported (path what : String) : Finding :=
  .refusal (.malformedField path ("don't know how to handle " ++ what ++ " values"))

/-- A leaf under a key. -/
def ofLeaf (naming : Naming) (parent key : String) (labels : Labels) (v : Value) : List Finding :=
  let path := join parent key
  match Reading.of v with
  | .silent => []
  | .unsupported what => [unsupported path what]
  | .value x nature =>
    match legacySection? naming parent with
    | some legacy =>
      [.sample ⟨legacy.metric, path, legacy.kind, x, labels.insert legacy.label key⟩]
    | none => [named naming path path x nature labels]

/-- A leaf in an array. -/
def ofElement (naming : Naming) (path : String) (labels : Labels) (index : Nat) (v : Value) :
    List Finding :=
  let indexed := join path (Number.natText index)
  match Reading.of v with
  | .silent => []
  | .unsupported what => [unsupported indexed what]
  | .value x nature =>
    match naming with
    | .legacy => [named naming indexed indexed x nature labels]
    | .full => [named naming path indexed x nature (withPosition labels index)]

/-! ## The walk -/

mutual

def ofFields (naming : Naming) (path : String) (labels : Labels) :
    List (String × Value) → List Finding
  | [] => []
  | (key, v) :: rest => ofField naming path labels key v ++ ofFields naming path labels rest

def ofField (naming : Naming) (path : String) (labels : Labels) (key : String) :
    Value → List Finding
  | .document fields => ofFields naming (join path key) labels fields
  | .array items => ofItems naming (join path key) labels 0 items
  | v => ofLeaf naming path key labels v

def ofItems (naming : Naming) (path : String) (labels : Labels) (index : Nat) :
    List Value → List Finding
  | [] => []
  | v :: rest => ofItem naming path labels index v ++ ofItems naming path labels (index + 1) rest

def ofItem (naming : Naming) (path : String) (labels : Labels) (index : Nat) :
    Value → List Finding
  | .document fields => ofFields naming path (elementLabels labels index fields) fields
  | .array items => ofItems naming (join path (Number.natText index)) labels 0 items
  | v => ofElement naming path labels index v

end

/-! ## Results -/

/-- The samples of a document, one for each series, and the refusals. -/
structure Extracted where
  samples : List Sample
  refusals : List Fault

/-- All findings of a document below `path`, in document order. -/
def findings (naming : Naming) (path : String) (labels : Labels) (d : Document) : List Finding :=
  ofFields naming path labels d

def extract (naming : Naming) (path : String) (labels : Labels) (d : Document) : Extracted :=
  let found := findings naming path labels d
  ⟨Sample.latest (found.filterMap Finding.sample?), found.filterMap Finding.refusal?⟩

end MongoMetrics.Extraction
