/-
Samples, their series and their shapes. A series is a metric name with a label map; a shape is what
is known of a sample before its value: name, help, kind and label names. Two samples of one series
are the same measurement, of which the later value counts.
-/
import MongoMetrics.Text.Keyed

namespace MongoMetrics

/-- Label names with their values. -/
abbrev Labels := Keyed String

/-- How the values of a metric behave over time. -/
inductive Kind where
  | counter
  | gauge
  | untyped
  deriving DecidableEq, Repr

def Kind.text : Kind → String
  | counter => "counter"
  | gauge => "gauge"
  | untyped => "untyped"

/-- A metric name with a label map: the identity of a sample. -/
structure Series where
  name : String
  labels : Labels
  deriving DecidableEq

/-- A metric name with label names: the identity of a shape. -/
structure Schema where
  name : String
  labelNames : List String
  deriving DecidableEq, Repr

/-- What a collector announces of a sample. -/
structure Shape where
  name : String
  help : String
  kind : Kind
  labelNames : List String
  deriving DecidableEq, Repr

def Shape.schema (s : Shape) : Schema := ⟨s.name, s.labelNames⟩

/-- One measurement. -/
structure Sample where
  name : String
  help : String
  kind : Kind
  value : Float
  labels : Labels
  deriving DecidableEq

namespace Sample

def gauge (name help : String) (value : Float) (labels : Labels) : Sample :=
  ⟨name, help, .gauge, value, labels⟩

def counter (name help : String) (value : Float) (labels : Labels) : Sample :=
  ⟨name, help, .counter, value, labels⟩

def series (s : Sample) : Series := ⟨s.name, s.labels⟩

def shape (s : Sample) : Shape := ⟨s.name, s.help, s.kind, s.labels.keys⟩

def schema (s : Sample) : Schema := ⟨s.name, s.labels.keys⟩

theorem schema_shape (s : Sample) : s.shape.schema = s.schema := rfl

/-! ## One sample per series -/

/-- Replaces the sample of the series of `s`, or appends `s` when there is none. -/
def record (s : Sample) : List Sample → List Sample
  | [] => [s]
  | t :: rest => if t.series = s.series then s :: rest else t :: record s rest

/-- One sample per series: the last one of it, at the place of the first one. -/
def latest (l : List Sample) : List Sample := l.foldl (fun seen s => record s seen) []

end Sample

/-! ## Order of identities -/

/-- Lexicographic order of lists. -/
def compareLists {α : Type} (cmp : α → α → Ordering) : List α → List α → Ordering
  | [], [] => .eq
  | [], _ :: _ => .lt
  | _ :: _, [] => .gt
  | a :: as, b :: bs => (cmp a b).then (compareLists cmp as bs)

/-- Schemas are ordered by name, then by their label names. -/
def Schema.order (a b : Schema) : Ordering :=
  (compare a.name b.name).then (compareLists compare a.labelNames b.labelNames)

/-- Series are ordered by name, then by their labels, each by its name and then its value. -/
def Series.order (a b : Series) : Ordering :=
  (compare a.name b.name).then (compareLists
    (fun p q => (compare p.1 q.1).then (compare p.2 q.2)) a.labels.toList b.labels.toList)

end MongoMetrics
