/-
Families: the samples of one metric name under one help text and one kind. Samples are grouped by
name; the first sample of a name fixes help and kind, and later samples of another kind are left
out.
-/
import MongoMetrics.Sample

namespace MongoMetrics

structure Family where
  name : String
  help : String
  kind : Kind
  samples : List Sample
  deriving DecidableEq

namespace Family

/-- The family that a sample founds. -/
def of (s : Sample) : Family := ⟨s.name, s.help, s.kind, [s]⟩

/-- The family with one more sample, when the kinds agree. -/
def add (f : Family) (s : Sample) : Family :=
  if f.kind = s.kind then { f with samples := f.samples ++ [s] } else f

/-- The families after one more sample. -/
def assign (families : Keyed Family) (s : Sample) : Keyed Family :=
  match families.get? s.name with
  | some f => families.insert s.name (f.add s)
  | none => families.insert s.name (of s)

/-- The samples grouped into families, in ascending order of names. -/
def group (samples : List Sample) : List Family := (samples.foldl assign {}).values

end Family

end MongoMetrics
