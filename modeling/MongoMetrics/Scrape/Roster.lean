/-
The collectors of a scrape. Names are unique. All collectors describe side by side, and when the
last one is done all of them collect side by side. A sample counts when its own collector has
described its schema in this scrape; then one sample of each series is kept over all collectors,
in the order of registration, and the samples are grouped into families.
-/
import MongoMetrics.Exposition.Text
import MongoMetrics.Scrape.Collector

namespace MongoMetrics.Scrape

/-- Collectors in the order of registration, each with what it remembers. -/
structure Roster where
  members : List (Collector × Snapshot)

namespace Roster

def empty : Roster := ⟨[]⟩

def names (r : Roster) : List String := r.members.map fun m => m.1.name

/-- The roster with one more collector, whose name must be new. -/
def register (r : Roster) (c : Collector) : Except Fault Roster :=
  if r.names.contains c.name then
    .error (.invalidArgument ("collector already registered: " ++ c.name))
  else .ok ⟨r.members ++ [(c, none)]⟩

/-- Registers collectors one after the other. -/
def registerAll (r : Roster) (cs : List Collector) : Except Fault Roster := cs.foldlM register r

/-! ## One scrape -/

/-- A description with the place of its collector. -/
structure Described where
  place : Nat
  shapes : List Shape
  snapshot : Snapshot

def describeAt (place : Nat) (c : Collector) : Session Described := do
  let (shapes, snapshot) ← c.describe
  return ⟨place, shapes, snapshot⟩

/-- The schemas that the collector at a place has described. -/
def schemasAt (described : List Described) (place : Nat) : List Schema :=
  match described.find? (·.place == place) with
  | some d => d.shapes.map Shape.schema
  | none => []

def snapshotAt (described : List Described) (place : Nat) : Snapshot :=
  match described.find? (·.place == place) with
  | some d => d.snapshot
  | none => none

def collectAt (described : List Described) (place : Nat) (c : Collector) :
    Session (Nat × List Sample) := do
  return (place, ← c.collect (snapshotAt described place))

/-- The collected samples that were described, by place. -/
def admitted (described : List Described) (collected : List (Nat × List Sample)) : List Sample :=
  (collected.mergeSort fun a b => a.1 ≤ b.1).flatMap fun (place, samples) =>
    samples.filter fun s => (schemasAt described place).contains s.schema

/-- Describes and collects with all collectors; the roster remembers the new snapshots. -/
def gather (r : Roster) : Session (List Family × Roster) := do
  let places := r.members.zipIdx
  let described ← Session.race (places.map fun (m, place) => describeAt place m.1)
  let collected ← Session.race (places.map fun (m, place) => collectAt described place m.1)
  let members := places.map fun (m, place) => (m.1, snapshotAt described place)
  return (Family.group (Sample.latest (admitted described collected)), ⟨members⟩)

/-- The exposition of a scrape. -/
def render (r : Roster) : Session (String × Roster) := do
  let (families, r) ← r.gather
  return (Exposition.text families, r)

end Roster

end MongoMetrics.Scrape
