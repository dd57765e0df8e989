/-
Collectors. A scrape asks each collector first for the shapes of its samples and then for the
samples. A collector reads its source when it describes, keeps what it read as a snapshot, and
answers the second question from the snapshot alone, so that both answers agree and the source is
read once.
-/
import MongoMetrics.Extraction.Walk
import MongoMetrics.Server.Deployment

namespace MongoMetrics.Scrape

/-- The samples of the latest description; nothing before the first one and after a failed one. -/
abbrev Snapshot := Option (List Sample)

/-- A source of samples under a name. -/
structure Collector where
  name : String
  describe : Session (List Shape × Snapshot)
  collect : Snapshot → Session (List Sample)

/-- Samples as they are in the snapshot. -/
def replay (s : Snapshot) : Session (List Sample) := return s.getD []

/-! ## Sources -/

/-- A document with its place: where its paths begin, and labels for all its samples. -/
structure Fetched where
  path : String
  document : Document
  labels : Labels

/-- What one reading of a source gives: documents to walk, and samples that are ready. -/
structure Batch where
  documents : List Fetched
  samples : List Sample

namespace Batch

def ofDocuments (documents : List Fetched) : Batch := ⟨documents, []⟩

def ofSamples (samples : List Sample) : Batch := ⟨[], samples⟩

end Batch

/-- Where the samples of one family of collectors come from. -/
structure Source where
  family : String
  fetch : Request Batch
  /-- Samples that follow from the fetched documents. -/
  augment : List Fetched → List Sample

/-! ## Snapshots -/

/-- The samples of a document. Its own labels decide over those of the deployment. -/
def documentSamples (naming : Extraction.Naming) (base : Labels) (f : Fetched) : List Sample :=
  (Extraction.extract naming f.path (base.override f.labels) f.document).samples

/-- A ready sample gets the labels of the deployment that it lacks. -/
def withBase (base : Labels) (s : Sample) : Sample := { s with labels := s.labels.fill base }

/-- How long the reading took, in milliseconds. -/
def timingSample (family : String) (elapsed : Duration) : Sample :=
  Sample.gauge "mongodb_collector_scrape_time_ms" "Time taken for scrape by collector"
    elapsed.toMillis ((Keyed.single "collector" family).insert "exporter" "mongodb")

/-- All samples of one reading, one for each series. -/
def snapshotOf (source : Source) (base : Labels) (naming : Extraction.Naming) (batch : Batch)
    (elapsed : Duration) : List Sample :=
  let walked := batch.documents.flatMap (documentSamples naming base)
  let ready := (batch.samples ++ source.augment batch.documents).map (withBase base)
  Sample.latest (walked ++ ready ++ [timingSample source.family elapsed])

/-- The shapes of samples, each schema once, as its first sample has it. -/
def shapesOf : List Sample → (seen : List Schema) → List Shape
  | [], _ => []
  | s :: rest, seen =>
    if seen.contains s.schema then shapesOf rest seen
    else s.shape :: shapesOf rest (s.schema :: seen)

/-! ## Collectors of sources -/

/-- How collectors treat their sources. -/
structure Conditions where
  deployment : Deployment
  naming : Extraction.Naming
  /-- The longest that a reading may take. -/
  limit : Duration

/-- Reads the source within the limit. A failed or late reading leaves no snapshot. -/
def describeSource (source : Source) (c : Conditions) : Session (List Shape × Snapshot) := do
  let started ← Session.now
  match ← source.fetch.attempt.within c.limit with
  | some (.ok batch) =>
    let elapsed := (← Session.now) - started
    let samples := snapshotOf source c.deployment.labels c.naming batch elapsed
    return (shapesOf samples [], some samples)
  | some (.error _) => return ([], none)
  | none => return ([], none)

/-- The collector that keeps the latest reading of a source. -/
def Source.collector (source : Source) (c : Conditions) : Collector :=
  ⟨source.family, describeSource source c, replay⟩

end MongoMetrics.Scrape
