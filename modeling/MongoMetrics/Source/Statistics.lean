/-
Sources that read statistics item by item: of databases, of collections and of indexes. An item that
cannot be read adds nothing, and the others are read all the same.
-/
import MongoMetrics.Catalogue.Listing
import MongoMetrics.Scrape.Collector

namespace MongoMetrics.Source

open MongoMetrics.Scrape

/-- The answer to each item's question, or no documents for an item whose question fails. -/
def eachItem {α β : Type} (question : α → Session (Except Fault β)) (read : α → β → List Fetched)
    (items : List α) : Session (List Fetched) := do
  let found ← Session.forEach (fun item => do
    match ← question item with
    | .ok answer => return read item answer
    | .error _ => return []) items
  return found.flatten

/-! ## Databases -/

def databaseDocument (database : String) (stats : Document) : List Fetched :=
  [⟨"dbstats", stats, Keyed.single "database" database⟩]

def databaseStats (client : Client) (namespaces : List String) : Source where
  family := "dbstats"
  fetch := do
    let databases ← Catalogue.listDatabases client namespaces []
    let documents ← eachItem (fun database =>
        Session.ask client (.command database [("dbStats", .int32 1), ("scale", .int32 1)]))
      databaseDocument databases
    return Batch.ofDocuments documents
  augment := fun _ => []

/-! ## Collections and indexes -/

/-- The labels of a namespace. -/
def namespaceLabels (ns : String) : Labels :=
  (Keyed.single "database" (Catalogue.databaseOf ns)).insert "collection" (Catalogue.collectionOf ns)

/-- Runs one pipeline on the collection of each namespace. -/
def eachNamespace (client : Client) (pipeline : List Document)
    (read : String → List Document → List Fetched) (namespaces : List String) :
    Session (List Fetched) :=
  eachItem (fun ns => Session.ask client
    (.aggregate (Catalogue.databaseOf ns) (Catalogue.collectionOf ns) pipeline)) read namespaces

/-- The stages that read the statistics of a collection; the full naming leaves out the details of
the storage engine. -/
def collectionPipeline (naming : Extraction.Naming) : List Document :=
  let stats : Document := [("$collStats", .document [
    ("latencyStats", .document [("histograms", .boolean true)]),
    ("storageStats", .document [("scale", .int32 1)])])]
  let details : Document := [("$project", .document [
    ("storageStats.wiredTiger", .int32 0), ("storageStats.indexDetails", .int32 0)])]
  match naming with
  | .legacy => [stats]
  | .full => [stats, details]

def collectionRows (ns : String) (rows : List Document) : List Fetched :=
  rows.map fun row => ⟨"collstats", row, namespaceLabels ns⟩

def collectionStats (client : Client) (namespaces : List String) (discovering : Bool)
    (naming : Extraction.Naming) : Source where
  family := "collstats"
  fetch := do
    let resolved ← Catalogue.statsNamespaces client namespaces discovering
    let documents ← eachNamespace client (collectionPipeline naming) collectionRows resolved
    return Batch.ofDocuments documents
  augment := fun _ => []

def indexPipeline : List Document := [[("$indexStats", .document [])]]

/-- The accesses of one index; rows without a name or without accesses do not count. -/
def indexRow? (ns : String) (row : Document) : Option Fetched := do
  let key ← Document.string? row "name"
  let accesses ← Document.document? row "accesses"
  return ⟨"indexstats.accesses", accesses, (namespaceLabels ns).insert "key_name" key⟩

def indexRows (ns : String) (rows : List Document) : List Fetched := rows.filterMap (indexRow? ns)

def indexStats (client : Client) (namespaces : List String) (discovering : Bool) : Source where
  family := "indexstats"
  fetch := do
    let resolved ← Catalogue.statsNamespaces client namespaces discovering
    let documents ← eachNamespace client indexPipeline indexRows resolved
    return Batch.ofDocuments documents
  augment := fun _ => []

end MongoMetrics.Source
