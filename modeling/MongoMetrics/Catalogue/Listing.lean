/-
Finding out what a server holds. Namespace entries choose databases by their first part and
collections by the pattern in their second part; an entry without a collection part chooses all
collections of its database. Statistics are read of physical collections only: when namespaces are
discovered, views are passed over, and when they are given one by one, a view is a fault.
-/
import MongoMetrics.Catalogue.Namespace
import MongoMetrics.Server.Session

namespace MongoMetrics.Catalogue

/-! ## Listings -/

/-- The database parts of namespace entries, as names to include. -/
def databaseSelection (namespaces excluded : List String) : DatabaseSelection :=
  ⟨nonEmpty excluded, nonEmpty ((nonEmpty namespaces).map databaseOf)⟩

/-- The collection parts of namespace entries, as patterns. -/
def collectionPatterns (namespaces : List String) : List String :=
  nonEmpty ((nonEmpty namespaces).map collectionOf)

/-- The databases that the entries name, but for the excluded ones; without entries, all. -/
def listDatabases (client : Client) (namespaces excluded : List String) : Request (List String) :=
  Request.ask client (.listDatabases (databaseSelection namespaces excluded))

/-- The collections and views of one database whose names match an entry. -/
def listCollections (client : Client) (database : String) (namespaces : List String) :
    Request (List String) := do
  let selection ← ExceptT.mk (Session.selection (collectionPatterns namespaces))
  Request.ask client (.listCollections database selection)

/-! ## The catalogue -/

/-- Databases with their collections and views. -/
abbrev Contents := Keyed NameSet

/-- A failed command names the database whose listing it was. -/
def inDatabase (database : String) : Fault → Fault
  | .command name code message =>
    .command name code
      ("cannot list the collections for " ++ Text.quoted database ++ ": " ++ message)
  | other => other

/-- The contents after the collections of `database` that the entry chooses. -/
def addEntry (client : Client) (database : String) (contents : Contents) (entry : String) :
    Request Contents :=
  if names entry database then do
    let found ← ExceptT.mk do
      match ← (listCollections client database [entry]).attempt with
      | .ok found => return .ok found
      | .error fault => return .error (inDatabase database fault)
    return contents.insert database (addNames ((contents.get? database).getD {}) found)
  else return contents

def addDatabase (client : Client) (entries : List String) (contents : Contents)
    (database : String) : Request Contents :=
  entries.foldlM (addEntry client database) contents

/-- For each chosen database the collections that the entries naming it choose; without entries,
everything. -/
def contents (client : Client) (namespaces excluded : List String) : Request Contents := do
  let databases ← listDatabases client namespaces excluded
  let entries := nonEmpty namespaces
  let entries := if entries.isEmpty then databases else entries
  databases.foldlM (addDatabase client entries) {}

/-- All namespaces of collections that are not views. -/
def physicalNamespaces (client : Client) : Request NameSet := do
  let databases ← listDatabases client [] []
  let found ← Request.forEach (fun database => do
    let collections ← Request.ask client (.listCollections database CollectionSelection.physical)
    return collections.map (namespaceOf database)) (nonEmpty databases)
  return addNames {} found.flatten

/-! ## Namespaces for statistics -/

/-- The candidates, provided that all of them are in the set; the first one that is not is named in
the fault. -/
def allPhysical (physical : NameSet) (candidates : List String) : Except Fault (List String) :=
  match candidates.find? fun c => !physical.contains c with
  | some view => .error (.viewNamespace view)
  | none => .ok candidates

/-- The candidates, provided that none of them is a view. -/
def requirePhysical (client : Client) (candidates : List String) : Request (List String) := do
  let physical ← physicalNamespaces client
  ExceptT.mk (Session.pure (allPhysical physical candidates))

/-- The number of collections outside the system databases that the filters choose. -/
def countCollections (client : Client) (namespaces filters : List String) : Request Nat := do
  let databases ← listDatabases client namespaces systemDatabases
  let counts ← Request.forEach (fun database => do
    return (← listCollections client database filters).length) databases
  return counts.foldl (· + ·) 0

/-- All namespaces of the contents, by database and then by collection. -/
def Contents.namespaces (c : Contents) : List String :=
  c.toList.flatMap fun (database, collections) => collections.keys.map (namespaceOf database)

/-- The entries that name a collection. -/
def literalEntries (namespaces : List String) : List String :=
  (nonEmpty namespaces).filter fun ns => !(collectionOf ns).isEmpty

/-- The namespaces to read statistics of. -/
def statsNamespaces (client : Client) (namespaces : List String) (discovering : Bool) :
    Request (List String) :=
  if discovering then do
    let physical ← physicalNamespaces client
    let discovered ← contents client namespaces systemDatabases
    return discovered.namespaces.filter physical.contains
  else requirePhysical client (literalEntries namespaces)

end MongoMetrics.Catalogue
