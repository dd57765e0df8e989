/-
Namespaces and sets of names. A namespace is a database name and a collection name with a dot
between them; only the first dot separates.
-/
import MongoMetrics.Text.Ascii
import MongoMetrics.Text.Keyed
import MongoMetrics.Text.Trim

namespace MongoMetrics.Catalogue

/-- The database and the collection that a namespace names; without a dot the collection is empty. -/
def splitNamespace (ns : String) : String × String :=
  match Text.splitFirst '.' ns.toList with
  | some (database, collection) => (String.ofList database, String.ofList collection)
  | none => (ns, "")

def databaseOf (ns : String) : String := (splitNamespace ns).1

def collectionOf (ns : String) : String := (splitNamespace ns).2

def namespaceOf (database collection : String) : String := database ++ "." ++ collection

/-- The databases that every server keeps for itself. -/
def systemDatabases : List String := ["admin", "config", "local"]

def nonEmpty (names : List String) : List String := names.filter fun n => !n.isEmpty

/-- The namespace names the database, up to ASCII case and blanks around the database. -/
def names (ns database : String) : Bool :=
  let named := Text.trim (databaseOf ns)
  !named.isEmpty && Text.equalsIgnoringCase named database

/-! ## Sets of names -/

/-- A set of texts in ascending order. -/
abbrev NameSet := Keyed Unit

def addName (s : NameSet) (name : String) : NameSet := s.insert name ()

def addNames (s : NameSet) (l : List String) : NameSet := l.foldl addName s

/-! ## Checks -/

example : splitNamespace "db1.collection.one" = ("db1", "collection.one") := by decide
example : splitNamespace "db1" = ("db1", "") := by decide
example : splitNamespace ".coll" = ("", "coll") := by decide

end MongoMetrics.Catalogue
