/-
Documents of the database: ordered fields of dynamic values.
-/
namespace MongoMetrics

/-- A value of a document. Identifiers and binary data are kept as lower-case hexadecimal text,
decimal numbers of 128 bits as their decimal text. -/
inductive Value where
  | null
  | boolean (b : Bool)
  | string (s : String)
  | int32 (n : Int32)
  | int64 (n : Int64)
  | double (x : Float)
  | dateTime (millis : Int64)
  | timestamp (seconds increment : UInt32)
  | objectId (hex : String)
  | decimal128 (digits : String)
  | binary (subtype : UInt8) (hex : String)
  | regex (pattern options : String)
  | javaScript (code : String)
  | scopedJavaScript (code : String) (scope : List (String × Value))
  | symbol (s : String)
  | undefined
  | minKey
  | maxKey
  | dbPointer (ns hex : String)
  | array (items : List Value)
  | document (fields : List (String × Value))

/-- Fields in order. -/
abbrev Document := List (String × Value)

namespace Document

def get? (d : Document) (key : String) : Option Value := List.lookup key d

def has (d : Document) (key : String) : Bool := (get? d key).isSome

/-- The document with `v` under `key`: in the place of the old value, or as the last field. -/
def set (d : Document) (key : String) (v : Value) : Document :=
  match d with
  | [] => [(key, v)]
  | (k, w) :: rest => if k = key then (k, v) :: rest else (k, w) :: set rest key v

/-- The fields set one after the other. -/
def ofFields (fields : List (String × Value)) : Document :=
  fields.foldl (fun d (k, v) => set d k v) []

/-- The name of the first field. -/
def firstKey? (d : Document) : Option String := d.head?.map Prod.fst

def string? (d : Document) (key : String) : Option String :=
  match get? d key with
  | some (.string s) => some s
  | _ => none

def boolean? (d : Document) (key : String) : Option Bool :=
  match get? d key with
  | some (.boolean b) => some b
  | _ => none

def document? (d : Document) (key : String) : Option Document :=
  match get? d key with
  | some (.document fields) => some fields
  | _ => none

def array? (d : Document) (key : String) : Option (List Value) :=
  match get? d key with
  | some (.array items) => some items
  | _ => none

/-- The value at the end of a path of nested documents. -/
def at? (d : Document) : List String → Option Value
  | [] => none
  | [key] => get? d key
  | key :: rest =>
    match document? d key with
    | some inner => at? inner rest
    | none => none

theorem document?_eq_some {d : Document} {key : String} {fields : Document} :
    document? d key = some fields ↔ get? d key = some (.document fields) := by
  unfold document?
  split
  · rename_i found hfound
    simp [hfound]
  · rename_i hnone
    exact iff_of_false (by simp) fun h => hnone _ h

theorem string?_eq_some {d : Document} {key s : String} :
    string? d key = some s ↔ get? d key = some (.string s) := by
  unfold string?
  split
  · rename_i found hfound
    simp [hfound]
  · rename_i hnone
    exact iff_of_false (by simp) fun h => hnone _ h

end Document

/-- The number that an integer or a double holds. -/
def Value.number? : Value → Option Float
  | .double x => some x
  | .int32 n => some (Float.ofInt n.toInt)
  | .int64 n => some (Float.ofInt n.toInt)
  | _ => none

/-- The number under a key. -/
def Document.number? (d : Document) (key : String) : Option Float :=
  match get? d key with
  | some v => v.number?
  | none => none

end MongoMetrics
