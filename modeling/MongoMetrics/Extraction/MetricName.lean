/-
Metric names from dotted paths. A path becomes a name by dropping dollar signs, writing every run of
other foreign characters as one underscore and trimming underscores at both ends. The legacy naming
first replaces a well-known beginning of the path by its short form; a beginning counts only when
it ends where a component of the path ends.
-/
import MongoMetrics.Text.Ascii

namespace MongoMetrics.Extraction

/-- Which names samples get: the whole path, or the short names of earlier exporters. -/
inductive Naming where
  | full
  | legacy
  deriving DecidableEq, Repr

/-! ## Paths -/

/-- The path of a field inside another; the empty path adds nothing. -/
def join (path key : String) : String := if path.isEmpty then key else path ++ "." ++ key

/-! ## Normalised names -/

def isNameChar (c : Char) : Bool := c.isAlphanum

/-- One more character behind a name that is kept in reverse. -/
def extend (reversed : List Char) (c : Char) : List Char :=
  if c == '$' then reversed
  else if isNameChar c then c :: reversed
  else if reversed.head? == some '_' then reversed
  else '_' :: reversed

def trimUnderscores (s : List Char) : List Char :=
  ((s.dropWhile (· == '_')).reverse.dropWhile (· == '_')).reverse

/-- The identifier that a text gives. -/
def normalize (raw : String) : String :=
  String.ofList (trimUnderscores (raw.toList.foldl extend []).reverse)

/-! ## Short forms -/

/-- Well-known beginnings with their short forms; of two that overlap the longer one comes first. -/
def shortForms : List (String × String) :=
  [("serverStatus.wiredTiger.transaction", "ss_wt_txn"),
   ("serverStatus.wiredTiger", "ss_wt"),
   ("serverStatus", "ss"),
   ("replSetGetStatus", "rs"),
   ("systemMetrics", "sys"),
   ("local.oplog.rs.stats.wiredTiger", "oplog_stats_wt"),
   ("local.oplog.rs.stats", "oplog_stats"),
   ("collstats.storageStats.wiredTiger", "collstats_storage_wt"),
   ("collstats.storageStats.indexDetails", "collstats_storage_idx"),
   ("collstats.storageStats", "collstats_storage"),
   ("collstats.latencyStats", "collstats_latency")]

/-- What follows `start` in `path`, when `start` is a run of whole components at its beginning. -/
def afterComponents? (start path : String) : Option (List Char) :=
  match Text.afterPrefix? start.toList path.toList with
  | some [] => some []
  | some ('.' :: rest) => some ('.' :: rest)
  | _ => none

/-- The path with its first applicable short form of a table. -/
def shortenBy : List (String × String) → String → String
  | [], path => path
  | (long, short) :: table, path =>
    match afterComponents? long path with
    | some rest => short ++ String.ofList rest
    | none => shortenBy table path

def shorten (path : String) : String := shortenBy shortForms path

/-! ## Metric names -/

/-- The beginning of all names that are made from paths. -/
def namespaceText : String := "mongodb_"

/-- The part of the name that the path decides. -/
def stem (naming : Naming) (path : String) : String :=
  match naming with
  | .full => normalize path
  | .legacy => normalize (shorten path)

def metricName (naming : Naming) (path : String) : String := namespaceText ++ stem naming path

/-! ## Checks -/

example : normalize "$currentOp..count--" = "currentOp_count" := by decide
example : shorten "serverStatusX.uptime" = "serverStatusX.uptime" := by decide
example : shorten "serverStatus.wiredTiger.cache" = "ss_wt.cache" := by decide

end MongoMetrics.Extraction
