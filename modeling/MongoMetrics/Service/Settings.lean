/-
What the exporter is set to do.
-/
import MongoMetrics.Clock
import MongoMetrics.Extraction.MetricName

namespace MongoMetrics

structure Settings where
  uri : String
  metricsPath : String
  naming : Extraction.Naming
  /-- One connection for all scrapes, instead of a new one for each. -/
  shared : Bool
  collectionNamespaces : List String
  indexNamespaces : List String
  databaseStats : Bool
  databaseNamespaces : List String
  sharding : Bool
  diagnosticData : Bool
  replicaStatus : Bool
  /-- Namespaces are patterns to expand, instead of a list to take as it is. -/
  discovering : Bool
  /-- The most collections with which collection and index statistics are read; zero for any. -/
  collectionLimit : Nat
  /-- The longest that connecting, finding out about the server and one reading may take each. -/
  limit : Duration
  deriving DecidableEq, Repr

namespace Settings

def defaultUri : String := "mongodb://localhost:27017"

def defaultMetricsPath : String := "/metrics"

def default : Settings where
  uri := defaultUri
  metricsPath := defaultMetricsPath
  naming := .full
  shared := false
  collectionNamespaces := []
  indexNamespaces := []
  databaseStats := false
  databaseNamespaces := []
  sharding := false
  diagnosticData := true
  replicaStatus := true
  discovering := false
  collectionLimit := 0
  limit := Duration.ofSeconds 10

/-- Statistics of collections or indexes are asked for. -/
def wantsStats (s : Settings) : Bool :=
  !s.collectionNamespaces.isEmpty || !s.indexNamespaces.isEmpty

end Settings

end MongoMetrics
