import AnalyzerAdmin.Text.Decimal

/-!
# The cluster

Where a cluster is reached, and what it is expected to look like.
-/

namespace AnalyzerAdmin

structure Address where
  scheme : String := "http"
  hostname : String := "localhost"
  port : UInt16 := 9200
  metricsPort : UInt16 := 9600
  timeout : UInt64 := 1000
deriving DecidableEq, Repr

namespace Address

def base (a : Address) (port : UInt16) : String :=
  a.scheme ++ "://" ++ a.hostname ++ ":" ++ String.ofList (Decimal.ofNat port.toNat)

def baseUrl (a : Address) : String := a.base a.port

def metricsBaseUrl (a : Address) : String := a.base a.metricsPort

def url (a : Address) (path : String) : String := a.baseUrl ++ path

def metricsUrl (a : Address) (path : String) : String := a.metricsBaseUrl ++ path

end Address

structure Topology where
  version : String := "7.3.2"
  nodes : List String := ["elasticsearch1", "elasticsearch2"]
deriving DecidableEq, Repr

def Topology.expects (t : Topology) (name : String) : Bool := t.nodes.contains name

end AnalyzerAdmin
