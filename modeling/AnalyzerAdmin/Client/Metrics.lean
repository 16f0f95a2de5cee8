import AnalyzerAdmin.Batch
import AnalyzerAdmin.Client.Switch

/-!
# Asking for metrics

Current metrics have a fixed query. The query for batch metrics carries the window and those
parameters that are given, in this order.
-/

namespace AnalyzerAdmin

def metricsPath : String :=
  analyzerPath ++
    "/metrics?metrics=Latency,CPU_Utilization&agg=avg,max&dim=ShardID&nodes=all"

def parameter (name : String) (value : UInt64) : String :=
  "&" ++ name ++ "=" ++ String.ofList (Decimal.ofNat value.toNat)

def optionalParameter (name : String) : Option UInt64 → String
  | some value => parameter name value
  | none => ""

def batchPath (window : Window) (options : BatchOptions) : String :=
  analyzerPath ++ "/batch?metrics=Latency,CPU_Utilization" ++
    parameter "starttime" window.start ++ parameter "endtime" window.stop ++
    optionalParameter "period" options.period ++
    optionalParameter "maxdatapoints" options.maxDatapoints

namespace Client

def metrics (c : Client) : Session Json := do
  let metrics ← Session.getJson (c.address.metricsUrl metricsPath)
  Session.log .debug "metrics" [("metrics", metrics.line)]
  return metrics

def batchMetrics (c : Client) (window : Window) (options : BatchOptions) : Session Json := do
  let metrics ← Session.getJson (c.address.metricsUrl (batchPath window options))
  Session.log .debug "batch metrics" [("metrics", metrics.line)]
  return metrics

end Client

end AnalyzerAdmin
