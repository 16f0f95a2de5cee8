import AnalyzerAdmin.Batch
import AnalyzerAdmin.Cluster
import AnalyzerAdmin.Settling

/-!
# Options and what they set

The options of the command line, the values they have been given, and what they come to: an
address, a topology and a settling. An option that was not given leaves the default.
-/

namespace AnalyzerAdmin.CommandLine

inductive Opt
  | scheme
  | host
  | port
  | metricsPort
  | timeout
  | expectedVersion
  | expectedNode
  | settle
  | pollTimeout
deriving DecidableEq, Repr

namespace Opt

def all : List Opt :=
  [.scheme, .host, .port, .metricsPort, .timeout, .expectedVersion, .expectedNode, .settle,
    .pollTimeout]

def name : Opt → String
  | .scheme => "scheme"
  | .host => "host"
  | .port => "port"
  | .metricsPort => "metrics-port"
  | .timeout => "timeout-ms"
  | .expectedVersion => "expected-version"
  | .expectedNode => "expected-node"
  | .settle => "settle-ms"
  | .pollTimeout => "poll-timeout-ms"

def placeholder : Opt → String
  | .scheme => "SCHEME"
  | .host => "HOST"
  | .port => "PORT"
  | .metricsPort => "METRICS_PORT"
  | .timeout => "TIMEOUT_MS"
  | .expectedVersion => "EXPECTED_VERSION"
  | .expectedNode => "EXPECTED_NODES"
  | .settle => "SETTLE_MS"
  | .pollTimeout => "POLL_TIMEOUT_MS"

def label (o : Opt) : String := "--" ++ o.name ++ " <" ++ o.placeholder ++ ">"

def ofName? (name : String) : Option Opt := all.find? fun o => o.name = name

def isRepeatable (o : Opt) : Bool := o = .expectedNode

end Opt

inductive ValueFault
  | numeral (fault : Decimal.Fault)
  | noPort (value : Int)
  | token (fault : TokenFault)
deriving DecidableEq, Repr

def ValueFault.message : ValueFault → String
  | .numeral fault => fault.message
  | .noPort value => String.ofList (Decimal.ofInt value) ++ " is not in 0..=65535"
  | .token fault => fault.message

inductive Stop
  | help
  | version
  | unknownArgument (arg : String)
  | unknownCommand (name : String)
  | missingValue (label : String)
  | repeated (label : String)
  | excessValue (label value : String)
  | badValue (label value : String) (fault : ValueFault)
deriving DecidableEq, Repr

inductive UsageFault
  | idlePolling
  | repeatedToken (kind : BatchOptions.Kind)
deriving DecidableEq, Repr

def UsageFault.message : UsageFault → String
  | .idlePolling => "--poll needs a non-zero --settle-ms interval"
  | .repeatedToken kind => kind.name ++ " given more than once"

structure Settings where
  scheme : Option String := none
  host : Option String := none
  port : Option UInt16 := none
  metricsPort : Option UInt16 := none
  timeout : Option UInt64 := none
  expectedVersion : Option String := none
  expectedNodes : List String := []
  settle : Option UInt64 := none
  poll : Bool := false
  pollTimeout : Option UInt64 := none
deriving DecidableEq, Repr

namespace Settings

def has (s : Settings) : Opt → Bool
  | .scheme => s.scheme.isSome
  | .host => s.host.isSome
  | .port => s.port.isSome
  | .metricsPort => s.metricsPort.isSome
  | .timeout => s.timeout.isSome
  | .expectedVersion => s.expectedVersion.isSome
  | .expectedNode => !s.expectedNodes.isEmpty
  | .settle => s.settle.isSome
  | .pollTimeout => s.pollTimeout.isSome

/-- A port: a numeral of 64 bits with a sign, which must lie in the range of ports. -/
def readPort (text : String) : Except ValueFault UInt16 :=
  match Decimal.readInt64 text.toList with
  | .error fault => .error (.numeral fault)
  | .ok n => if 0 ≤ n ∧ n < 2 ^ 16 then .ok (UInt16.ofNat n.toNat) else .error (.noPort n)

def readTime (text : String) : Except ValueFault UInt64 :=
  (Decimal.readUInt64 text.toList).mapError .numeral

def assign (s : Settings) (o : Opt) (text : String) : Except ValueFault Settings :=
  match o with
  | .scheme => .ok { s with scheme := some text }
  | .host => .ok { s with host := some text }
  | .port => (readPort text).map fun p => { s with port := some p }
  | .metricsPort => (readPort text).map fun p => { s with metricsPort := some p }
  | .timeout => (readTime text).map fun t => { s with timeout := some t }
  | .expectedVersion => .ok { s with expectedVersion := some text }
  | .expectedNode => .ok { s with expectedNodes := s.expectedNodes ++ [text] }
  | .settle => (readTime text).map fun t => { s with settle := some t }
  | .pollTimeout => (readTime text).map fun t => { s with pollTimeout := some t }

def give (s : Settings) (o : Opt) (text : String) : Except Stop Settings :=
  if s.has o && !o.isRepeatable then .error (.repeated o.label)
  else (s.assign o text).mapError (.badValue o.label text)

def givePoll (s : Settings) : Except Stop Settings :=
  if s.poll then .error (.repeated "--poll") else .ok { s with poll := true }

def overriddenBy (outer inner : Settings) : Settings where
  scheme := inner.scheme.or outer.scheme
  host := inner.host.or outer.host
  port := inner.port.or outer.port
  metricsPort := inner.metricsPort.or outer.metricsPort
  timeout := inner.timeout.or outer.timeout
  expectedVersion := inner.expectedVersion.or outer.expectedVersion
  expectedNodes := if inner.expectedNodes = [] then outer.expectedNodes else inner.expectedNodes
  settle := inner.settle.or outer.settle
  poll := inner.poll || outer.poll
  pollTimeout := inner.pollTimeout.or outer.pollTimeout

def address (s : Settings) : Address where
  scheme := s.scheme.getD "http"
  hostname := s.host.getD "localhost"
  port := s.port.getD 9200
  metricsPort := s.metricsPort.getD 9600
  timeout := s.timeout.getD 1000

def topology (s : Settings) : Topology where
  version := s.expectedVersion.getD "7.3.2"
  nodes := if s.expectedNodes = [] then ["elasticsearch1", "elasticsearch2"] else s.expectedNodes

def settling (s : Settings) : Except UsageFault Settling :=
  let interval := (s.settle.getD 100).toNat
  if !s.poll then .ok (.after interval)
  else if interval = 0 then .error .idlePolling
  else .ok (.polling interval (s.pollTimeout.getD 5000).toNat)

end Settings

def batchOptions (tokens : List BatchToken) : Except UsageFault BatchOptions :=
  (BatchOptions.ofTokens tokens).mapError .repeatedToken

end AnalyzerAdmin.CommandLine
