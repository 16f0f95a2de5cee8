import AnalyzerAdmin.Text.Decimal

/-!
# Batch metrics

The window of time that a request for batch metrics covers, its optional parameters, and the
tokens in which users write them.
-/

namespace AnalyzerAdmin

/-- A window of time, both ends in milliseconds since the epoch. -/
structure Window where
  start : UInt64
  stop : UInt64
deriving DecidableEq, Repr

namespace Window

def milliseconds (nanoseconds : Nat) : UInt64 := UInt64.ofNat (nanoseconds / 1000000)

/-- The window of length `span` that ends `now`, both in nanoseconds. Nothing lies before the
epoch. -/
def ending (now : Int) (span : Nat) : Window :=
  let stop := milliseconds now.toNat
  let length := milliseconds span
  ⟨if length ≤ stop then stop - length else 0, stop⟩

def length : Nat := 180 * 1000000000

end Window

structure BatchOptions where
  period : Option UInt64 := none
  maxDatapoints : Option UInt64 := none
deriving DecidableEq, Repr

inductive BatchToken
  | period (value : UInt64)
  | maxDatapoints (value : UInt64)
deriving DecidableEq, Repr

inductive TokenFault
  | noValue (token : String)
  | badValue (value : String)
  | unknownName (name : String)
deriving DecidableEq, Repr

def TokenFault.message : TokenFault → String
  | .noValue token => "expected period=N or maxdatapoints=N, got '" ++ token ++ "'"
  | .badValue value => "'" ++ value ++ "' is not a non-negative integer"
  | .unknownName name => "unknown batch option '" ++ name ++ "'"

namespace BatchToken

/-- Reads `period=N` or `maxdatapoints=N`. The name ends at the first equals sign, and the value
is looked at before the name. -/
def read (text : String) : Except TokenFault BatchToken :=
  let name := text.toList.takeWhile (· ≠ '=')
  match text.toList.dropWhile (· ≠ '=') with
  | [] => .error (.noValue text)
  | _ :: value =>
    match Decimal.readUInt64 value with
    | .error _ => .error (.badValue (String.ofList value))
    | .ok n =>
      match String.ofList name with
      | "period" => .ok (.period n)
      | "maxdatapoints" => .ok (.maxDatapoints n)
      | other => .error (.unknownName other)

def render : BatchToken → String
  | .period n => "period=" ++ String.ofList (Decimal.ofNat n.toNat)
  | .maxDatapoints n => "maxdatapoints=" ++ String.ofList (Decimal.ofNat n.toNat)

def describe : BatchToken → String
  | .period n => "Period(" ++ String.ofList (Decimal.ofNat n.toNat) ++ ")"
  | .maxDatapoints n => "MaxDatapoints(" ++ String.ofList (Decimal.ofNat n.toNat) ++ ")"

end BatchToken

namespace BatchOptions

inductive Kind
  | period
  | maxDatapoints
deriving DecidableEq, Repr

def Kind.name : Kind → String
  | .period => "period"
  | .maxDatapoints => "maxdatapoints"

def addAll : BatchOptions → List BatchToken → Except Kind BatchOptions
  | o, [] => .ok o
  | o, .period n :: rest =>
    if o.period.isSome then .error .period else addAll { o with period := some n } rest
  | o, .maxDatapoints n :: rest =>
    if o.maxDatapoints.isSome then .error .maxDatapoints
    else addAll { o with maxDatapoints := some n } rest

def ofTokens (tokens : List BatchToken) : Except Kind BatchOptions := addAll {} tokens

end BatchOptions

end AnalyzerAdmin
