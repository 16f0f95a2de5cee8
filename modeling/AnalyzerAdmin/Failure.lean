import AnalyzerAdmin.Http.Message
import AnalyzerAdmin.State.Body
import AnalyzerAdmin.Text.Decimal

/-!
# How an operation fails

The failures of client operations, the text of each, and the chain of causes below it. The text
of a failure repeats that of its cause, and the causes follow one by one.
-/

namespace AnalyzerAdmin

inductive HttpError
  | badUrl (fault : UrlFault)
  | badScheme (url : String)
  | badAddress (url : String)
  | unsent (url : String) (fault : SendFault)
  | rejected (status : Nat) (url : String)
  | brokenBody
deriving DecidableEq, Repr

namespace HttpError

def message : HttpError → String
  | .badUrl _ => "builder error"
  | .badScheme url => "builder error for url (" ++ url ++ ")"
  | .badAddress url => "builder error for url (" ++ url ++ ")"
  | .unsent url _ => "error sending request for url (" ++ url ++ ")"
  | .rejected status url =>
    "HTTP status " ++ (if Status.isClientError status then "client" else "server") ++
      " error (" ++ String.ofList (Decimal.ofNat status) ++ " " ++ Status.reason status ++
      ") for url (" ++ url ++ ")"
  | .brokenBody => "error decoding response body"

def causes : HttpError → List String
  | .badUrl fault => [fault.message]
  | .badScheme _ => ["URL scheme is not allowed"]
  | .badAddress _ => ["Parsed Url is not a valid Uri"]
  | .unsent _ .unresolved =>
    ["client error (Connect)", "dns error",
      "failed to lookup address information: Temporary failure in name resolution"]
  | .unsent _ .unreachable =>
    ["client error (Connect)", "tcp connect error", "Network is unreachable (os error 101)"]
  | .unsent _ .refused =>
    ["client error (Connect)", "tcp connect error", "Connection refused (os error 111)"]
  | .unsent _ .closed =>
    ["client error (SendRequest)", "connection closed before message completed"]
  | .unsent _ .timedOut => ["operation timed out"]
  | .rejected _ _ => []
  | .brokenBody =>
    ["request or response body error", "error reading a body from connection",
      "end of file before message length reached"]

end HttpError

inductive Mismatch
  | version (expected actual : String)
  | unexpectedNode (name : String)
  | missingNode (name : String)
  | missingPlugin (name : String)
deriving DecidableEq, Repr

def Mismatch.message : Mismatch → String
  | .version expected actual =>
    "version mismatch: expected " ++ expected ++ ", cluster reports " ++ actual
  | .unexpectedNode name => "unexpected node '" ++ name ++ "' answered the root request"
  | .missingNode name => "node '" ++ name ++ "' missing from _cat/nodes"
  | .missingPlugin name => "performance analyzer plugin missing on node '" ++ name ++ "'"

/-- A span of milliseconds in seconds, or below one second in milliseconds; nothing at all is
counted in nanoseconds. -/
def renderSpan (time : Nat) : String :=
  if time = 0 then "0ns"
  else if time < 1000 then String.ofList (Decimal.ofNat time ++ ['m', 's'])
  else
    let thousandths := Decimal.ofNat (1000 + time % 1000)
    let part := (thousandths.tail.reverse.dropWhile (· == '0')).reverse
    let point := if part = [] then [] else '.' :: part
    String.ofList (Decimal.ofNat (time / 1000) ++ point ++ ['s'])

inductive Failure
  | body (error : BodyError)
  | unknownFeature (key : String)
  | http (error : HttpError)
  | mismatch (check : Mismatch)
  | notConverged (waited : Nat) (last : State)
deriving DecidableEq, Repr

namespace Failure

def message : Failure → String
  | .body error => "decode error: " ++ error.message
  | .unknownFeature key => "unknown feature '" ++ key ++ "'"
  | .http error => "http error: " ++ error.message
  | .mismatch check => "cluster config mismatch: " ++ check.message
  | .notConverged waited last =>
    "state did not converge within " ++ renderSpan waited ++ ", last observed " ++ last.render

def causes : Failure → List String
  | .body (.json error) => [(BodyError.json error).message, error.message]
  | .body error => [error.message]
  | .unknownFeature _ => []
  | .http error => error.message :: error.causes
  | .mismatch check => [check.message]
  | .notConverged _ _ => []

def status? : Failure → Option Nat
  | .http (.rejected status _) => some status
  | _ => none

def isTimeout : Failure → Bool
  | .http (.unsent _ .timedOut) => true
  | _ => false

end Failure

def Feature.ofKey (key : String) : Except Failure Feature :=
  match Feature.ofKey? key with
  | some f => .ok f
  | none => .error (.unknownFeature key)

def State.set (s : State) (key : String) (value : Setting) : Except Failure State :=
  match Feature.ofKey? key, value with
  | some f, .flag on => .ok (s.turn f on)
  | some _, .count _ => .error (.body (.wrongType key .boolean))
  | none, value =>
    match Attribute.ofKey? key, value with
    | some a, .count n => .ok (s.setCount a n)
    | some _, .flag _ => .error (.body (.wrongType key .integer))
    | none, _ => .error (.unknownFeature key)

end AnalyzerAdmin
