import AnalyzerAdmin.Dialogue
import AnalyzerAdmin.Url.Basic

/-!
# Requests and replies

What a client sends, what becomes of it, and the classes of status codes: codes from 400 to 599
reject a request, and every other code is taken for success.
-/

namespace AnalyzerAdmin

inductive Method
  | get
  | post
deriving DecidableEq, Repr

def Method.name : Method → String
  | .get => "GET"
  | .post => "POST"

structure Credentials where
  name : String
  password : Option String
deriving DecidableEq, Repr

structure Request where
  method : Method
  url : Url
  body : Option String := none
  credentials : Option Credentials := none
deriving DecidableEq, Repr

def Request.contentType (r : Request) : Option String := r.body.map fun _ => "application/json"

inductive SendFault
  | unresolved
  | unreachable
  | refused
  | closed
  | timedOut
deriving DecidableEq, Repr

/-- What becomes of a request. The body of an answer is complete, or breaks off before its
announced end. -/
inductive Reply
  | answer (status : Nat) (body : List UInt8) (complete : Bool)
  | failed (fault : SendFault)
deriving DecidableEq, Repr

def Reply.arrived : Reply → Bool
  | .failed .unresolved => false
  | .failed .unreachable => false
  | .failed .refused => false
  | _ => true

abbrev Server := Peer Request Reply

def thisMachine : String := "localhost"

def Server.offline : Server := fun _ r =>
  match r.url.host? with
  | some (.name text) => .failed (if text = thisMachine then .unreachable else .unresolved)
  | _ => .failed .unreachable

namespace Status

def isClientError (code : Nat) : Bool := 400 ≤ code && code < 500

def isServerError (code : Nat) : Bool := 500 ≤ code && code < 600

def isRejection (code : Nat) : Bool := isClientError code || isServerError code

def isBodiless (code : Nat) : Bool := (100 ≤ code && code < 200) || code = 204 || code = 304

def reason : Nat → String
  | 400 => "Bad Request"
  | 401 => "Unauthorized"
  | 402 => "Payment Required"
  | 403 => "Forbidden"
  | 404 => "Not Found"
  | 405 => "Method Not Allowed"
  | 406 => "Not Acceptable"
  | 407 => "Proxy Authentication Required"
  | 408 => "Request Timeout"
  | 409 => "Conflict"
  | 410 => "Gone"
  | 411 => "Length Required"
  | 412 => "Precondition Failed"
  | 413 => "Payload Too Large"
  | 414 => "URI Too Long"
  | 415 => "Unsupported Media Type"
  | 416 => "Range Not Satisfiable"
  | 417 => "Expectation Failed"
  | 418 => "I'm a teapot"
  | 421 => "Misdirected Request"
  | 422 => "Unprocessable Entity"
  | 423 => "Locked"
  | 424 => "Failed Dependency"
  | 425 => "Too Early"
  | 426 => "Upgrade Required"
  | 428 => "Precondition Required"
  | 429 => "Too Many Requests"
  | 431 => "Request Header Fields Too Large"
  | 451 => "Unavailable For Legal Reasons"
  | 500 => "Internal Server Error"
  | 501 => "Not Implemented"
  | 502 => "Bad Gateway"
  | 503 => "Service Unavailable"
  | 504 => "Gateway Timeout"
  | 505 => "HTTP Version Not Supported"
  | 506 => "Variant Also Negotiates"
  | 507 => "Insufficient Storage"
  | 508 => "Loop Detected"
  | 510 => "Not Extended"
  | 511 => "Network Authentication Required"
  | _ => "<unknown status code>"

end Status

end AnalyzerAdmin
