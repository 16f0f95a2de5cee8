import AnalyzerAdmin.Cluster
import AnalyzerAdmin.Settling
import AnalyzerAdmin.Text.Utf16
import AnalyzerAdmin.Url.Reader

/-!
# Asking a cluster

A client is an address and the expected topology. Its operations are sessions: dialogues of
requests and replies that stop at the first failure. A rejected request fails with its status,
and the body of an answer is looked at only where it is needed.
-/

namespace AnalyzerAdmin

structure Client where
  address : Address := {}
  topology : Topology := {}
deriving DecidableEq, Repr

abbrev Session (α : Type) := ExceptT Failure (Dialogue Request Reply) α

namespace Session

variable {α : Type}

def log (level : Log.Level) (message : String) (values : List (String × String)) :
    Session Unit :=
  ExceptT.lift (Dialogue.log level message values)

def ofExcept (result : Except Failure α) : Session α := ExceptT.mk (pure result)

def maxUrlSize : Nat := 65534

def isAwkward (c : Char) : Bool := ['"', '`', '\x7b', '\x7d'].contains c

def isUsable (url : Url) : Bool :=
  url.render.utf8ByteSize ≤ maxUrlSize &&
    match url.host? with
    | some (.name text) => !text.toList.any isAwkward
    | _ => true

/-- Name and password of a URL in plain text. There is neither if the name is no text, or if both
are missing. -/
def credentials? (url : Url) : Option Credentials := do
  let login ← url.authority.map (·.login)
  let plain (text : String) : Option String :=
    String.fromUTF8? ⟨(Percent.decode text.toList).toArray⟩
  let name ← plain login.name
  let password := login.password.bind plain
  guard (name ≠ "" ∨ password.isSome)
  return ⟨name, password⟩

/-- The URL of a request that can be made, and who makes it. The URL no longer names the one who
asks. -/
def checkUrl (text : String) : Except HttpError (Url × Option Credentials) :=
  match Url.read text with
  | .error fault => .error (.badUrl fault)
  | .ok url =>
    if url.host?.isNone then .error (.badScheme url.render)
    else
      let credentials := credentials? url
      let url := if credentials.isSome then url.withoutLogin else url
      if url.scheme ≠ "http" ∧ url.scheme ≠ "https" then .error (.badScheme url.render)
      else if isUsable url then .ok (url, credentials)
      else .error (.badAddress url.render)

def answer (url : Url) : Reply → Except HttpError (List UInt8 × Bool)
  | .failed fault => .error (.unsent url.render fault)
  | .answer status body complete =>
    if Status.isRejection status then .error (.rejected status url.render)
    else if Status.isBodiless status then .ok ([], true)
    else .ok (body, complete)

def request (method : Method) (url : String) (body : Option String) :
    Session (List UInt8 × Bool) := do
  let (url, credentials) ← ofExcept ((checkUrl url).mapError .http)
  let reply ← ExceptT.lift (Dialogue.question ⟨method, url, body, credentials⟩)
  ofExcept ((answer url reply).mapError .http)

def getText (url : String) : Session String := do
  log .debug "GET" [("url", url)]
  let (body, complete) ← request .get url none
  if complete then return Text.decode body
  else throw (.http .brokenBody)

def getJson (url : String) : Session Json := do
  let text ← getText url
  ofExcept ((Json.read text).mapError fun error => .body (.json error))

end Session

end AnalyzerAdmin
