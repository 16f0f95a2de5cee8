import AnalyzerAdmin.Text.Decimal
import AnalyzerAdmin.Url.Host
import AnalyzerAdmin.Url.Path

/-!
# URLs

The parts of a URL and the text in which it is shown. A port that is the scheme's own is left out,
and a name and a password before the host are shown in their escaped form.
-/

namespace AnalyzerAdmin

structure Login where
  name : String := ""
  password : Option String := none
deriving DecidableEq, Repr

def Login.render (l : Login) : String :=
  match l.password with
  | some password => l.name ++ ":" ++ password ++ "@"
  | none => if l.name = "" then "" else l.name ++ "@"

structure Authority where
  login : Login := {}
  host : Option Host := none
  port : Option Nat := none
deriving DecidableEq, Repr

def Authority.render (a : Authority) : String :=
  let host := match a.host with
    | some host => host.render
    | none => ""
  let port := match a.port with
    | some port => ":" ++ String.ofList (Decimal.ofNat port)
    | none => ""
  a.login.render ++ host ++ port

structure Url where
  scheme : String
  authority : Option Authority
  path : Path
  query : Option String := none
  fragment : Option String := none
deriving DecidableEq, Repr

namespace Url

def schemePort? : String → Option Nat
  | "http" | "ws" => some 80
  | "https" | "wss" => some 443
  | "ftp" => some 21
  | _ => none

def host? (u : Url) : Option Host := u.authority.bind (·.host)

def port? (u : Url) : Option Nat := u.authority.bind (·.port)

def portNumber? (u : Url) : Option Nat := u.port?.or (schemePort? u.scheme)

def target (u : Url) : String :=
  u.path.render ++ match u.query with
    | some query => "?" ++ query
    | none => ""

/-- Two slashes at the start of a path without an authority would be taken for one; a segment of
one dot keeps them apart. -/
def opening (u : Url) : String :=
  match u.authority, u.path with
  | some a, _ => "//" ++ a.render
  | none, .rooted ("" :: _ :: _) => "/."
  | none, _ => ""

def render (u : Url) : String :=
  u.scheme ++ ":" ++ u.opening ++ u.target ++ match u.fragment with
    | some fragment => "#" ++ fragment
    | none => ""

def withoutLogin (u : Url) : Url :=
  { u with authority := u.authority.map fun a => { a with login := {} } }

end Url

end AnalyzerAdmin
