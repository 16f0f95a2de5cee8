import AnalyzerAdmin.Url.Basic

/-!
# Reading URLs

A text is read part by part: scheme, authority, path, query and fragment. The schemes of the web
need a host and take a backslash for a slash; files may have a host or start at a drive; any other
scheme has an authority only behind two slashes, and a plain text where there is no slash at all.
-/

namespace AnalyzerAdmin.Url

inductive Kind
  | web
  | file
  | other
deriving DecidableEq, Repr

def Kind.ofScheme (scheme : String) : Kind :=
  if scheme = "file" then .file
  else if (schemePort? scheme).isSome then .web
  else .other

def trim (text : String) : List Char :=
  let isBlank (c : Char) : Bool := c.toNat ≤ 0x20
  ((text.toList.dropWhile isBlank).reverse.dropWhile isBlank).reverse

def isSchemeChar (c : Char) : Bool := c.isAlphanum || c = '+' || c = '-' || c = '.'

def scheme? (cs : List Char) : Option (String × List Char) :=
  match Path.dropIgnored (cs.takeWhile (· ≠ ':')), cs.dropWhile (· ≠ ':') with
  | c :: name, _ :: rest =>
    if c.isAlpha && name.all isSchemeChar then
      some (String.ofList ((c :: name).map Char.toLower), rest)
    else none
  | _, _ => none

def Kind.isSlash (kind : Kind) (c : Char) : Bool := c = '/' || (kind ≠ .other && c = '\\')

def Kind.endsAuthority (kind : Kind) (c : Char) : Bool :=
  kind.isSlash c || c = '?' || c = '#'

def splitLogin (cs : List Char) : Option (List Char) × List Char :=
  let host := (cs.reverse.takeWhile (· ≠ '@')).reverse
  if host.length = cs.length then (none, cs)
  else (some (cs.take (cs.length - host.length - 1)), host)

def readLogin (cs : List Char) : Login :=
  let encode (cs : List Char) : String := String.ofList (Percent.encode Percent.inLogin cs)
  match cs.takeWhile (· ≠ ':'), (cs.dropWhile (· ≠ ':')).drop 1 with
  | name, [] => ⟨encode name, none⟩
  | name, password => ⟨encode name, some (encode password)⟩

def splitHost (inBrackets : Bool) : List Char → List Char × List Char
  | [] => ([], [])
  | c :: cs =>
    if c = ':' ∧ !inBrackets then ([], c :: cs)
    else
      let (host, rest) := splitHost (c = '[' || (inBrackets && c ≠ ']')) cs
      (c :: host, rest)

/-- A port behind its colon, and what follows the authority. The scheme's own port and no digits at
all are no port. -/
def readPort (scheme : String) : List Char → Except UrlFault (Option Nat × List Char)
  | ':' :: cs =>
    let port := Nat.ofDigitChars 10 (cs.takeWhile Char.isDigit) 0
    let rest := cs.dropWhile Char.isDigit
    if 2 ^ 16 ≤ port ∨ !(rest.head?.all (· = '\\')) then .error .badPort
    else if cs.head?.any Char.isDigit ∧ schemePort? scheme ≠ some port then .ok (some port, rest)
    else .ok (none, rest)
  | cs => .ok (none, cs)

def Kind.readHost (kind : Kind) (cs : List Char) : Except UrlFault (Option Host) :=
  match kind, cs with
  | .other, [] => .ok none
  | .other, cs => (Host.readVerbatim cs).map some
  | _, cs => (Host.read cs).map some

def readAuthority (kind : Kind) (scheme : String) (cs rest : List Char) :
    Except UrlFault (Authority × List Char) := do
  let (user, address) := splitLogin cs
  if user = some [] ∧ address = [] ∧ rest ≠ [] then throw .emptyHost
  let login := readLogin (user.getD [])
  let (hostText, portText) := splitHost false address
  let host ← kind.readHost hostText
  if host = none ∧ portText ≠ [] then throw .emptyHost
  let (port, behind) ← readPort scheme portText
  if host = none ∧ login ≠ {} then throw .emptyHost
  return (⟨login, host, port⟩, behind ++ rest)

def splitTarget (cs : List Char) : List Char × Option (List Char) × Option (List Char) :=
  let body := cs.takeWhile (· ≠ '#')
  let path := body.takeWhile (· ≠ '?')
  let part (cs : List Char) : Option (List Char) := if cs = [] then none else some (cs.drop 1)
  (path, part (body.drop path.length), part (cs.drop body.length))

def assemble (kind : Kind) (scheme : String) (authority : Option Authority)
    (readPath : List Char → Path) (cs : List Char) : Url :=
  let (path, query, fragment) := splitTarget cs
  let encode (isEscaped : Char → Bool) (cs : List Char) : String :=
    String.ofList (Percent.encode isEscaped (Path.dropIgnored cs))
  { scheme, authority, path := readPath path
    query := query.map (encode (Percent.inQuery (kind ≠ .other)))
    fragment := fragment.map (encode Percent.inFragment) }

def Kind.readPath (kind : Kind) (cs : List Char) : Path :=
  Path.ofSegments (Path.read false [] kind.isSlash cs)

def readHosted (kind : Kind) (scheme : String) (cs : List Char) : Except UrlFault Url := do
  let text := cs.takeWhile (!kind.endsAuthority ·)
  let (authority, rest) ← readAuthority kind scheme text (cs.drop text.length)
  let readPath (cs : List Char) : Path :=
    if kind = .other ∧ cs = [] then .rooted [] else kind.readPath cs
  return assemble kind scheme (some authority) readPath rest

def readOther (scheme : String) : List Char → Except UrlFault Url
  | '/' :: '/' :: cs => readHosted .other scheme cs
  | '/' :: cs => .ok (assemble .other scheme none (Kind.readPath .other) ('/' :: cs))
  | cs =>
    let readPath (cs : List Char) : Path :=
      .plain (String.ofList (Percent.encode Percent.isControl cs))
    .ok (assemble .other scheme none readPath cs)

def readFileHost (cs : List Char) : Except UrlFault (Option Host) :=
  if cs = [] then .ok none
  else (Host.read cs).map fun host => if host = .name "localhost" then none else some host

/-- A file. Its path stands behind the segments in `done`, and empty ones at its start are left out.
A drive is on no host. -/
def assembleFile (host : Option Host) (done : List Path.Segment) (cs : List Char) : Url :=
  let segments := Path.read true done (Kind.isSlash .file) (splitTarget cs).1
  let startsAtDrive := segments.head?.any Path.Segment.isDrive
  assemble .file "file" (some { host := if startsAtDrive then none else host })
    (fun _ => Path.ofSegments (Path.dropEmpty segments)) cs

def behindSlash? (cs : List Char) : Option (List Char) :=
  match cs.dropWhile Path.isIgnored with
  | c :: rest => if Kind.isSlash .file c then some rest else none
  | [] => none

/-- Reads what stands behind the scheme of files. The host stands behind two slashes. Where it is
missing, an empty segment stands in its place, so that the path does not start at a drive. -/
def readFile (cs : List Char) : Except UrlFault Url :=
  match (behindSlash? cs).bind behindSlash? with
  | none => .ok (assembleFile none [] cs)
  | some rest =>
    let text := rest.takeWhile (!Kind.endsAuthority .file ·)
    let name := Path.dropIgnored text
    if Path.isDrive name then .ok (assembleFile none [] rest)
    else (readFileHost name).map fun host =>
      assembleFile host (if host.isNone then [.name []] else []) (rest.drop text.length)

/-- Reads a URL. Only the path of a file depends on where ignored characters stand. -/
def read (text : String) : Except UrlFault Url :=
  match scheme? (trim text) with
  | none => .error .noScheme
  | some (scheme, rest) =>
    match Kind.ofScheme scheme with
    | .web => readHosted .web scheme ((Path.dropIgnored rest).dropWhile (Kind.isSlash .web))
    | .file => readFile rest
    | .other => readOther scheme (Path.dropIgnored rest)

end AnalyzerAdmin.Url
