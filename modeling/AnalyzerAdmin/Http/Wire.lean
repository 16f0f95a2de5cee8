import AnalyzerAdmin.Http.Message
import AnalyzerAdmin.Text.Base64
import AnalyzerAdmin.Text.Decimal
import AnalyzerAdmin.Text.Hexadecimal

/-!
# Messages on the wire

The octets of a request, and the reading of an answer from the octets that have arrived so far.
The end of a body is known from its length, from its last chunk, or from the end of the
connection.
-/

namespace AnalyzerAdmin.Wire

def lineEnd : String := "\r\n"

def header (name value : String) : String := name ++ ": " ++ value ++ lineEnd

def authorization (r : Request) : String :=
  match r.credentials with
  | some c =>
    let text := c.name ++ ":" ++ c.password.getD ""
    header "authorization" ("Basic " ++ String.ofList (Base64.encode text.toUTF8.toList))
  | none => ""

def encode (r : Request) : ByteArray :=
  let host := (r.url.withoutLogin.authority.getD {}).render
  let body := r.body.getD ""
  let size := String.ofList (Decimal.ofNat body.utf8ByteSize)
  let content := match r.contentType with
    | some type => header "content-type" type ++ header "content-length" size
    | none => ""
  (r.method.name ++ " " ++ r.url.target ++ " HTTP/1.1" ++ lineEnd ++
    header "host" host ++ header "accept" "*/*" ++ header "connection" "close" ++
    authorization r ++ content ++ lineEnd ++ body).toUTF8

def splitLine : List UInt8 → Option (List UInt8 × List UInt8)
  | [] => none
  | 13 :: 10 :: rest => some ([], rest)
  | b :: rest => (splitLine rest).map fun p => (b :: p.1, p.2)

def ascii (octets : List UInt8) : List Char := octets.map fun b => Char.ofNat b.toNat

def plainWord (cs : List Char) : String :=
  let cs := cs.dropWhile Char.isWhitespace
  String.ofList ((cs.reverse.dropWhile Char.isWhitespace).reverse.map Char.toLower)

structure Head where
  status : Nat
  headers : List (String × String)
  rest : List UInt8

def readHeaders : Nat → List UInt8 → Option (List (String × String) × List UInt8)
  | 0, _ => none
  | size + 1, octets =>
    match splitLine octets with
    | none => none
    | some ([], rest) => some ([], rest)
    | some (line, rest) =>
      let cs := ascii line
      let name := plainWord (cs.takeWhile (· ≠ ':'))
      let value := plainWord ((cs.dropWhile (· ≠ ':')).drop 1)
      (readHeaders size rest).map fun p => ((name, value) :: p.1, p.2)

def statusOf (line : List Char) : Option Nat :=
  match Decimal.readNat 999 ((line.dropWhile (· ≠ ' ')).drop 1 |>.takeWhile (· ≠ ' ')) with
  | .ok status => some status
  | .error _ => none

def readHead (octets : List UInt8) : Option Head :=
  match splitLine octets with
  | none => none
  | some (line, rest) =>
    match readHeaders octets.length rest with
    | none => none
    | some (headers, rest) => some ⟨(statusOf (ascii line)).getD 0, headers, rest⟩

def readChunks : Nat → List UInt8 → List UInt8 × Bool
  | 0, _ => ([], false)
  | size + 1, octets =>
    match splitLine octets with
    | none => ([], false)
    | some (line, rest) =>
      let count := Hexadecimal.readLeading 0 (ascii line)
      if count = 0 then ([], true)
      else if rest.length < count + 2 then (rest.take count, false)
      else
        let (more, isLast) := readChunks size (rest.drop (count + 2))
        (rest.take count ++ more, isLast)

/-- The answer in the octets that have arrived. There is none yet while its end is not there,
unless the connection has ended. -/
def receive (octets : List UInt8) (ended : Bool) : Option Reply :=
  match readHead octets with
  | none => if ended then some (.failed .closed) else none
  | some head =>
    if Status.isBodiless head.status then some (.answer head.status [] true)
    else if head.headers.lookup "transfer-encoding" = some "chunked" then
      let (body, isLast) := readChunks octets.length head.rest
      if isLast || ended then some (.answer head.status body isLast) else none
    else match head.headers.lookup "content-length" with
      | some length =>
        let size := match Decimal.readNat (2 ^ 64) length.toList with
          | .ok n => n
          | .error _ => 0
        if size ≤ head.rest.length then some (.answer head.status (head.rest.take size) true)
        else if ended then some (.answer head.status head.rest false)
        else none
      | none => if ended then some (.answer head.status head.rest true) else none

end AnalyzerAdmin.Wire
