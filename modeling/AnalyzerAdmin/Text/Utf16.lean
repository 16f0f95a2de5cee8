import AnalyzerAdmin.Text.Utf8

/-!
# Forgiving UTF-16, and the text of a body

Pairs of octets to characters. A surrogate without its partner and an octet that is left over are
replaced. A body that opens with the byte order mark of UTF-16 is read in that order of octets, and
every other body as UTF-8.
-/

namespace AnalyzerAdmin.Text

namespace Utf16

def isLead (u : Nat) : Bool := 0xd800 ≤ u && u < 0xdc00

def isTrail (u : Nat) : Bool := 0xdc00 ≤ u && u < 0xe000

def paired (lead trail : Nat) : Char :=
  Char.ofNat (0x10000 + (lead - 0xd800) * 0x400 + (trail - 0xdc00))

/-- A unit without a half before it: the character it is, and the half that waits for its
partner. -/
def start (u : Nat) : List Char × Option Nat :=
  if isLead u then ([], some u)
  else if isTrail u then ([Utf8.replacement], none)
  else ([Char.ofNat u], none)

def step (waiting : Option Nat) (u : Nat) : List Char × Option Nat :=
  match waiting with
  | none => start u
  | some lead =>
    if isTrail u then ([paired lead u], none)
    else
      let (cs, next) := start u
      (Utf8.replacement :: cs, next)

def decodeFrom (unit : UInt8 → UInt8 → Nat) : Option Nat → List UInt8 → List Char
  | none, [] => []
  | some _, [] => [Utf8.replacement]
  | _, [_] => [Utf8.replacement]
  | waiting, a :: b :: rest =>
    let (cs, next) := step waiting (unit a b)
    cs ++ decodeFrom unit next rest

end Utf16

def decode : List UInt8 → String
  | 0xfe :: 0xff :: rest =>
    String.ofList (Utf16.decodeFrom (fun a b => a.toNat * 256 + b.toNat) none rest)
  | 0xff :: 0xfe :: rest =>
    String.ofList (Utf16.decodeFrom (fun a b => a.toNat + b.toNat * 256) none rest)
  | octets => Utf8.decode octets

end AnalyzerAdmin.Text
