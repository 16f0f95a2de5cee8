import AnalyzerAdmin.Text.Decimal
import AnalyzerAdmin.Text.Hexadecimal

/-!
# IPv4 addresses

An address is up to four numbers with dots between them. The last number fills all the octets that
the others leave, and each number may be decimal, octal behind a zero, or hexadecimal behind `0x`.
Four decimal numbers are written.
-/

namespace AnalyzerAdmin

structure Ipv4 where
  bits : UInt32
deriving DecidableEq, Repr

namespace Ipv4

def octets (a : Ipv4) : List Nat :=
  let n := a.bits.toNat
  [n / 2 ^ 24, n / 2 ^ 16 % 256, n / 2 ^ 8 % 256, n % 256]

def render (a : Ipv4) : String :=
  String.ofList (['.'].intercalate (a.octets.map Decimal.ofNat))

def readDigits? (base : Nat) (cs : List Char) : Option Nat :=
  cs.foldlM (fun acc c => do
    let d ← Hexadecimal.digit? c
    guard (d < base)
    return base * acc + d) 0

def readNumber? : List Char → Option Nat
  | [] => none
  | '0' :: c :: cs =>
    if c = 'x' ∨ c = 'X' then readDigits? 16 cs else readDigits? 8 (c :: cs)
  | cs => readDigits? 10 cs

def parts (name : List Char) : List (List Char) :=
  let parts := name.splitOn '.'
  if 1 < parts.length ∧ parts.getLast? = some [] then parts.dropLast else parts

/-- Whether a name has to be an address: its last part is a number. -/
def isDue (name : List Char) : Bool :=
  match (parts name).getLast? with
  | some part => (part ≠ [] && part.all Decimal.isDigit) || (readNumber? part).isSome
  | none => false

def ofNumbers? (numbers : List Nat) : Option Ipv4 :=
  match numbers.reverse with
  | [] => none
  | last :: others =>
    if 3 < others.length ∨ others.any (256 ≤ ·) ∨ 256 ^ (4 - others.length) ≤ last then none
    else
      let high := others.reverse.foldl (fun acc n => 256 * acc + n) 0
      some ⟨UInt32.ofNat (high * 256 ^ (4 - others.length) + last)⟩

def read? (name : List Char) : Option Ipv4 := do
  ofNumbers? (← (parts name).mapM readNumber?)

end Ipv4

end AnalyzerAdmin
