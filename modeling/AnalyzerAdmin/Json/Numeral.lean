import AnalyzerAdmin.Json.Basic
import AnalyzerAdmin.Json.Fault
import AnalyzerAdmin.Text.Decimal

/-!
# JSON numerals

A numeral without point and exponent that fits 64 bits is a whole number; every other one, and
minus zero, is a floating-point number. The significand keeps the leading digits that fit 64
bits. Digits of the whole part behind those count as powers of ten. Digits behind the point are
taken while they fit, each right behind the digits kept so far, even if there were passed over
digits of the whole part; the first one that does not fit is dropped with all behind it.
-/

namespace AnalyzerAdmin.Json.Numeral

/-- The leading digits of a numeral: their value, the power of ten they stand at, and whether
there is no room for another one. -/
structure Significand where
  value : Nat
  power : Int
  full : Bool
deriving DecidableEq, Repr

namespace Significand

def hasRoom (s : Significand) (digit : Nat) : Bool := !s.full && s.value * 10 + digit < 2 ^ 64

def pushWhole (s : Significand) (digit : Nat) : Significand :=
  if s.hasRoom digit then { s with value := s.value * 10 + digit }
  else { s with power := s.power + 1, full := true }

/-- At the point there may be room again: digits passed over in the whole part do not keep
smaller ones behind the point from being taken. -/
def atPoint (s : Significand) : Significand := { s with full := false }

def pushPart (s : Significand) (digit : Nat) : Significand :=
  if s.hasRoom digit then { s with value := s.value * 10 + digit, power := s.power - 1 }
  else { s with full := true }

def pushAll (push : Significand → Nat → Significand) (s : Significand) (digits : List Char) :
    Significand :=
  (digits.filterMap Decimal.digit?).foldl push s

def pushPartDigits (s : Significand) (digits : List Char) : Significand :=
  s.atPoint.pushAll pushPart digits

end Significand

def digitRun (cs : List Char) : List Char := cs.takeWhile Decimal.isDigit

def afterDigits (cs : List Char) : List Char := cs.dropWhile Decimal.isDigit

/-- The value of an exponent's digits behind one of value `acc`; an exponent of `2^31` or more
is none, and what is left is then given from behind the digit that reached it. -/
def readExponent : Nat → List Char → Option Nat × List Char
  | acc, [] => (some acc, [])
  | acc, c :: cs =>
    match Decimal.digit? c with
    | none => (some acc, c :: cs)
    | some d => if 2 ^ 31 ≤ acc * 10 + d then (none, cs) else readExponent (acc * 10 + d) cs

def floating (negative : Bool) (s : Significand) (power : Int) (left : List Char) : Reading Json :=
  match Magnitude.ofDecimal? s.value power with
  | some m => .ok (.real ⟨negative, m⟩, left)
  | none => stopBefore .numberTooLarge left

def exponent (negative : Bool) (s : Significand) (cs : List Char) : Reading Json :=
  let down := cs.head? = some '-'
  let cs := match cs with
    | '+' :: r => r
    | '-' :: r => r
    | _ => cs
  match cs with
  | [] => stopAtEnd .endInValue
  | c :: _ =>
    if !Decimal.isDigit c then stopAt .invalidNumber cs
    else match readExponent 0 cs with
      | (some e, left) => floating negative s (if down then s.power - e else s.power + e) left
      | (none, left) =>
        if s.value ≠ 0 ∧ ¬down then stopBefore .numberTooLarge left
        else .ok (.real ⟨negative, .zero⟩, afterDigits left)

def part (negative : Bool) (s : Significand) (cs : List Char) : Reading Json :=
  match digitRun cs, afterDigits cs with
  | [], [] => stopAtEnd .endInValue
  | [], left => stopAt .invalidNumber left
  | digits, 'e' :: left => exponent negative (s.pushPartDigits digits) left
  | digits, 'E' :: left => exponent negative (s.pushPartDigits digits) left
  | digits, left =>
    let s := s.pushPartDigits digits
    floating negative s s.power left

def whole (negative : Bool) (s : Significand) (left : List Char) : Reading Json :=
  if s.full then floating negative s s.power left
  else if !negative then .ok (.int s.value, left)
  else if s.value = 0 ∨ 2 ^ 63 < s.value then floating true s 0 left
  else .ok (.int (-s.value), left)

def unsigned (negative : Bool) (cs : List Char) : Reading Json :=
  match cs with
  | [] => stopAtEnd .endInValue
  | c :: rest =>
    if !Decimal.isDigit c then stopAt .invalidNumber cs
    else if c = '0' ∧ rest.head?.any Decimal.isDigit then stopAt .invalidNumber rest
    else
      let s := Significand.pushAll .pushWhole ⟨0, 0, false⟩ (digitRun cs)
      match afterDigits cs with
      | '.' :: left => part negative s left
      | 'e' :: left => exponent negative s left
      | 'E' :: left => exponent negative s left
      | left => whole negative s left

def read : List Char → Reading Json
  | '-' :: cs => unsigned true cs
  | cs => unsigned false cs

end AnalyzerAdmin.Json.Numeral
