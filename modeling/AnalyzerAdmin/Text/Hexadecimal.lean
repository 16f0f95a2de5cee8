/-!
# Hexadecimal digits

The values of digits in either case, and of the digits that a text starts with; writing uses
capitals for octets and small letters for numbers.
-/

namespace AnalyzerAdmin.Hexadecimal

def digit? (c : Char) : Option Nat :=
  if '0' ≤ c ∧ c ≤ '9' then some (c.toNat - '0'.toNat)
  else if 'a' ≤ c ∧ c ≤ 'f' then some (c.toNat - 'a'.toNat + 10)
  else if 'A' ≤ c ∧ c ≤ 'F' then some (c.toNat - 'A'.toNat + 10)
  else none

def capitalDigit (value : Nat) : Char :=
  if value < 10 then Char.ofNat ('0'.toNat + value) else Char.ofNat ('A'.toNat + (value - 10))

def ofOctet (octet : UInt8) : List Char :=
  [capitalDigit (octet.toNat / 16), capitalDigit (octet.toNat % 16)]

def ofNat (n : Nat) : List Char := Nat.toDigits 16 n

def readLeading : Nat → List Char → Nat
  | acc, [] => acc
  | acc, c :: cs =>
    match digit? c with
    | some d => readLeading (16 * acc + d) cs
    | none => acc

end AnalyzerAdmin.Hexadecimal
