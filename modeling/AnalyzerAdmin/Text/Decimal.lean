/-!
# Decimal numerals

Writing of natural numbers and integers, and the reading of numerals into a bounded range. The
reader goes from left to right and stops at the first character that is no digit or that takes
the value past the bound, so of two defects the one further left is reported.
-/

-- A power with a natural exponent is that of the core library, also where another is in sight.
attribute [instance (20000)] instPowNat

attribute [default_instance 20000] instPowNat

namespace AnalyzerAdmin.Decimal

def ofNat (n : Nat) : List Char := Nat.toDigits 10 n

def ofInt (i : Int) : List Char :=
  if i < 0 then '-' :: ofNat i.natAbs else ofNat i.natAbs

def digit? (c : Char) : Option Nat :=
  if '0' ≤ c ∧ c ≤ '9' then some (c.toNat - '0'.toNat) else none

def isDigit (c : Char) : Bool := (digit? c).isSome

inductive Fault
  | empty
  | badDigit
  | tooLarge
  | tooSmall
deriving DecidableEq, Repr

def Fault.message : Fault → String
  | .empty => "cannot parse integer from empty string"
  | .badDigit => "invalid digit found in string"
  | .tooLarge => "number too large to fit in target type"
  | .tooSmall => "number too small to fit in target type"

/-- Reads digits behind a numeral of value `acc`; `excess` is the fault of passing `limit`. -/
def readDigits (limit : Nat) (excess : Fault) : Nat → List Char → Except Fault Nat
  | acc, [] => .ok acc
  | acc, c :: cs =>
    match digit? c with
    | none => .error .badDigit
    | some d =>
      if limit < 10 * acc + d then .error excess else readDigits limit excess (10 * acc + d) cs

def readNat (limit : Nat) : List Char → Except Fault Nat
  | [] => .error .empty
  | ['+'] => .error .badDigit
  | '+' :: cs => readDigits limit .tooLarge 0 cs
  | cs => readDigits limit .tooLarge 0 cs

def readInt64 : List Char → Except Fault Int
  | ['-'] => .error .badDigit
  | '-' :: cs => (readDigits (2 ^ 63) .tooSmall 0 cs).map fun n => -(n : Int)
  | cs => (readNat (2 ^ 63 - 1) cs).map fun n => (n : Int)

def readUInt64 (cs : List Char) : Except Fault UInt64 :=
  (readNat (2 ^ 64 - 1) cs).map UInt64.ofNat

end AnalyzerAdmin.Decimal
