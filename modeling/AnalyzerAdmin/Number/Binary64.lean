import AnalyzerAdmin.Text.Decimal

/-!
# Binary floating point

The finite numbers of the 64-bit binary format, and rounding of a quotient of natural numbers to
the nearest of them. All arithmetic is exact: an operation is the exact result, rounded once.
-/

namespace AnalyzerAdmin

structure Magnitude where
  significand : Nat
  exponent : Int
deriving DecidableEq, Repr

structure Binary64 where
  negative : Bool
  magnitude : Magnitude
deriving DecidableEq, Repr

namespace Magnitude

def leastExponent : Int := -1074

def greatestExponent : Int := 971

def zero : Magnitude := ⟨0, leastExponent⟩

def num (m : Magnitude) : Nat := m.significand * 2 ^ m.exponent.toNat

def den (m : Magnitude) : Nat := 2 ^ (-m.exponent).toNat

def roundDiv (num den : Nat) : Nat :=
  let q := num / den
  let r := num % den
  if 2 * r < den ∨ (2 * r = den ∧ q % 2 = 0) then q else q + 1

def fullExponent (num den : Nat) : Int :=
  let e : Int := Nat.log2 num - Nat.log2 den - 52
  if num * 2 ^ (-e).toNat < 2 ^ 52 * (den * 2 ^ e.toNat) then e - 1 else e

def ofRatio? (num den : Nat) : Option Magnitude :=
  if num = 0 then some zero
  else
    let e := max (fullExponent num den) leastExponent
    let s := roundDiv (num * 2 ^ (-e).toNat) (den * 2 ^ e.toNat)
    let m : Magnitude := if s = 2 ^ 53 then ⟨2 ^ 52, e + 1⟩ else ⟨s, e⟩
    if greatestExponent < m.exponent then none else some m

def mul? (a b : Magnitude) : Option Magnitude := ofRatio? (a.num * b.num) (a.den * b.den)

def div? (a b : Magnitude) : Option Magnitude := ofRatio? (a.num * b.den) (a.den * b.num)

def powerOfTen (n : Nat) : Magnitude := (ofRatio? (10 ^ n) 1).getD zero

/-- A size divided by a power of ten of any exponent, in steps of at most `10 ^ 308`. Three such
steps take every 64-bit significand to zero. -/
def scaleDown : Nat → Magnitude → Nat → Magnitude
  | 0, _, _ => zero
  | steps + 1, m, n =>
    if n ≤ 308 then (m.div? (powerOfTen n)).getD zero
    else if m.significand = 0 then m
    else scaleDown steps ((m.div? (powerOfTen 308)).getD zero) (n - 308)

/-- The size of `significand · 10 ^ exponent` as a decimal numeral is read: the significand and
the power of ten are each rounded before they are combined. -/
def ofDecimal? (significand : Nat) (exponent : Int) : Option Magnitude :=
  match ofRatio? significand 1 with
  | none => none
  | some m =>
    if exponent < 0 then some (scaleDown 4 m exponent.natAbs)
    else if exponent ≤ 308 then m.mul? (powerOfTen exponent.natAbs)
    else if m.significand = 0 then some m
    else none

end Magnitude

end AnalyzerAdmin
