import AnalyzerAdmin.Number.Binary64

/-!
# Shortest decimals

The decimal of fewest digits that lies in the rounding interval of a size, and of those the one
nearest to it. For 1, 2, … 17 digits the two neighbours of the size on that decimal grid are
tried; if any point of a grid lies in the interval, so does one of these two.
-/

namespace AnalyzerAdmin.Shortest

structure Decimal where
  digits : Nat
  power : Int
deriving DecidableEq, Repr

def Decimal.num (d : Decimal) : Nat := d.digits * 10 ^ d.power.toNat

def Decimal.den (d : Decimal) : Nat := 10 ^ (-d.power).toNat

/-- The distance between two sizes is at most `steps` quarters of the unit in the last place of
`m`, and less than that unless `closed`. -/
def within (m : Magnitude) (d : Decimal) (steps : Nat) (closed : Bool) : Bool :=
  let left := m.num * d.den
  let right := d.num * m.den
  let gap := 4 * (max left right - min left right)
  let width := steps * 2 ^ m.exponent.toNat * d.den
  if closed then gap ≤ width else gap < width

/-- Whether a decimal rounds to the size `m`: half a unit on either side, but only a quarter
below a power of two, where the sizes underneath lie closer together. The ends belong to even
significands. -/
def roundsTo (m : Magnitude) (d : Decimal) : Bool :=
  let closed := m.significand % 2 = 0
  let isAbove := m.num * d.den < d.num * m.den
  let narrow := m.significand = 2 ^ 52 ∧ Magnitude.leastExponent < m.exponent
  within m d (if isAbove ∨ ¬narrow then 2 else 1) closed

def leadingPower (m : Magnitude) : Int :=
  let k : Int := (Nat.toDigits 10 m.num).length - (Nat.toDigits 10 m.den).length
  if m.num * 10 ^ (-k).toNat < m.den * 10 ^ k.toNat then k - 1 else k

def onGrid? (m : Magnitude) (power : Int) : Option Decimal :=
  let scaled := m.num * 10 ^ (-power).toNat
  let unit := m.den * 10 ^ power.toNat
  let below : Decimal := ⟨scaled / unit, power⟩
  let above : Decimal := ⟨scaled / unit + 1, power⟩
  let rest := 2 * (scaled % unit)
  let preferBelow := rest < unit ∨ (rest = unit ∧ below.digits % 2 = 0)
  match roundsTo m below, roundsTo m above with
  | true, true => some (if preferBelow then below else above)
  | true, false => some below
  | false, true => some above
  | false, false => none

def decimal (m : Magnitude) : Decimal :=
  let k := leadingPower m
  ((List.range 17).findSome? fun (n : Nat) => onGrid? m (k - n)).getD ⟨0, 0⟩

def Decimal.scientific (d : Decimal) : List Char × Int :=
  let cs := Nat.toDigits 10 d.digits
  ((cs.reverse.dropWhile (· == '0')).reverse, d.power + cs.length - 1)

end AnalyzerAdmin.Shortest
