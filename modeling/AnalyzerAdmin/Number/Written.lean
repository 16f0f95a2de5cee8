import AnalyzerAdmin.Number.Shortest

/-!
# Written form of floating-point numbers

Which of the shortest decimals are written out in full, and how the others carry their exponent.
-/

namespace AnalyzerAdmin

/-- Choices of a written form. Leading powers from `least` to `greatest` are written out in
full, with `wholeMark` behind a whole number; other decimals have an exponent behind
`exponentMark`, with `plus` before one that is not negative. -/
structure NumberStyle where
  least : Int
  greatest : Int
  wholeMark : List Char
  exponentMark : Char
  plus : List Char

namespace NumberStyle

def positional (style : NumberStyle) (digits : List Char) (power : Int) : List Char :=
  if power < 0 then '0' :: '.' :: (List.replicate (power.natAbs - 1) '0' ++ digits)
  else
    let places := power.toNat + 1
    let whole := digits.take places ++ List.replicate (places - digits.length) '0'
    match digits.drop places with
    | [] => whole ++ style.wholeMark
    | part => whole ++ '.' :: part

def scientific (style : NumberStyle) (digits : List Char) (power : Int) : List Char :=
  let mantissa := match digits with
    | first :: part@(_ :: _) => first :: '.' :: part
    | _ => digits
  let sign := if power < 0 then ['-'] else style.plus
  mantissa ++ style.exponentMark :: sign ++ Nat.toDigits 10 power.natAbs

def write (style : NumberStyle) (x : Binary64) : List Char :=
  let size :=
    if x.magnitude.significand = 0 then '0' :: style.wholeMark
    else
      let (digits, power) := (Shortest.decimal x.magnitude).scientific
      if style.least ≤ power ∧ power ≤ style.greatest then style.positional digits power
      else style.scientific digits power
  if x.negative then '-' :: size else size

end NumberStyle

end AnalyzerAdmin
