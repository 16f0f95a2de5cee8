import AnalyzerAdmin.Text.Decimal

/-!
# Punycode

Text beyond ASCII in letters, digits and hyphens. The ASCII characters come first, and behind a
hyphen stand the others in ascending order, each as the distance from the one before: over all
characters and places where one could be put in. Distances are numerals of base 36 whose digits
have thresholds that adapt to the distances before.
-/

namespace AnalyzerAdmin.DomainName.Punycode

def digit (value : Nat) : Char :=
  if value < 26 then Char.ofNat ('a'.toNat + value) else Char.ofNat ('0'.toNat + (value - 26))

def value? (c : Char) : Option Nat :=
  if 'a' ≤ c ∧ c ≤ 'z' then some (c.toNat - 'a'.toNat)
  else if 'A' ≤ c ∧ c ≤ 'Z' then some (c.toNat - 'A'.toNat)
  else (Decimal.digit? c).map (· + 26)

/-- The threshold of the digit at a place, counted in steps of 36. A digit below it is the last. -/
def threshold (place bias : Nat) : Nat := max 1 (min 26 (place - bias))

theorem one_le_threshold (place bias : Nat) : 1 ≤ threshold place bias := by
  unfold threshold; omega

def biasOf (delta place : Nat) : Nat :=
  if 455 < delta then biasOf (delta / 35) (place + 36) else place + 36 * delta / (delta + 38)
termination_by delta

def adapt (delta length : Nat) (isFirst : Bool) : Nat :=
  let delta := if isFirst then delta / 700 else delta / 2
  biasOf (delta + delta / length) 0

def numeral (bias place delta : Nat) : List Char :=
  let t := threshold place bias
  if delta < t then [digit delta]
  else digit (t + (delta - t) % (36 - t)) :: numeral bias (place + 36) ((delta - t) / (36 - t))
termination_by delta
decreasing_by
  have := one_le_threshold place bias
  have := Nat.div_le_self (delta - threshold place bias) (36 - threshold place bias)
  omega

/-- How far the writing of a text has come: what is written, the distance since, the bias, and how
many characters are done. -/
structure Progress where
  written : List Char
  delta : Nat
  bias : Nat
  done : Nat
deriving DecidableEq, Repr

def Progress.pass (basic code : Nat) (p : Progress) (c : Char) : Progress :=
  if c.toNat < code then { p with delta := p.delta + 1 }
  else if c.toNat = code then
    ⟨p.written ++ numeral p.bias 36 p.delta, 0,
      adapt p.delta (p.done + 1) (p.done == basic), p.done + 1⟩
  else p

def Progress.write (text : List Char) (basic : Nat) : List Nat → Nat → Progress → Progress
  | [], _, p => p
  | code :: codes, next, p =>
    let p := { p with delta := p.delta + (code - next) * (p.done + 1) }
    let p := text.foldl (Progress.pass basic code) p
    Progress.write text basic codes (code + 1) { p with delta := p.delta + 1 }

def isBasic (c : Char) : Bool := c.toNat < 0x80

def encode (text : List Char) : List Char :=
  let basic := text.filter isBasic
  let codes := (((text.filter (!isBasic ·)).map Char.toNat).eraseDups).mergeSort (· ≤ ·)
  let p := Progress.write text basic.length codes 0x80 ⟨[], 0, 72, basic.length⟩
  (if basic.isEmpty then [] else basic ++ ['-']) ++ p.written

def limit : Nat := 2 ^ 32

def readNumeral (bias : Nat) : Nat → Nat → Nat → List Char → Option (Nat × List Char)
  | _, _, _, [] => none
  | place, weight, sum, c :: cs =>
    match value? c with
    | none => none
    | some v =>
      let t := threshold place bias
      let sum := sum + v * weight
      if limit ≤ sum then none
      else if v < t then some (sum, cs)
      else if limit ≤ weight * (36 - t) then none
      else readNumeral bias (place + 36) (weight * (36 - t)) sum cs

theorem length_of_readNumeral {bias : Nat} {cs : List Char} : ∀ {place weight sum : Nat}
    {r : Nat × List Char}, readNumeral bias place weight sum cs = some r →
    r.2.length < cs.length := by
  induction cs with
  | nil => simp [readNumeral]
  | cons c cs ih =>
    intro place weight sum r h
    simp only [readNumeral] at h
    split at h
    · simp at h
    · split at h
      · simp at h
      · split at h
        · obtain rfl := Option.some.inj h
          simp
        · split at h
          · simp at h
          · have := ih h
            simp only [List.length_cons]
            omega

def char? (code : Nat) : Option Char := if code.isValidChar then some (Char.ofNat code) else none

/-- Puts the characters of the distances into a text. The distance so far, `index`, is counted from
the start of the text before the first character of the code `code` was put in. -/
def insertAll (bias code index : Nat) (text : List Char) (cs : List Char) :
    Option (List Char) :=
  match cs with
  | [] => some text
  | c :: rest =>
    match h : readNumeral bias 36 1 index (c :: rest) with
    | none => none
    | some (sum, rest) =>
      have := length_of_readNumeral h
      let places := text.length + 1
      match char? (code + sum / places) with
      | none => none
      | some new =>
        insertAll (adapt (sum - index) places (index == 0)) (code + sum / places)
          (sum % places + 1) (text.insertIdx (sum % places) new) rest
termination_by cs.length
decreasing_by exact this

def decode (cs : List Char) : Option (List Char) :=
  let extended := (cs.reverse.takeWhile (· ≠ '-')).reverse
  let basic := cs.take (cs.length - extended.length - 1)
  insertAll 72 0x80 0 (basic.map Char.toLower) (if basic.isEmpty then cs else extended)

end AnalyzerAdmin.DomainName.Punycode
