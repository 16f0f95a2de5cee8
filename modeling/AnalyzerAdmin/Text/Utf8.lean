/-!
# Forgiving UTF-8

Octets to characters. An octet that cannot continue the sequence before it ends that sequence,
and every maximal broken sequence becomes one replacement character, so decoding never fails.
-/

namespace AnalyzerAdmin.Text.Utf8

def replacement : Char := '\ufffd'

def byteOrderMark : Char := '\ufeff'

/-- A sequence that has begun: the octets it still lacks, its bits so far, and the least and
the greatest octet that may come next. -/
structure Partial where
  lacking : Nat
  bits : Nat
  low : Nat
  high : Nat
deriving DecidableEq, Repr

def lead (b : Nat) : Char ⊕ Option Partial :=
  if b < 0x80 then .inl (Char.ofNat b)
  else if 0xc2 ≤ b ∧ b ≤ 0xdf then .inr (some ⟨1, b - 0xc0, 0x80, 0xbf⟩)
  else if b = 0xe0 then .inr (some ⟨2, 0, 0xa0, 0xbf⟩)
  else if b = 0xed then .inr (some ⟨2, 0xd, 0x80, 0x9f⟩)
  else if 0xe1 ≤ b ∧ b ≤ 0xef then .inr (some ⟨2, b - 0xe0, 0x80, 0xbf⟩)
  else if b = 0xf0 then .inr (some ⟨3, 0, 0x90, 0xbf⟩)
  else if 0xf1 ≤ b ∧ b ≤ 0xf3 then .inr (some ⟨3, b - 0xf0, 0x80, 0xbf⟩)
  else if b = 0xf4 then .inr (some ⟨3, 4, 0x80, 0x8f⟩)
  else .inr none

def start (b : Nat) : List Char × Option Partial :=
  match lead b with
  | .inl c => ([c], none)
  | .inr (some p) => ([], some p)
  | .inr none => ([replacement], none)

def step (p : Option Partial) (b : Nat) : List Char × Option Partial :=
  match p with
  | none => start b
  | some p =>
    if p.low ≤ b ∧ b ≤ p.high then
      let bits := p.bits * 64 + (b - 0x80)
      if p.lacking ≤ 1 then ([Char.ofNat bits], none)
      else ([], some ⟨p.lacking - 1, bits, 0x80, 0xbf⟩)
    else
      let (cs, q) := start b
      (replacement :: cs, q)

def decodeFrom : Option Partial → List UInt8 → List Char
  | none, [] => []
  | some _, [] => [replacement]
  | p, b :: bs =>
    let (cs, q) := step p b.toNat
    cs ++ decodeFrom q bs

def decode (octets : List UInt8) : String :=
  match decodeFrom none octets with
  | c :: cs => String.ofList (if c = byteOrderMark then cs else c :: cs)
  | [] => ""

end AnalyzerAdmin.Text.Utf8
