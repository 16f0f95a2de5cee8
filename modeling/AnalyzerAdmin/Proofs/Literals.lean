import AnalyzerAdmin.Proofs.Defects
import AnalyzerAdmin.Proofs.Names
import AnalyzerAdmin.Proofs.Reading

/-!
# Numbers in the text of a body

A literal is a number as a JSON text spells it. It is read as an integer exactly if it has neither
fraction nor exponent, is no minus zero and fits 64 bits; every other literal becomes a
floating-point number or stops the reader. So a cluster's text decodes only where both of its
numbers are spelled as integers that fit, and then nothing of them is lost.
-/

namespace AnalyzerAdmin

namespace Json

structure Exponent where
  mark : Char
  sign : Option Char
  digits : List Char
  isMark : mark = 'e' ∨ mark = 'E'
  isSign : ∀ c ∈ sign, c = '+' ∨ c = '-'
  ne_nil : digits ≠ []
  isDigit : ∀ c ∈ digits, Decimal.isDigit c = true

def Exponent.chars (e : Exponent) : List Char := e.mark :: (e.sign.toList ++ e.digits)

/-- A number as it is spelled: a sign, the whole part, digits behind a point, an exponent. -/
structure Literal where
  negative : Bool
  whole : List Char
  fraction : Option (List Char)
  exponent : Option Exponent
  isWhole : Decimal.IsWhole whole
  isFraction : ∀ ds ∈ fraction, ds ≠ [] ∧ ∀ c ∈ ds, Decimal.isDigit c = true

namespace Literal

def tail (l : Literal) : List Char :=
  (l.fraction.elim [] ('.' :: ·)) ++ l.exponent.elim [] Exponent.chars

def chars (l : Literal) : List Char :=
  (if l.negative then ['-'] else []) ++ (l.whole ++ l.tail)

def text (l : Literal) : String := String.ofList l.chars

def size (l : Literal) : Nat := Nat.ofDigitChars 10 l.whole 0

def integer (l : Literal) : Int := if l.negative then -l.size else l.size

structure IsInteger (l : Literal) : Prop where
  fraction : l.fraction = none
  exponent : l.exponent = none
  not_minus_zero : l.chars ≠ ['-', '0']
  min : -2 ^ 63 ≤ l.integer
  max : l.integer < 2 ^ 64

variable {l : Literal}

def plain (negative : Bool) (n : Nat) : Literal where
  negative := negative
  whole := Decimal.ofNat n
  fraction := none
  exponent := none
  isWhole := Decimal.isWhole_ofNat n
  isFraction := nofun

theorem size_eq_zero_iff (l : Literal) : l.size = 0 ↔ l.whole = ['0'] := by
  constructor
  · intro hsize
    obtain ⟨c, cs, hwhole⟩ := List.exists_cons_of_ne_nil l.isWhole.ne_nil
    have hc := l.isWhole.isDigit c (by simp [hwhole])
    have hle := Decimal.le_ofDigitChars cs (10 * 0 + (c.toNat - '0'.toNat))
    rw [size, hwhole, Nat.ofDigitChars_cons] at hsize
    have hzero : c = '0' := by
      rw [Decimal.isDigit, Decimal.digit?] at hc
      split_ifs at hc with hdigit
      · have hmin : '0'.toNat ≤ c.toNat := hdigit.1
        exact Char.toNat_inj.mp (by omega)
      · cases hc
    exact l.isWhole.noLeadingZero (by rw [hwhole, hzero]; rfl)
  · intro hwhole
    rw [size, hwhole]
    rfl

theorem chars_eq_minus_zero_iff (hfraction : l.fraction = none) (hexponent : l.exponent = none) :
    l.chars = ['-', '0'] ↔ l.negative = true ∧ l.size = 0 := by
  have hchars : l.chars = (if l.negative then ['-'] else []) ++ l.whole := by
    rw [chars, tail, hfraction, hexponent, Option.elim_none, Option.elim_none, List.append_nil,
      List.append_nil]
  rw [hchars, size_eq_zero_iff]
  cases l.negative with
  | true => simp
  | false =>
    have hminus : l.whole ≠ ['-', '0'] := by
      intro hwhole
      exact absurd (l.isWhole.isDigit '-' (by simp [hwhole])) (by decide)
    simpa using hminus

theorem isInteger_iff (hfraction : l.fraction = none) (hexponent : l.exponent = none) :
    l.IsInteger ↔ l.size < 2 ^ 64 ∧ (l.negative = true → l.size ≠ 0 ∧ l.size ≤ 2 ^ 63) := by
  have hzero := not_congr (chars_eq_minus_zero_iff hfraction hexponent)
  constructor
  · rintro ⟨-, -, hminus, hmin, hmax⟩
    rw [Ne, hzero, not_and] at hminus
    rw [integer] at hmin hmax
    split_ifs at hmin hmax with hnegative
    · exact ⟨by omega, fun _ => ⟨hminus hnegative, by omega⟩⟩
    · exact ⟨by omega, fun h => absurd h hnegative⟩
  · rintro ⟨hsize, hsign⟩
    refine ⟨hfraction, hexponent, hzero.mpr fun h => (hsign h.1).1 h.2, ?_, ?_⟩
    · rw [integer]
      split_ifs with hnegative
      · have := (hsign hnegative).2
        omega
      · omega
    · rw [integer]
      split_ifs <;> omega

end Literal

end Json

namespace Json.Numeral

variable {rest : List Char} {l : Literal}

/-- What is read in front of `rest`: a value, or nothing. -/
def Yields (o : Option Json) (r : Reading Json) (rest : List Char) : Prop :=
  match o with
  | some v => r = .ok (v, rest)
  | none => ∃ stop, r = .error stop

def Floats (p : List Char → Prop) (read : List Char → Reading Json) : Prop :=
  ∃ o : Option Binary64, ∀ rest, p rest → Yields (o.map .real) (read rest) rest

theorem Floats.congr {p q : List Char → Prop} {f g : List Char → Reading Json} (h : Floats p g)
    (hfits : ∀ rest, q rest → p rest) (heq : ∀ rest, q rest → f rest = g rest) : Floats q f := by
  obtain ⟨o, ho⟩ := h
  refine ⟨o, fun rest hrest => ?_⟩
  rw [heq rest hrest]
  exact ho rest (hfits rest hrest)

theorem floats_floating (p : List Char → Prop) (negative : Bool) (s : Significand) (power : Int) :
    Floats p (floating negative s power) := by
  refine ⟨(Magnitude.ofDecimal? s.value power).map (⟨negative, ·⟩), fun rest _ => ?_⟩
  rw [floating]
  cases Magnitude.ofDecimal? s.value power with
  | none => exact ⟨_, rfl⟩
  | some m => rfl

theorem readExponent_append {digits : List Char}
    (hdigits : ∀ c ∈ digits, Decimal.isDigit c = true) (acc : Nat) :
    (∃ e, ∀ rest, NoDigit rest → readExponent acc (digits ++ rest) = (some e, rest)) ∨
      ∃ ds, (∀ c ∈ ds, Decimal.isDigit c = true) ∧
        ∀ rest, NoDigit rest → readExponent acc (digits ++ rest) = (none, ds ++ rest) := by
  induction digits generalizing acc with
  | nil =>
    refine .inl ⟨acc, fun rest h => ?_⟩
    cases rest with
    | nil => rfl
    | cons c cs =>
      have hc : Decimal.digit? c = none := by simpa [Decimal.isDigit] using h c rfl
      rw [List.nil_append, readExponent, hc]
  | cons c cs ih =>
    obtain ⟨hc, hcs⟩ := List.forall_mem_cons.mp hdigits
    simp only [List.cons_append, readExponent, Decimal.digit?_of_isDigit hc]
    split_ifs
    · exact .inr ⟨cs, hcs, fun rest _ => rfl⟩
    · exact ih hcs _

theorem floats_readExponent {digits : List Char}
    (hdigits : ∀ c ∈ digits, Decimal.isDigit c = true) (negative : Bool)
    (s : Significand) (power : Nat → Int) (isTooLarge : Prop) [Decidable isTooLarge] :
    Floats NoDigit fun rest => match readExponent 0 (digits ++ rest) with
      | (some e, left) => floating negative s (power e) left
      | (none, left) =>
        if isTooLarge then stopBefore .numberTooLarge left
        else .ok (.real ⟨negative, .zero⟩, afterDigits left) := by
  rcases readExponent_append hdigits 0 with ⟨e, he⟩ | ⟨ds, hall, hds⟩
  · obtain ⟨o, ho⟩ := floats_floating NoDigit negative s (power e)
    refine ⟨o, fun rest h => ?_⟩
    simp only [he rest h]
    exact ho rest h
  · by_cases hlarge : isTooLarge
    · refine ⟨none, fun rest h => ?_⟩
      simp only [hds rest h, if_pos hlarge]
      exact ⟨_, rfl⟩
    · refine ⟨some ⟨negative, .zero⟩, fun rest h => ?_⟩
      simp only [hds rest h, if_neg hlarge, afterDigits_append hall h]
      rfl

theorem exponent_signed (e : Exponent) (negative : Bool) (s : Significand) :
    ∃ (power : Nat → Int) (isTooLarge : Prop) (_ : Decidable isTooLarge), ∀ rest,
      exponent negative s (e.sign.toList ++ (e.digits ++ rest)) =
        match readExponent 0 (e.digits ++ rest) with
        | (some n, left) => floating negative s (power n) left
        | (none, left) =>
          if isTooLarge then stopBefore .numberTooLarge left
          else .ok (.real ⟨negative, .zero⟩, afterDigits left) := by
  obtain ⟨c, cs, hcs⟩ := List.exists_cons_of_ne_nil e.ne_nil
  have hc := e.isDigit c (by simp [hcs])
  rw [hcs]
  cases hsign : e.sign with
  | none =>
    -- A digit is no sign.
    have hunsigned (d : Char) (hd : Decimal.isDigit d = false) (rest : List Char) :
        ∀ left, c :: (cs ++ rest) = d :: left → False := by
      intro left heq
      rw [(List.cons.inj heq).1, hd] at hc
      cases hc
    refine ⟨fun n => if some c = some '-' then s.power - n else s.power + n,
      s.value ≠ 0 ∧ ¬some c = some '-', inferInstance, fun rest => ?_⟩
    rw [Option.toList_none, List.nil_append, List.cons_append, exponent, if_neg (by simp [hc])]
    · rfl
    · exact hunsigned '+' rfl rest
    · exact hunsigned '-' rfl rest
  | some d =>
    refine ⟨fun n => if some d = some '-' then s.power - n else s.power + n,
      s.value ≠ 0 ∧ ¬some d = some '-', inferInstance, fun rest => ?_⟩
    rcases e.isSign d hsign with rfl | rfl <;>
      · rw [Option.toList_some, List.singleton_append, List.cons_append, exponent,
          if_neg (by simp [hc])]
        rfl

theorem floats_exponent (e : Exponent) (negative : Bool) (s : Significand) :
    Floats NoDigit fun rest => exponent negative s (e.sign.toList ++ (e.digits ++ rest)) := by
  obtain ⟨power, isTooLarge, _, hsigned⟩ := exponent_signed e negative s
  simp only [hsigned]
  exact floats_readExponent e.isDigit negative s power isTooLarge

theorem noDigit_of_mark {c : Char} (h : c = '.' ∨ c = 'e' ∨ c = 'E') (cs : List Char) :
    NoDigit (c :: cs) := by
  intro d hd
  obtain rfl : c = d := Option.some.inj hd
  rcases h with rfl | rfl | rfl <;> decide

theorem noDigit_exponent (e : Option Exponent) (h : Ends rest) :
    NoDigit (e.elim [] Exponent.chars ++ rest) := by
  cases e with
  | none => exact h.noDigit
  | some e => exact noDigit_of_mark (.inr e.isMark) _

theorem goOn_exponent (e : Exponent) (negative : Bool) (s : Significand) :
    goOn negative s (e.chars ++ rest) =
      exponent negative s (e.sign.toList ++ (e.digits ++ rest)) := by
  rw [Exponent.chars, List.cons_append, List.append_assoc]
  rcases e.isMark with hmark | hmark <;> rw [hmark, goOn]

theorem floats_part {digits : List Char} (hne : digits ≠ [])
    (hdigits : ∀ c ∈ digits, Decimal.isDigit c = true) (e : Option Exponent) (negative : Bool)
    (s : Significand) :
    Floats Ends fun rest => part negative s (digits ++ (e.elim [] Exponent.chars ++ rest)) := by
  obtain ⟨c, cs, rfl⟩ := List.exists_cons_of_ne_nil hne
  cases e with
  | some e =>
    refine (floats_exponent e negative (s.pushPartDigits (c :: cs))).congr (fun _ => Ends.noDigit)
      fun rest h => ?_
    have hnext := noDigit_exponent (some e) h
    rw [part, digitRun_append hdigits hnext, afterDigits_append hdigits hnext, Option.elim_some,
      Exponent.chars, List.cons_append, List.append_assoc]
    rcases e.isMark with hmark | hmark <;>
      · rw [hmark]
        rfl
  | none =>
    have hfloating := floats_floating Ends negative (s.pushPartDigits (c :: cs))
      (s.pushPartDigits (c :: cs)).power
    refine hfloating.congr (fun _ => id) fun rest h => ?_
    rw [Option.elim_none, List.nil_append, part, digitRun_append hdigits h.noDigit,
      afterDigits_append hdigits h.noDigit]
    -- What ends the numeral is no exponent.
    split
    · contradiction
    · contradiction
    · exact absurd rfl (h _ rfl).2.2.1
    · exact absurd rfl (h _ rfl).2.2.2
    · rfl

theorem read_chars (l : Literal) (h : Ends rest) :
    read (l.chars ++ rest) =
      goOn l.negative (Significand.pushAll .pushWhole ⟨0, 0, false⟩ l.whole) (l.tail ++ rest) := by
  have htail : NoDigit (l.tail ++ rest) := by
    rw [Literal.tail, List.append_assoc]
    cases l.fraction with
    | none => exact noDigit_exponent l.exponent h
    | some ds => exact noDigit_of_mark (.inl rfl) _
  rw [Literal.chars, List.append_assoc, List.append_assoc]
  cases l.negative with
  | false =>
    rw [if_neg Bool.false_ne_true, List.nil_append, read_append l.isWhole,
      unsigned_append l.isWhole htail]
  | true => rw [if_pos rfl, List.singleton_append, read, unsigned_append l.isWhole htail]

theorem read_plain (hfraction : l.fraction = none) (hexponent : l.exponent = none)
    (h : Ends rest) :
    read (l.chars ++ rest) =
      whole l.negative (Significand.pushAll .pushWhole ⟨0, 0, false⟩ l.whole) rest := by
  rw [read_chars l h, Literal.tail, hfraction, hexponent]
  exact goOn_of_ends h _ _

theorem read_of_isInteger (hl : l.IsInteger) (h : Ends rest) :
    read (l.chars ++ rest) = .ok (.int l.integer, rest) := by
  obtain ⟨hsize, hsign⟩ := (Literal.isInteger_iff hl.fraction hl.exponent).mp hl
  rw [read_plain hl.fraction hl.exponent h, Significand.pushAll_of_lt l.isWhole.isDigit hsize,
    ← Literal.size, whole, if_neg Bool.false_ne_true, Literal.integer]
  cases hnegative : l.negative with
  | false => rfl
  | true =>
    have hfits := hsign hnegative
    have hlater : ¬(l.size = 0 ∨ 2 ^ 63 < l.size) := by omega
    rw [if_neg (by decide), if_neg hlater, if_pos rfl]

theorem floats_whole (hfraction : l.fraction = none) (hexponent : l.exponent = none)
    (hl : ¬l.IsInteger) :
    Floats Ends
      (whole l.negative (Significand.pushAll .pushWhole ⟨0, 0, false⟩ l.whole)) := by
  rw [Literal.isInteger_iff hfraction hexponent] at hl
  by_cases hsize : l.size < 2 ^ 64
  · rw [Significand.pushAll_of_lt l.isWhole.isDigit hsize, ← Literal.size]
    cases hnegative : l.negative with
    | false => exact absurd ⟨hsize, fun hminus => by simp [hnegative] at hminus⟩ hl
    | true =>
      have hfirst : l.size = 0 ∨ 2 ^ 63 < l.size := by
        by_contra hfits
        exact hl ⟨hsize, fun _ => by omega⟩
      refine (floats_floating Ends true ⟨l.size, 0, false⟩ 0).congr (fun _ => id) fun rest _ => ?_
      rw [whole, if_neg Bool.false_ne_true, if_neg (by decide), if_pos hfirst]
  · -- The digits behind those that fit are passed over.
    have hfull := Significand.full_pushAll_of_le l.isWhole.isDigit (Nat.two_pow_pos 64)
      (Nat.not_lt.mp hsize)
    generalize Significand.pushAll .pushWhole ⟨0, 0, false⟩ l.whole = s at hfull
    refine (floats_floating Ends l.negative s s.power).congr (fun _ => id) fun rest _ => ?_
    rw [whole, if_pos hfull]

theorem floats_read (hl : ¬l.IsInteger) : Floats Ends fun rest => read (l.chars ++ rest) := by
  cases hfraction : l.fraction with
  | some ds =>
    obtain ⟨hne, hdigits⟩ := l.isFraction ds hfraction
    have hpart := floats_part hne hdigits l.exponent l.negative
      (Significand.pushAll .pushWhole ⟨0, 0, false⟩ l.whole)
    refine hpart.congr (fun _ => id) fun rest h => ?_
    rw [read_chars l h, Literal.tail, hfraction, Option.elim_some, List.append_assoc,
      List.cons_append, goOn]
  | none =>
    cases hexponent : l.exponent with
    | some e =>
      have hread := floats_exponent e l.negative
        (Significand.pushAll .pushWhole ⟨0, 0, false⟩ l.whole)
      refine hread.congr (fun _ => Ends.noDigit) fun rest h => ?_
      rw [read_chars l h, Literal.tail, hfraction, hexponent, Option.elim_none, Option.elim_some,
        List.nil_append, goOn_exponent]
    | none =>
      exact (floats_whole hfraction hexponent hl).congr (fun _ => id)
        fun rest h => read_plain hfraction hexponent h

theorem read_of_read {others : List Char} {v : Json} (h : Ends rest) (hothers : Ends others)
    (hread : read (l.chars ++ rest) = .ok (v, rest)) :
    read (l.chars ++ others) = .ok (v, others) := by
  by_cases hl : l.IsInteger
  · rw [read_of_isInteger hl h] at hread
    rw [read_of_isInteger hl hothers]
    cases hread
    rfl
  · obtain ⟨o, ho⟩ := floats_read hl
    cases o with
    | some x =>
      have hsome : read (l.chars ++ rest) = .ok (.real x, rest) := ho rest h
      rw [hsome] at hread
      cases hread
      exact ho others hothers
    | none =>
      obtain ⟨stop, hstop⟩ : ∃ stop, read (l.chars ++ rest) = .error stop := ho rest h
      rw [hstop] at hread
      cases hread

theorem read_append_iff {v : Json} (h : Ends rest) :
    read (l.chars ++ rest) = .ok (v, rest) ↔ read l.chars = .ok (v, []) := by
  constructor
  · intro hread
    have halone := read_of_read h ends_nil hread
    rwa [List.append_nil] at halone
  · intro hread
    rw [← List.append_nil l.chars] at hread
    exact read_of_read ends_nil h hread

end Json.Numeral

namespace Json.Literal

variable {rest : List Char} {l : Literal} {v : Json}

inductive Denotes (l : Literal) : Json → Prop
  | int : l.IsInteger → Denotes l (.int l.integer)
  | real {x : Binary64} : ¬l.IsInteger → Denotes l (.real x)

theorem exists_cons_chars (l : Literal) :
    ∃ c cs, l.chars = c :: cs ∧ (c = '-' ∨ Decimal.isDigit c = true) := by
  obtain ⟨c, cs, hwhole⟩ := List.exists_cons_of_ne_nil l.isWhole.ne_nil
  rw [chars, hwhole]
  cases l.negative with
  | true => exact ⟨'-', _, rfl, .inl rfl⟩
  | false => exact ⟨c, _, rfl, .inr (l.isWhole.isDigit c (by simp [hwhole]))⟩

theorem value_literal (l : Literal) (size depth : Nat) (rest : List Char) :
    value size depth (l.chars ++ rest) = Numeral.read (l.chars ++ rest) := by
  obtain ⟨c, cs, hcs, hc⟩ := l.exists_cons_chars
  rw [hcs, List.cons_append, value_numeral hc]

theorem value_chars (l : Literal) (size depth : Nat) (h : Numeral.Ends rest) :
    (∃ v, l.Denotes v ∧ value size depth (l.chars ++ rest) = .ok (v, rest)) ∨
      ¬l.IsInteger ∧ ∃ stop, value size depth (l.chars ++ rest) = .error stop := by
  rw [value_literal]
  by_cases hl : l.IsInteger
  · exact .inl ⟨_, .int hl, Numeral.read_of_isInteger hl h⟩
  · obtain ⟨o, ho⟩ := Numeral.floats_read hl
    cases o with
    | some x => exact .inl ⟨_, .real hl, ho rest h⟩
    | none => exact .inr ⟨hl, ho rest h⟩

theorem denotes_of_read (h : Numeral.read l.chars = .ok (v, [])) : l.Denotes v := by
  rw [← List.append_nil l.chars, ← l.value_literal 0 0] at h
  rcases l.value_chars 0 0 Numeral.ends_nil with ⟨w, hw, hvalue⟩ | ⟨-, stop, hstop⟩
  · rw [hvalue] at h
    cases h
    exact hw
  · rw [hstop] at h
    cases h

structure FitsMask (l : Literal) : Prop where
  sign : l.negative = false
  fraction : l.fraction = none
  exponent : l.exponent = none
  max : l.size < 2 ^ 64

structure FitsCount (l : Literal) : Prop where
  fraction : l.fraction = none
  exponent : l.exponent = none
  not_minus_zero : l.text ≠ "-0"
  min : -2 ^ 63 ≤ l.integer
  max : l.integer < 2 ^ 63

theorem integer_of_sign (h : l.negative = false) : l.integer = l.size := by
  rw [integer, h, if_neg Bool.false_ne_true]

theorem FitsMask.isInteger (h : l.FitsMask) : l.IsInteger := by
  refine (isInteger_iff h.fraction h.exponent).mpr ⟨h.max, fun hnegative => ?_⟩
  rw [h.sign] at hnegative
  cases hnegative

theorem FitsCount.isInteger (h : l.FitsCount) : l.IsInteger where
  fraction := h.fraction
  exponent := h.exponent
  not_minus_zero hchars := h.not_minus_zero (by rw [text, hchars])
  min := h.min
  max := by
    have := h.max
    omega

theorem Denotes.integer_eq {i : Int} (hv : l.Denotes v) (h : v = .int i) :
    l.IsInteger ∧ l.integer = i := by
  cases hv with
  | int hl => exact ⟨hl, Json.int.inj h⟩
  | real _ => cases h

theorem fitsMask_iff (hv : l.Denotes v) :
    l.FitsMask ↔ ∃ n : Nat, v = .int n ∧ n < 2 ^ 64 := by
  constructor
  · intro h
    cases hv with
    | int _ => exact ⟨l.size, by rw [integer_of_sign h.sign], h.max⟩
    | real hl => exact absurd h.isInteger hl
  · rintro ⟨n, heq, -⟩
    obtain ⟨hl, hinteger⟩ := hv.integer_eq heq
    obtain ⟨hsize, hsign⟩ := (isInteger_iff hl.fraction hl.exponent).mp hl
    refine ⟨?_, hl.fraction, hl.exponent, hsize⟩
    -- With a sign the size is not zero, and so the integer is negative.
    cases hnegative : l.negative with
    | false => rfl
    | true =>
      have hpos := (hsign hnegative).1
      rw [integer, hnegative, if_pos rfl] at hinteger
      omega

theorem fitsCount_iff (hv : l.Denotes v) :
    l.FitsCount ↔ ∃ i : Int, v = .int i ∧ -2 ^ 63 ≤ i ∧ i < 2 ^ 63 := by
  constructor
  · intro h
    cases hv with
    | int _ => exact ⟨l.integer, rfl, h.min, h.max⟩
    | real hl => exact absurd h.isInteger hl
  · rintro ⟨i, heq, hmin, hmax⟩
    obtain ⟨hl, rfl⟩ := hv.integer_eq heq
    refine ⟨hl.fraction, hl.exponent, fun htext => hl.not_minus_zero ?_, hmin, hmax⟩
    rw [← String.toList_ofList (l := l.chars)]
    exact congrArg String.toList htext

end Json.Literal

namespace State

open Json

def clusterText (mask count : Literal) : String :=
  "\x7b\"currentPerformanceAnalyzerClusterState\":" ++ mask.text ++
    ",\"shardsPerCollection\":" ++ count.text ++ "\x7d"

def countField : String := "shardsPerCollection"

theorem field_eq_countField (a : Attribute) : a.field = countField := by
  cases a
  rfl

theorem toList_open : "\x7b\"currentPerformanceAnalyzerClusterState\":".toList =
    '\x7b' :: (writtenString maskField ++ [':']) := by decide

theorem toList_between : ",\"shardsPerCollection\":".toList =
    ',' :: (writtenString countField ++ [':']) := by decide

theorem toList_clusterText (mask count : Literal) :
    (clusterText mask count).toList =
      '\x7b' :: (writtenString maskField ++ ':' :: (mask.chars ++
        ',' :: (writtenString countField ++ ':' :: (count.chars ++ ['\x7d'])))) := by
  have hmask : mask.text.toList = mask.chars := String.toList_ofList
  have hcount : count.text.toList = count.chars := String.toList_ofList
  rw [← hmask, ← hcount]
  unfold clusterText
  generalize mask.text = m
  generalize count.text = n
  simp only [String.toList_append, toList_open, toList_between, List.cons_append,
    List.append_assoc, List.nil_append]
  rfl

theorem value_clusterText (mask count : Literal) {size : Nat} (depth : Nat)
    (hsize : (clusterText mask count).toList.length ≤ size) :
    (∃ v w, mask.Denotes v ∧ count.Denotes w ∧
        value size (depth + 1) (clusterText mask count).toList =
          .ok (.obj (Members.ofWritten [(maskField, v), (countField, w)]), [])) ∨
      ¬(mask.IsInteger ∧ count.IsInteger) ∧
        ∃ stop, value size (depth + 1) (clusterText mask count).toList = .error stop := by
  rw [toList_clusterText] at hsize ⊢
  simp only [List.length_cons, List.length_append] at hsize
  have hmaskName : (writtenString maskField).length ≤ size := by omega
  have hcountName : (writtenString countField).length ≤ size := by omega
  obtain ⟨n, rfl⟩ : ∃ n, size = n + 2 := ⟨size - 2, by omega⟩
  have hcomma (cs : List Char) : Numeral.Ends (',' :: cs) := Numeral.ends_cons (by decide) cs
  have hclose : Numeral.Ends ['\x7d'] := Numeral.ends_cons (by decide) []
  rw [value_brace, pairs_quoted _ hmaskName]
  rcases mask.value_chars (n + 2) depth (hcomma _) with ⟨v, hv, hmask⟩ | ⟨hmask, stop, hstop⟩
  · rw [hmask, Reading.andThen_ok, moreMembers_quoted _ hcountName]
    rcases count.value_chars (n + 2) depth hclose with ⟨w, hw, hcount⟩ | ⟨hcount, stop, hstop⟩
    · rw [hcount]
      exact .inl ⟨v, w, hv, hw, rfl⟩
    · rw [hstop]
      exact .inr ⟨fun h => hcount h.2, stop, rfl⟩
  · rw [hstop]
    exact .inr ⟨fun h => hmask h.1, stop, rfl⟩

theorem read_clusterText (mask count : Literal) :
    (∃ v w, mask.Denotes v ∧ count.Denotes w ∧ Json.read (clusterText mask count) =
        .ok (.obj (Members.ofWritten [(maskField, v), (countField, w)]))) ∨
      ¬(mask.IsInteger ∧ count.IsInteger) ∧
        ∃ error, Json.read (clusterText mask count) = .error error := by
  rw [Json.read]
  rcases value_clusterText mask count 126 (Nat.le_refl _) with ⟨v, w, hv, hw, h⟩ | ⟨hnot, stop, h⟩
  · simp only [depthLimit, h]
    exact .inl ⟨v, w, hv, hw, rfl⟩
  · simp only [depthLimit, h]
    exact .inr ⟨hnot, _, rfl⟩

theorem get?_ofWritten (v w : Json) :
    (Members.ofWritten [(maskField, v), (countField, w)]).get? maskField = some v ∧
      ∀ a : Attribute,
        (Members.ofWritten [(maskField, v), (countField, w)]).get? a.field = some w := by
  have hnodup : ([(maskField, v), (countField, w)].map Prod.fst).Nodup := by
    change [maskField, countField].Nodup
    decide
  have hperm := Members.perm_ofWritten hnodup
  have hnames := (hperm.map Prod.fst).nodup_iff.mpr hnodup
  refine ⟨Members.get?_of_mem hnames (hperm.mem_iff.mpr (by simp)), fun a => ?_⟩
  rw [field_eq_countField]
  exact Members.get?_of_mem hnames (hperm.mem_iff.mpr (by simp))

theorem clusterShape_ofWritten {mask count : Literal} {v w : Json} (hv : mask.Denotes v)
    (hw : count.Denotes w) :
    ClusterShape (.obj (Members.ofWritten [(maskField, v), (countField, w)])) ↔
      mask.FitsMask ∧ count.FitsCount := by
  obtain ⟨hmask, hcount⟩ := get?_ofWritten v w
  rw [Literal.fitsMask_iff hv, Literal.fitsCount_iff hw]
  constructor
  · rintro ⟨members, hmembers, ⟨n, hn, hlt⟩, hcounts⟩
    obtain rfl := Json.obj.inj hmembers
    obtain ⟨i, hi, hbounds⟩ := hcounts .shardsPerCollection
    rw [hmask] at hn
    rw [hcount] at hi
    exact ⟨⟨n, Option.some.inj hn, hlt⟩, i, Option.some.inj hi, hbounds⟩
  · rintro ⟨⟨n, rfl, hlt⟩, i, rfl, hbounds⟩
    exact ⟨_, rfl, ⟨n, hmask, hlt⟩, fun a => ⟨i, hcount a, hbounds⟩⟩

/-- A cluster's text decodes exactly if both of its numbers are spelled as integers that fit, and
then to the bits of the one and the value of the other. -/
theorem integers_survive (mask count : Literal) :
    ((∃ s, ofText .cluster (clusterText mask count) = .ok s) ↔ mask.FitsMask ∧ count.FitsCount) ∧
      ∀ s, ofText .cluster (clusterText mask count) = .ok s →
        (∀ a, (s.count a).toInt = count.integer) ∧ ∀ f, s.isOn f = mask.size.testBit f.bit := by
  rcases read_clusterText mask count with ⟨v, w, hv, hw, hread⟩ | ⟨hnot, error, hread⟩
  · have hok := (exact_ofClusterBody _).1.trans (clusterShape_ofWritten hv hw)
    have htext : ofText .cluster (clusterText mask count) =
        ofClusterBody (.obj (Members.ofWritten [(maskField, v), (countField, w)])) := by
      rw [ofText, hread]
      rfl
    rw [htext]
    refine ⟨hok, fun s hs => ?_⟩
    obtain ⟨hmask, hcount⟩ := get?_ofWritten v w
    obtain ⟨m, hm, -, hflags, hcounts⟩ := cluster_reports hs
    rw [Json.get?_of_members rfl, hmask, Option.bind_some] at hm
    have hvalue := (hv.integer_eq (Json.eq_of_unsigned? hm)).2
    rw [Literal.integer_of_sign (hok.mp ⟨s, hs⟩).1.sign] at hvalue
    obtain rfl := Int.ofNat_inj.mp hvalue
    refine ⟨fun a => ?_, hflags⟩
    have ha := hcounts a
    rw [Json.get?_of_members rfl, hcount] at ha
    exact (hw.integer_eq (Option.some.inj ha)).2.symm
  · have htext : ofText .cluster (clusterText mask count) = .error (.json error) := by
      rw [ofText, hread]
    rw [htext]
    refine ⟨⟨nofun, fun h => ?_⟩, nofun⟩
    exact absurd ⟨h.1.isInteger, h.2.isInteger⟩ hnot

theorem integers_survive_limits :
    ∃ s, ofText .cluster
        ("\x7b\"currentPerformanceAnalyzerClusterState\":18446744073709551615," ++
          "\"shardsPerCollection\":-9223372036854775808\x7d") = .ok s ∧
      (∀ a, (s.count a).toInt = -2 ^ 63) ∧ ∀ f, s.isOn f = true := by
  have htext : clusterText (.plain false 18446744073709551615) (.plain true 9223372036854775808) =
      "\x7b\"currentPerformanceAnalyzerClusterState\":18446744073709551615," ++
        "\"shardsPerCollection\":-9223372036854775808\x7d" := by decide +kernel
  obtain ⟨hok, hreports⟩ :=
    integers_survive (.plain false 18446744073709551615) (.plain true 9223372036854775808)
  rw [htext] at hok hreports
  have hmask : (Literal.plain false 18446744073709551615).FitsMask :=
    ⟨rfl, rfl, rfl, by decide +kernel⟩
  have hcount : (Literal.plain true 9223372036854775808).FitsCount :=
    ⟨rfl, rfl, by decide +kernel, by decide +kernel, by decide +kernel⟩
  obtain ⟨s, hs⟩ := hok.mpr ⟨hmask, hcount⟩
  obtain ⟨hcounts, hflags⟩ := hreports s hs
  refine ⟨s, hs, fun a => ?_, fun f => ?_⟩
  · rw [hcounts a]
    decide +kernel
  · rw [hflags f]
    cases f <;> decide +kernel

end State

end AnalyzerAdmin
