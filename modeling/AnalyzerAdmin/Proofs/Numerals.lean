import AnalyzerAdmin.Json.Reader
import Mathlib.Tactic.SplitIfs

/-!
# Numerals read back

The numeral of a natural number is a run of digits whose last is the remainder by ten, with no
leading zero. A JSON numeral of an integer of 64 bits, signed or unsigned, is read as this integer,
unless what stands behind it goes on with it.
-/

namespace AnalyzerAdmin

namespace Decimal

theorem ofNat_of_lt {n : Nat} (h : n < 10) : ofNat n = [n.digitChar] := Nat.toDigits_of_lt_base h

theorem ofNat_of_le {n : Nat} (h : 10 ≤ n) :
    ofNat n = ofNat (n / 10) ++ [(n % 10).digitChar] :=
  Nat.toDigits_of_base_le (by decide) h

theorem digit?_digitChar {d : Nat} (h : d < 10) : digit? d.digitChar = some d := by
  have hall : ∀ d < 10, digit? d.digitChar = some d := by decide
  exact hall d h

theorem isDigit_of_mem_ofNat (n : Nat) : ∀ c ∈ ofNat n, isDigit c = true := by
  have hdigit {d : Nat} (h : d < 10) : ∀ c ∈ [d.digitChar], isDigit c = true := by
    rw [List.forall_mem_singleton, isDigit, digit?_digitChar h]
    rfl
  induction n using Nat.strongRecOn with
  | ind n ih =>
    by_cases h : n < 10
    · rw [ofNat_of_lt h]
      exact hdigit h
    · rw [ofNat_of_le (by omega), List.forall_mem_append]
      exact ⟨ih (n / 10) (by omega), hdigit (Nat.mod_lt n (by decide))⟩

theorem not_mem_ofNat {c : Char} (hc : isDigit c = false) (n : Nat) : c ∉ ofNat n := by
  intro hmem
  have hdigit := isDigit_of_mem_ofNat n c hmem
  rw [hc] at hdigit
  cases hdigit

theorem not_mem_ofInt {c : Char} (hc : isDigit c = false) (hsign : c ≠ '-') (i : Int) :
    c ∉ ofInt i := by
  rw [ofInt]
  split_ifs
  · exact List.not_mem_cons_of_ne_of_not_mem hsign (not_mem_ofNat hc _)
  · exact not_mem_ofNat hc _

theorem ofNat_ne_nil (n : Nat) : ofNat n ≠ [] := Nat.toDigits_ne_nil

theorem exists_cons_ofNat (n : Nat) : ∃ c cs, ofNat n = c :: cs ∧ isDigit c = true := by
  obtain ⟨c, cs, hcs⟩ := List.exists_cons_of_ne_nil (ofNat_ne_nil n)
  refine ⟨c, cs, hcs, isDigit_of_mem_ofNat n c ?_⟩
  rw [hcs]
  exact List.mem_cons_self

theorem head?_ofNat_ne {n : Nat} (h : n ≠ 0) : (ofNat n).head? ≠ some '0' := by
  induction n using Nat.strongRecOn with
  | ind n ih =>
    by_cases hn : n < 10
    · rw [ofNat_of_lt hn, List.head?_cons, Ne, Option.some.injEq, Nat.digitChar_eq_zero]
      exact h
    · have hhead := ih (n / 10) (by omega) (by omega)
      rw [ofNat_of_le (by omega)]
      cases hcs : ofNat (n / 10) with
      | nil => exact absurd hcs (ofNat_ne_nil _)
      | cons c cs => rwa [hcs] at hhead

theorem digit?_of_isDigit {c : Char} (h : isDigit c = true) :
    digit? c = some (c.toNat - '0'.toNat) := by
  rw [isDigit, digit?] at h
  split_ifs at h with hc
  · rw [digit?, if_pos hc]
  · cases h

structure IsWhole (digits : List Char) : Prop where
  ne_nil : digits ≠ []
  isDigit : ∀ c ∈ digits, isDigit c = true
  noLeadingZero : digits.head? = some '0' → digits = ['0']

theorem isWhole_ofNat (n : Nat) : IsWhole (ofNat n) where
  ne_nil := ofNat_ne_nil n
  isDigit := isDigit_of_mem_ofNat n
  noLeadingZero h := by
    have hn : n = 0 := Decidable.byContradiction fun hne => head?_ofNat_ne hne h
    subst hn
    rfl

theorem le_ofDigitChars (digits : List Char) (value : Nat) :
    value ≤ Nat.ofDigitChars 10 digits value := by
  induction digits generalizing value with
  | nil => simp
  | cons c cs ih =>
    have hle := ih (10 * value + (c.toNat - '0'.toNat))
    rw [Nat.ofDigitChars_cons]
    omega

end Decimal

namespace Json.Numeral

/-- What stands behind a numeral that it does not go on with. -/
def Ends (rest : List Char) : Prop :=
  ∀ c ∈ rest.head?, Decimal.isDigit c = false ∧ c ≠ '.' ∧ c ≠ 'e' ∧ c ≠ 'E'

def NoDigit (rest : List Char) : Prop := ∀ c ∈ rest.head?, Decimal.isDigit c = false

theorem Ends.noDigit {rest : List Char} (h : Ends rest) : NoDigit rest := fun c hc => (h c hc).1

namespace Significand

variable {c : Char} {digits : List Char} {value : Nat}

theorem pushAll_cons (push : Significand → Nat → Significand) (s : Significand)
    (h : Decimal.isDigit c = true) :
    s.pushAll push (c :: digits) = (push s (c.toNat - '0'.toNat)).pushAll push digits := by
  simp only [pushAll, List.filterMap_cons, Decimal.digit?_of_isDigit h, List.foldl_cons]

theorem pushWhole_of_lt {digit : Nat} (h : value * 10 + digit < 2 ^ 64) :
    pushWhole ⟨value, 0, false⟩ digit = ⟨value * 10 + digit, 0, false⟩ := by
  rw [pushWhole, if_pos]
  exact decide_eq_true h

theorem pushAll_of_lt (hdigits : ∀ c ∈ digits, Decimal.isDigit c = true)
    (hlt : Nat.ofDigitChars 10 digits value < 2 ^ 64) :
    pushAll pushWhole ⟨value, 0, false⟩ digits = ⟨Nat.ofDigitChars 10 digits value, 0, false⟩ := by
  induction digits generalizing value with
  | nil => rfl
  | cons c cs ih =>
    obtain ⟨hc, hcs⟩ := List.forall_mem_cons.mp hdigits
    rw [Nat.ofDigitChars_cons, Nat.mul_comm] at hlt ⊢
    have hroom := Decimal.le_ofDigitChars cs (value * 10 + (c.toNat - '0'.toNat))
    rw [pushAll_cons _ _ hc, pushWhole_of_lt (by omega), ih hcs hlt]

theorem full_pushAll {s : Significand} (hs : s.full = true) (digits : List Char) :
    (pushAll pushWhole s digits).full = true := by
  rw [pushAll]
  induction digits.filterMap Decimal.digit? generalizing s with
  | nil => exact hs
  | cons d ds ih =>
    rw [List.foldl_cons]
    apply ih
    rw [pushWhole, hasRoom, hs]
    rfl

theorem full_pushAll_of_le (hdigits : ∀ c ∈ digits, Decimal.isDigit c = true)
    (hvalue : value < 2 ^ 64) (hle : 2 ^ 64 ≤ Nat.ofDigitChars 10 digits value) :
    (pushAll pushWhole ⟨value, 0, false⟩ digits).full = true := by
  induction digits generalizing value with
  | nil =>
    rw [Nat.ofDigitChars_nil] at hle
    omega
  | cons c cs ih =>
    obtain ⟨hc, hcs⟩ := List.forall_mem_cons.mp hdigits
    rw [Nat.ofDigitChars_cons, Nat.mul_comm] at hle
    rw [pushAll_cons _ _ hc]
    by_cases hroom : value * 10 + (c.toNat - '0'.toNat) < 2 ^ 64
    · rw [pushWhole_of_lt hroom]
      exact ih hcs hroom hle
    · apply full_pushAll
      rw [pushWhole, if_neg]
      simpa [hasRoom] using hroom

end Significand

variable {digits rest : List Char}

theorem NoDigit.digitRun_eq_nil (h : NoDigit rest) : digitRun rest = [] := by
  cases rest with
  | nil => rfl
  | cons c cs => rw [digitRun, List.takeWhile_cons_of_neg (by simp [h c rfl])]

theorem NoDigit.afterDigits_eq (h : NoDigit rest) : afterDigits rest = rest := by
  cases rest with
  | nil => rfl
  | cons c cs => rw [afterDigits, List.dropWhile_cons_of_neg (by simp [h c rfl])]

theorem digitRun_append (hdigits : ∀ c ∈ digits, Decimal.isDigit c = true) (h : NoDigit rest) :
    digitRun (digits ++ rest) = digits := by
  have hrest := h.digitRun_eq_nil
  rw [digitRun] at hrest ⊢
  rw [List.takeWhile_append_of_pos hdigits, hrest, List.append_nil]

theorem afterDigits_append (hdigits : ∀ c ∈ digits, Decimal.isDigit c = true) (h : NoDigit rest) :
    afterDigits (digits ++ rest) = rest := by
  have hrest := h.afterDigits_eq
  rw [afterDigits] at hrest ⊢
  rw [List.dropWhile_append_of_pos hdigits, hrest]

def goOn (negative : Bool) (s : Significand) : List Char → Reading Json
  | '.' :: left => part negative s left
  | 'e' :: left => exponent negative s left
  | 'E' :: left => exponent negative s left
  | left => whole negative s left

theorem goOn_of_ends (h : Ends rest) (negative : Bool) (s : Significand) :
    goOn negative s rest = whole negative s rest := by
  rw [goOn.eq_def]
  split
  · exact absurd rfl (h _ rfl).2.1
  · exact absurd rfl (h _ rfl).2.2.1
  · exact absurd rfl (h _ rfl).2.2.2
  · rfl

theorem not_digit_behind_zero {c : Char} {cs : List Char} (hwhole : Decimal.IsWhole (c :: cs))
    (h : NoDigit rest) : ¬(c = '0' ∧ (cs ++ rest).head?.any Decimal.isDigit = true) := by
  rintro ⟨rfl, hany⟩
  obtain rfl : cs = [] := (List.cons.inj (hwhole.noLeadingZero rfl)).2
  cases rest with
  | nil => cases hany
  | cons d ds => exact absurd hany (by simp [h d rfl])

theorem unsigned_append (hwhole : Decimal.IsWhole digits) (h : NoDigit rest) (negative : Bool) :
    unsigned negative (digits ++ rest) =
      goOn negative (Significand.pushAll .pushWhole ⟨0, 0, false⟩ digits) rest := by
  have hrun := digitRun_append hwhole.isDigit h
  have hafter := afterDigits_append hwhole.isDigit h
  obtain ⟨c, cs, rfl⟩ := List.exists_cons_of_ne_nil hwhole.ne_nil
  have hc := hwhole.isDigit c List.mem_cons_self
  rw [List.cons_append] at hrun hafter ⊢
  rw [unsigned, if_neg (by simp [hc]), if_neg (not_digit_behind_zero hwhole h), hrun, hafter]
  rfl

theorem unsigned_ofNat {n : Nat} (hn : n < 2 ^ 64) (negative : Bool) (h : Ends rest) :
    unsigned negative (Decimal.ofNat n ++ rest) = whole negative ⟨n, 0, false⟩ rest := by
  have hvalue : Nat.ofDigitChars 10 (Decimal.ofNat n) 0 = n := Nat.ofDigitChars_ten_toDigits
  have hpush := Significand.pushAll_of_lt (Decimal.isDigit_of_mem_ofNat n) (hvalue.symm ▸ hn)
  rw [unsigned_append (Decimal.isWhole_ofNat n) h.noDigit, hpush, hvalue, goOn_of_ends h]

theorem read_append (hwhole : Decimal.IsWhole digits) (rest : List Char) :
    read (digits ++ rest) = unsigned false (digits ++ rest) := by
  obtain ⟨c, cs, rfl⟩ := List.exists_cons_of_ne_nil hwhole.ne_nil
  have hc := hwhole.isDigit c List.mem_cons_self
  rw [List.cons_append, read]
  rintro rest' hminus
  rw [(List.cons.inj hminus).1] at hc
  exact absurd hc (by decide)

theorem read_ofInt {i : Int} (hmin : -2 ^ 63 ≤ i) (hmax : i < 2 ^ 64) (h : Ends rest) :
    read (Decimal.ofInt i ++ rest) = .ok (.int i, rest) := by
  by_cases hi : i < 0
  · have hsize : (i.natAbs : Int) = -i := Int.ofNat_natAbs_of_nonpos (Int.le_of_lt hi)
    rw [Decimal.ofInt, if_pos hi, List.cons_append, read, unsigned_ofNat (by omega) true h]
    simp only [whole, Bool.false_eq_true, if_false, Bool.not_true]
    rw [if_neg (by omega), hsize, Int.neg_neg]
  · have hsize : (i.natAbs : Int) = i := Int.natAbs_of_nonneg (Int.not_lt.mp hi)
    rw [Decimal.ofInt, if_neg hi, read_append (Decimal.isWhole_ofNat i.natAbs),
      unsigned_ofNat (by omega) false h]
    simp only [whole, Bool.false_eq_true, if_false, Bool.not_false, if_true, hsize]

end Json.Numeral

end AnalyzerAdmin
