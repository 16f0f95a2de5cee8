import AnalyzerAdmin.Json.Printer
import AnalyzerAdmin.Json.Reader
import Mathlib.Tactic.SplitIfs

/-!
# Texts of strings

A string is spelled character by character, and each of them in several ways. The reader takes every
spelling to the string. The printer writes one spelling of each string, and none has a line feed.
-/

namespace AnalyzerAdmin.Json

inductive HexText : Nat → List Char → Prop
  | digits {a b c d : Char} {i j k l : Nat} : Hexadecimal.digit? a = some i →
      Hexadecimal.digit? b = some j → Hexadecimal.digit? c = some k →
      Hexadecimal.digit? d = some l → HexText (((i * 16 + j) * 16 + k) * 16 + l) [a, b, c, d]

/-- The texts of a character inside a string: itself, a short escape, its code, or the codes of the
two surrogates that stand for it. -/
inductive CharText : Char → List Char → Prop
  | plain {c : Char} : 0x20 ≤ c.toNat → c ≠ '"' → c ≠ '\\' → CharText c [c]
  | short {c d : Char} : shortEscape? d = some c → CharText c ['\\', d]
  | code {n : Nat} {cs : List Char} : HexText n cs → n < 0xd800 ∨ 0xdfff < n →
      CharText (Char.ofNat n) ('\\' :: 'u' :: cs)
  | pair {high low : Nat} {cs ds : List Char} : HexText high cs → HexText low ds →
      0xd800 ≤ high → high ≤ 0xdbff → 0xdc00 ≤ low → low ≤ 0xdfff →
      CharText (Char.ofNat ((high - 0xd800) * 0x400 + (low - 0xdc00) + 0x10000))
        ('\\' :: 'u' :: (cs ++ '\\' :: 'u' :: ds))

inductive StringText : List Char → List Char → Prop
  | nil : StringText [] []
  | cons {c : Char} {s cs ds : List Char} : CharText c cs → StringText s ds →
      StringText (c :: s) (cs ++ ds)

variable {c : Char} {s cs : List Char} {n size : Nat}

theorem utf8Size_of_digit? {a : Char} {i : Nat} (h : Hexadecimal.digit? a = some i) :
    a.utf8Size = 1 := by
  have hle : a.toNat ≤ 'f'.toNat := by
    rw [Hexadecimal.digit?] at h
    split_ifs at h with hdigit hsmall hcapital
    · exact Nat.le_trans hdigit.2 (by decide)
    · exact hsmall.2
    · exact Nat.le_trans hcapital.2 (by decide)
  exact Char.utf8Size_eq_one_iff.mpr (UInt32.le_iff_toNat_le.mpr (Nat.le_trans hle (by decide)))

theorem hexCode_of_hexText (h : HexText n cs) (rest : List Char) :
    hexCode (cs ++ rest) = .ok (n, rest) := by
  cases h with
  | @digits a b c d i j k l ha hb hc hd =>
    have hsize : octets (List.take 4 (a :: b :: c :: d :: rest)) = 4 := by
      simp only [List.take, octets, List.foldr, utf8Size_of_digit? ha, utf8Size_of_digit? hb,
        utf8Size_of_digit? hc, utf8Size_of_digit? hd]
    simp only [List.cons_append, List.nil_append]
    rw [hexCode, if_neg (by omega)]
    simp only [ha, hb, hc, hd]

theorem escape_short {d : Char} (h : shortEscape? d = some c) (rest : List Char) :
    escape (d :: rest) = .ok (c, rest) := by
  have hd : d ≠ 'u' := by
    rintro rfl
    cases h
  rw [escape, h]
  exact hd

theorem escape_code (cs : List Char) : escape ('u' :: cs) = codeEscape cs := rfl

theorem string_charText (h : CharText c cs) (size : Nat) (rest : List Char) :
    string (size + 1) (cs ++ rest) = (string size rest).mapResult (c :: ·) := by
  cases h with
  | plain hc hquote hbackslash =>
    rw [List.singleton_append, string, if_neg (Nat.not_lt_of_le hc)]
    · exact hquote
    · exact hbackslash
  | short h =>
    rw [List.cons_append, List.singleton_append, string, escape_short h, Reading.andThen_ok]
  | @code n cs hhex hplain =>
    rw [List.cons_append, List.cons_append, string, escape_code, codeEscape,
      hexCode_of_hexText hhex, Reading.andThen_ok, if_neg (by omega), if_neg (by omega),
      Reading.andThen_ok]
  | @pair high low cs ds hhigh hlow hhigh₁ hhigh₂ hlow₁ hlow₂ =>
    simp only [List.cons_append, List.append_assoc]
    rw [string, escape_code, codeEscape, hexCode_of_hexText hhigh, Reading.andThen_ok,
      if_neg (by omega), if_pos ⟨hhigh₁, hhigh₂⟩]
    simp only [lowSurrogate, hexCode_of_hexText hlow, Reading.andThen_ok]
    rw [if_pos ⟨hlow₁, hlow₂⟩, Reading.andThen_ok]

theorem CharText.ne_nil (h : CharText c cs) : cs ≠ [] := by
  cases h <;> exact List.cons_ne_nil _ _

theorem length_le_of_stringText (h : StringText s cs) : s.length ≤ cs.length := by
  induction h with
  | nil => exact Nat.le_refl 0
  | cons hc _ ih =>
    have hpos := List.length_pos_iff.mpr hc.ne_nil
    simp only [List.length_cons, List.length_append]
    omega

theorem string_stringText (h : StringText s cs) (hsize : s.length < size) (rest : List Char) :
    string size (cs ++ '"' :: rest) = .ok (s, rest) := by
  induction h generalizing size with
  | nil =>
    obtain ⟨size, rfl⟩ := Nat.exists_eq_add_one_of_ne_zero (Nat.ne_of_gt hsize)
    rfl
  | cons hc _ ih =>
    obtain ⟨size, rfl⟩ := Nat.exists_eq_add_one_of_ne_zero (Nat.ne_of_gt (Nat.zero_lt_of_lt hsize))
    rw [List.append_assoc, string_charText hc, ih (Nat.lt_of_succ_lt_succ hsize)]
    rfl

section Written

theorem digit?_hexChar {d : Nat} (h : d < 16) : Hexadecimal.digit? (hexChar d) = some d := by
  have hall : ∀ d < 16, Hexadecimal.digit? (hexChar d) = some d := by decide
  exact hall d h

theorem charText_writtenChar (c : Char) : CharText c (writtenChar c) := by
  unfold writtenChar
  split
  case h_8 hquote hbackslash _ _ _ _ _ =>
    by_cases hc : c.toNat < 0x20
    · have hhex : HexText (((0 * 16 + 0) * 16 + c.toNat / 16) * 16 + c.toNat % 16)
          ['0', '0', hexChar (c.toNat / 16), hexChar (c.toNat % 16)] :=
        .digits rfl rfl (digit?_hexChar (by omega)) (digit?_hexChar (by omega))
      have hvalue : ((0 * 16 + 0) * 16 + c.toNat / 16) * 16 + c.toNat % 16 = c.toNat := by omega
      rw [hvalue] at hhex
      have hcode := CharText.code hhex (by omega)
      rw [if_pos hc]
      rwa [Char.ofNat_toNat] at hcode
    · rw [if_neg hc]
      exact .plain (Nat.le_of_not_lt hc) hquote hbackslash
  all_goals exact .short rfl

theorem stringText_flatMap (s : List Char) : StringText s (s.flatMap writtenChar) := by
  induction s with
  | nil => exact .nil
  | cons c s ih => exact .cons (charText_writtenChar c) ih

theorem newline_not_mem_hexText (h : HexText n cs) : '\n' ∉ cs := by
  cases h with
  | digits ha hb hc hd =>
    intro hmem
    simp only [List.mem_cons, List.not_mem_nil, or_false] at hmem
    rcases hmem with rfl | rfl | rfl | rfl <;> contradiction

theorem newline_not_mem_charText (h : CharText c cs) : '\n' ∉ cs := by
  cases h with
  | plain hc _ _ =>
    intro hmem
    obtain rfl := List.mem_singleton.mp hmem
    exact absurd hc (by decide)
  | short h =>
    intro hmem
    simp only [List.mem_cons, List.not_mem_nil, or_false] at hmem
    rcases hmem with hmem | rfl
    · exact absurd hmem (by decide)
    · cases h
  | code hhex _ => simp [newline_not_mem_hexText hhex]
  | pair hhigh hlow _ _ _ _ =>
    simp [newline_not_mem_hexText hhigh, newline_not_mem_hexText hlow]

theorem newline_not_mem_stringText (h : StringText s cs) : '\n' ∉ cs := by
  induction h with
  | nil => exact List.not_mem_nil
  | cons hc _ ih => simp [newline_not_mem_charText hc, ih]

theorem newline_not_mem_writtenString (s : String) : '\n' ∉ writtenString s := by
  simp [writtenString, newline_not_mem_stringText (stringText_flatMap s.toList)]

end Written

end AnalyzerAdmin.Json
