import Mathlib.Order.Basic

/-!
# Texts in the order of their octets

Texts are compared character by character. UTF-8 keeps this order: of two characters the one with
the smaller number comes first in octets too, whatever follows them, since the leading octets grow
with the number of octets, and octets behind equal leading ones grow with the number itself.
-/

namespace AnalyzerAdmin.Text

def octets (cs : List Char) : List UInt8 := cs.flatMap String.utf8EncodeChar

section Lists

variable {s t : List UInt8} {a b : Nat}

theorem cons_lt_of_lt (hb : b < 256) (h : a < b) : UInt8.ofNat a :: s < UInt8.ofNat b :: t := by
  refine List.cons_lt_cons_iff.mpr (.inl ?_)
  have ha : a < 256 := by omega
  rwa [UInt8.lt_iff_toNat_lt, UInt8.toNat_ofNat_of_lt' ha, UInt8.toNat_ofNat_of_lt' hb]

theorem cons_lt_of_le (hb : b < 256) (hle : a ≤ b) (hrest : a = b → s < t) :
    UInt8.ofNat a :: s < UInt8.ofNat b :: t := by
  rcases Nat.lt_or_eq_of_le hle with hlt | rfl
  · exact cons_lt_of_lt hb hlt
  · exact List.cons_lt_cons_iff.mpr (.inr ⟨rfl, hrest rfl⟩)

end Lists

theorem utf8EncodeChar_lt {c d : Char} (h : c < d) (s t : List UInt8) :
    String.utf8EncodeChar c ++ s < String.utf8EncodeChar d ++ t := by
  have hlt : c.val.toNat < d.val.toNat := h
  have hd : d.val.toNat < 0x110000 := by
    rcases d.valid with hd | hd
    · exact Nat.lt_trans hd (by decide)
    · exact hd.2
  rw [String.utf8EncodeChar.eq_1, String.utf8EncodeChar.eq_1]
  generalize c.val.toNat = m at hlt
  generalize d.val.toNat = n at hlt hd
  simp only [apply_ite (· ++ s), apply_ite (· ++ t), List.cons_append, List.nil_append]
  split_ifs
  -- Sizes differ in all but four cases, and then the leading octets do.
  all_goals try first
    | exact cons_lt_of_lt (by omega) (by omega)
    | exact absurd hlt (by omega)
  · refine cons_lt_of_le (by omega) (by omega) fun h1 => ?_
    exact cons_lt_of_lt (by omega) (by omega)
  · refine cons_lt_of_le (by omega) (by omega) fun h1 => ?_
    refine cons_lt_of_le (by omega) (by omega) fun h2 => ?_
    exact cons_lt_of_lt (by omega) (by omega)
  · refine cons_lt_of_le (by omega) (by omega) fun h1 => ?_
    refine cons_lt_of_le (by omega) (by omega) fun h2 => ?_
    refine cons_lt_of_le (by omega) (by omega) fun h3 => ?_
    exact cons_lt_of_lt (by omega) (by omega)

theorem octets_lt {cs ds : List Char} (h : cs < ds) : octets cs < octets ds := by
  induction cs generalizing ds with
  | nil =>
    cases ds with
    | nil => exact absurd h (List.lt_irrefl _)
    | cons d ds =>
      have hne : String.utf8EncodeChar d ≠ [] := by
        rw [String.utf8EncodeChar.eq_1]
        split_ifs <;> exact List.cons_ne_nil _ _
      obtain ⟨b, bs, hb⟩ := List.exists_cons_of_ne_nil hne
      rw [octets, octets, List.flatMap_cons, hb]
      exact List.nil_lt_cons _ _
  | cons c cs ih =>
    cases ds with
    | nil => exact absurd h (List.not_lt_nil _)
    | cons d ds =>
      rw [octets, octets, List.flatMap_cons, List.flatMap_cons]
      rcases List.cons_lt_cons_iff.mp h with hlt | ⟨rfl, hrest⟩
      · exact utf8EncodeChar_lt hlt _ _
      · exact List.append_left_lt (ih hrest)

end AnalyzerAdmin.Text
