import AnalyzerAdmin.Proofs.Grammar
import Mathlib.Data.List.TakeWhile

/-!
# What the reader accepts

A reading that ends well has consumed a text of the grammar, so the texts of values are exactly
those that are read, and the texts of objects those that are read as an object. What is left behind
a value must not go on with a number, and in a text that is read to its end it never does.
-/

namespace AnalyzerAdmin.Json

namespace Reading

variable {α β : Type} {r : Reading α}

theorem andThen_eq_ok {next : α → List Char → Reading β} {result : β × List Char}
    (h : r.andThen next = .ok result) :
    ∃ a left, r = .ok (a, left) ∧ next a left = .ok result := by
  cases r with
  | error stop => cases h
  | ok pair => exact ⟨pair.1, pair.2, rfl, h⟩

theorem mapResult_eq_ok {f : α → β} {b : β} {left : List Char}
    (h : r.mapResult f = .ok (b, left)) : ∃ a, r = .ok (a, left) ∧ f a = b := by
  obtain ⟨a, rest, hr, heq⟩ := andThen_eq_ok h
  cases heq
  exact ⟨a, hr, rfl⟩

end Reading

section Strings

variable {c : Char} {s cs left : List Char} {n high size : Nat}

theorem exists_hexText (h : hexCode cs = .ok (n, left)) : ∃ ds, cs = ds ++ left ∧ HexText n ds := by
  unfold hexCode at h
  split_ifs at h with hsize
  · cases h
  · split at h
    · split at h
      · rename_i ha hb hc hd
        cases h
        exact ⟨_, rfl, .digits ha hb hc hd⟩
      · cases h
    · cases h

theorem exists_lowSurrogate (h : lowSurrogate high cs = .ok (c, left)) :
    ∃ low ds, cs = '\\' :: 'u' :: (ds ++ left) ∧ HexText low ds ∧ 0xdc00 ≤ low ∧ low ≤ 0xdfff ∧
      c = Char.ofNat ((high - 0xd800) * 0x400 + (low - 0xdc00) + 0x10000) := by
  unfold lowSurrogate at h
  split at h
  case h_3 rest =>
    obtain ⟨low, behind, hhex, hlow⟩ := Reading.andThen_eq_ok h
    obtain ⟨ds, rfl, hds⟩ := exists_hexText hhex
    split_ifs at hlow with hrange
    · obtain ⟨hc, rfl⟩ := Prod.mk.inj (Except.ok.inj hlow)
      exact ⟨low, ds, rfl, hds, hrange.1, hrange.2, hc.symm⟩
    · cases hlow
  all_goals cases h

theorem exists_codeEscape (h : codeEscape cs = .ok (c, left)) :
    ∃ ds, cs = ds ++ left ∧ CharText c ('\\' :: 'u' :: ds) := by
  obtain ⟨code, behind, hhex, hcode⟩ := Reading.andThen_eq_ok h
  obtain ⟨ds, rfl, hds⟩ := exists_hexText hhex
  split_ifs at hcode with hlone hhigh
  · cases hcode
  · obtain ⟨low, es, rfl, hes, hmin, hmax, hc⟩ := exists_lowSurrogate hcode
    rw [hc]
    exact ⟨ds ++ '\\' :: 'u' :: es, by simp, .pair hds hes hhigh.1 hhigh.2 hmin hmax⟩
  · cases hcode
    exact ⟨ds, rfl, .code hds (by omega)⟩

theorem exists_escape (h : escape cs = .ok (c, left)) :
    ∃ ds, cs = ds ++ left ∧ CharText c ('\\' :: ds) := by
  unfold escape at h
  split at h
  · cases h
  · obtain ⟨ds, rfl, hds⟩ := exists_codeEscape h
    exact ⟨'u' :: ds, rfl, hds⟩
  · split at h
    · rename_i hshort
      cases h
      exact ⟨[_], rfl, .short hshort⟩
    · cases h

theorem exists_stringText (h : string size cs = .ok (s, left)) :
    ∃ ds, cs = ds ++ '"' :: left ∧ StringText s ds := by
  fun_induction string size cs generalizing s with
  | case1 => cases h
  | case2 => cases h
  | case3 =>
    cases h
    exact ⟨[], rfl, .nil⟩
  | case4 size rest ih =>
    obtain ⟨c, behind, hescape, hstring⟩ := Reading.andThen_eq_ok h
    obtain ⟨es, rfl, hes⟩ := exists_escape hescape
    obtain ⟨t, hbehind, rfl⟩ := Reading.mapResult_eq_ok hstring
    obtain ⟨ds, rfl, hds⟩ := ih behind hbehind
    exact ⟨'\\' :: es ++ ds, by simp, .cons hes hds⟩
  | case5 => cases h
  | case6 size c rest hquote hbackslash hcontrol ih =>
    obtain ⟨t, hstring, rfl⟩ := Reading.mapResult_eq_ok h
    obtain ⟨ds, rfl, hds⟩ := ih hstring
    exact ⟨c :: ds, rfl, .cons (.plain (Nat.not_lt.mp hcontrol) hquote hbackslash) hds⟩

end Strings

namespace Numeral

variable {cs left : List Char} {v : Json} {negative : Bool} {s : Significand} {power : Int}

theorem digitRun_append_afterDigits (cs : List Char) : digitRun cs ++ afterDigits cs = cs :=
  List.takeWhile_append_dropWhile

theorem isDigit_of_mem_digitRun {c : Char} (h : c ∈ digitRun cs) : Decimal.isDigit c = true :=
  List.mem_takeWhile_imp h

theorem left_of_floating (h : floating negative s power cs = .ok (v, left)) : cs = left := by
  unfold floating at h
  split at h
  · cases h
    rfl
  · cases h

theorem left_of_whole (h : whole negative s cs = .ok (v, left)) : cs = left := by
  unfold whole at h
  split_ifs at h
  · exact left_of_floating h
  · cases h
    rfl
  · exact left_of_floating h
  · cases h
    rfl

theorem afterDigits_of_readExponent (cs : List Char) (acc : Nat) :
    (∃ e, readExponent acc cs = (some e, afterDigits cs)) ∨
      ∃ left, readExponent acc cs = (none, left) ∧ afterDigits left = afterDigits cs := by
  induction cs generalizing acc with
  | nil => exact .inl ⟨acc, rfl⟩
  | cons c cs ih =>
    rw [readExponent, afterDigits]
    cases hc : Decimal.digit? c with
    | none =>
      refine .inl ⟨acc, ?_⟩
      rw [List.dropWhile_cons_of_neg (by simp [Decimal.isDigit, hc])]
    | some d =>
      rw [List.dropWhile_cons_of_pos (by simp [Decimal.isDigit, hc])]
      simp only
      split_ifs
      · exact .inr ⟨cs, rfl, rfl⟩
      · exact ih _

theorem digitRun_of_exponent {power : Nat → Int} {isTooLarge : Prop} [Decidable isTooLarge]
    (h : (match cs with
      | [] => stopAtEnd .endInValue
      | c :: _ =>
        if !Decimal.isDigit c then stopAt .invalidNumber cs
        else match readExponent 0 cs with
          | (some e, left) => floating negative s (power e) left
          | (none, left) =>
            if isTooLarge then stopBefore .numberTooLarge left
            else .ok (.real ⟨negative, .zero⟩, afterDigits left)) = .ok (v, left)) :
    digitRun cs ≠ [] ∧ cs = digitRun cs ++ left := by
  cases cs with
  | nil => cases h
  | cons c cs =>
    by_cases hc : Decimal.isDigit c = true
    · simp only [hc, Bool.not_true, Bool.false_eq_true, if_false] at h
      have hrun : digitRun (c :: cs) ≠ [] := by
        rw [digitRun, List.takeWhile_cons_of_pos hc]
        exact List.cons_ne_nil _ _
      have hleft : afterDigits (c :: cs) = left := by
        rcases afterDigits_of_readExponent (c :: cs) 0 with ⟨e, he⟩ | ⟨rest, hrest, hafter⟩
        · simp only [he] at h
          exact left_of_floating h
        · simp only [hrest] at h
          split_ifs at h
          · cases h
          · cases h
            exact hafter.symm
      rw [← hleft]
      exact ⟨hrun, (digitRun_append_afterDigits (c :: cs)).symm⟩
    · simp only [hc, Bool.not_false, if_true] at h
      cases h

theorem exists_exponent {mark : Char} (hmark : mark = 'e' ∨ mark = 'E')
    (h : exponent negative s cs = .ok (v, left)) :
    ∃ e : Exponent, mark :: cs = e.chars ++ left := by
  have hsigned (sign : Option Char) {rest : List Char} (hsign : ∀ c ∈ sign, c = '+' ∨ c = '-')
      (hdigits : digitRun rest ≠ [] ∧ rest = digitRun rest ++ left) :
      ∃ e : Exponent, mark :: (sign.toList ++ rest) = e.chars ++ left := by
    obtain ⟨hne, hrest⟩ := hdigits
    refine ⟨⟨mark, sign, digitRun rest, hmark, hsign, hne, fun _ => isDigit_of_mem_digitRun⟩, ?_⟩
    rw [Exponent.chars, List.cons_append, List.append_assoc, ← hrest]
  unfold exponent at h
  have hdigits := digitRun_of_exponent h
  clear h
  split at hdigits
  · exact hsigned (some '+') (by simp) hdigits
  · exact hsigned (some '-') (by simp) hdigits
  · exact hsigned none (by simp) hdigits

theorem exists_part (h : part negative s cs = .ok (v, left)) :
    ∃ (digits : List Char) (e : Option Exponent), digits ≠ [] ∧
      (∀ c ∈ digits, Decimal.isDigit c = true) ∧
      cs = digits ++ (e.elim [] Exponent.chars ++ left) := by
  have hcs := digitRun_append_afterDigits cs
  have hdigits : ∀ c ∈ digitRun cs, Decimal.isDigit c = true := fun _ => isDigit_of_mem_digitRun
  unfold part at h
  generalize digitRun cs = digits at h hcs hdigits
  generalize afterDigits cs = behind at h hcs
  cases digits with
  | nil => cases behind <;> cases h
  | cons d ds =>
    have hne := List.cons_ne_nil d ds
    split at h
    · contradiction
    · contradiction
    · obtain ⟨e, he⟩ := exists_exponent (.inl rfl) h
      exact ⟨d :: ds, some e, hne, hdigits, by rw [← hcs, he, Option.elim_some]⟩
    · obtain ⟨e, he⟩ := exists_exponent (.inr rfl) h
      exact ⟨d :: ds, some e, hne, hdigits, by rw [← hcs, he, Option.elim_some]⟩
    · obtain rfl := left_of_floating h
      exact ⟨d :: ds, none, hne, hdigits, hcs.symm⟩

theorem isWhole_digitRun {c : Char} {rest : List Char} (hc : Decimal.isDigit c = true)
    (hzero : ¬(c = '0' ∧ rest.head?.any Decimal.isDigit = true)) :
    Decimal.IsWhole (digitRun (c :: rest)) where
  ne_nil := by
    rw [digitRun, List.takeWhile_cons_of_pos hc]
    exact List.cons_ne_nil _ _
  isDigit _ := isDigit_of_mem_digitRun
  noLeadingZero := by
    rw [digitRun, List.takeWhile_cons_of_pos hc]
    intro hhead
    obtain rfl : c = '0' := Option.some.inj hhead
    have hrest : NoDigit rest := by
      intro d hd
      rw [Bool.eq_false_iff]
      intro hdigit
      exact hzero ⟨rfl, by rw [Option.mem_def.mp hd]; exact hdigit⟩
    have hrun := hrest.digitRun_eq_nil
    rw [digitRun] at hrun
    rw [hrun]

theorem exists_literal_unsigned (h : unsigned negative cs = .ok (v, left)) :
    ∃ l : Literal, l.negative = negative ∧ cs = l.whole ++ (l.tail ++ left) := by
  unfold unsigned at h
  split at h
  · cases h
  · rename_i c rest
    split_ifs at h with hc hzero
    · cases h
    · cases h
    · have hcs := digitRun_append_afterDigits (c :: rest)
      have hwhole := isWhole_digitRun (by simpa using hc) hzero
      simp only at h
      split at h
      · rename_i behind hafter
        obtain ⟨digits, e, hne, hdigits, rfl⟩ := exists_part h
        refine ⟨⟨negative, _, some digits, e, hwhole, ?_⟩, rfl, ?_⟩
        · rintro ds ⟨⟩
          exact ⟨hne, hdigits⟩
        · rw [hafter] at hcs
          simp [Literal.tail, hcs]
      · rename_i behind hafter
        obtain ⟨e, he⟩ := exists_exponent (.inl rfl) h
        refine ⟨⟨negative, _, none, some e, hwhole, by simp⟩, rfl, ?_⟩
        rw [hafter, he] at hcs
        simp [Literal.tail, hcs]
      · rename_i behind hafter
        obtain ⟨e, he⟩ := exists_exponent (.inr rfl) h
        refine ⟨⟨negative, _, none, some e, hwhole, by simp⟩, rfl, ?_⟩
        rw [hafter, he] at hcs
        simp [Literal.tail, hcs]
      · obtain rfl := left_of_whole h
        refine ⟨⟨negative, _, none, none, hwhole, by simp⟩, rfl, ?_⟩
        simp [Literal.tail, hcs]

theorem exists_literal (h : read cs = .ok (v, left)) : ∃ l : Literal, cs = l.chars ++ left := by
  unfold read at h
  split at h
  · obtain ⟨l, hl, rfl⟩ := exists_literal_unsigned h
    refine ⟨l, ?_⟩
    simp [Literal.chars, hl]
  · obtain ⟨l, hl, rfl⟩ := exists_literal_unsigned h
    refine ⟨l, ?_⟩
    simp [Literal.chars, hl]

end Numeral

section Layout

variable {α : Type} {p : α → List Char → Prop} {read : List Char → Reading α} {b : Brackets}
  {as : List α} {cs left : List Char} {n size : Nat}

/-- A reader accepts nothing but blanks and a text of the grammar, unless the text goes on. -/
def Accepts (p : α → List Char → Prop) (read : List Char → Reading α) : Prop :=
  ∀ ⦃cs a left⦄, read cs = .ok (a, left) → Numeral.Ends left →
    ∃ front part, cs = front ++ (part ++ left) ∧ IsBlank front ∧ p a part

theorem isBlank_append {front back : List Char} (hfront : IsBlank front) (hback : IsBlank back) :
    IsBlank (front ++ back) := by
  intro c hc
  rcases List.mem_append.mp hc with hc | hc
  · exact hfront c hc
  · exact hback c hc

theorem exists_blank (cs : List Char) : ∃ front, cs = front ++ skipBlank cs ∧ IsBlank front :=
  ⟨cs.takeWhile isBlank, List.takeWhile_append_dropWhile.symm, fun _ => List.mem_takeWhile_imp⟩

inductive Goes (b : Brackets) (p : α → List Char → Prop) (left : List Char) :
    List α → List Char → Prop
  | close {back : List Char} : IsBlank back → Goes b p left [] (back ++ b.close :: left)
  | comma {as : List α} {back ds : List Char} : IsBlank back → Joined p as ds →
      Goes b p left as (back ++ ',' :: (ds ++ b.close :: left))

theorem Goes.ends (h : Goes b p left as cs) : Numeral.Ends cs := by
  cases h with
  | close hback => exact ends_append hback (b.ends_close left)
  | comma hback _ => exact ends_append hback (Numeral.ends_cons (by decide) _)

theorem Goes.joined {a : α} {front part : List Char} (h : Goes b p left as cs)
    (hfront : IsBlank front) (hpart : p a part) :
    ∃ ds, front ++ (part ++ cs) = ds ++ b.close :: left ∧ Joined p (a :: as) ds := by
  cases h with
  | @close back hback => exact ⟨_, by simp, .last (.pad hfront hpart hback)⟩
  | @comma as back ds hback hds => exact ⟨_, by simp, .more (.pad hfront hpart hback) hds⟩

namespace Brackets

theorem exists_joined {gap ds : List Char} (haccepts : Accepts p read) (hgap : IsBlank gap)
    (hmore : ∀ ⦃as cs⦄, b.more read n cs = .ok (as, left) → Goes b p left as cs)
    (h : (read ds).andThen (fun a left => (b.more read n left).mapResult (a :: ·)) =
      .ok (as, left)) :
    ∃ es, gap ++ ds = es ++ b.close :: left ∧ Joined p as es := by
  obtain ⟨a, behind, hread, hbehind⟩ := Reading.andThen_eq_ok h
  obtain ⟨others, hothers, rfl⟩ := Reading.mapResult_eq_ok hbehind
  have hgoes := hmore hothers
  obtain ⟨front, part, rfl, hfront, hpart⟩ := haccepts hread hgoes.ends
  rw [← List.append_assoc]
  exact hgoes.joined (isBlank_append hgap hfront) hpart

theorem goes_of_more (haccepts : Accepts p read) (h : b.more read n cs = .ok (as, left)) :
    Goes b p left as cs := by
  induction n generalizing cs as with
  | zero => cases h
  | succ n ih =>
    obtain ⟨back, hcs, hback⟩ := exists_blank cs
    rw [more] at h
    split at h
    · cases h
    · rename_i c rest hskip
      rw [hskip] at hcs
      split_ifs at h with hclose hcomma
      · cases h
        rw [hcs, hclose]
        exact .close hback
      · obtain ⟨gap, hrest, hgap⟩ := exists_blank rest
        split at h
        · cases h
        · rename_i d ds hskip'
          rw [hskip'] at hrest
          split_ifs at h with hend
          · cases h
          · obtain ⟨es, hes, hjoined⟩ := exists_joined haccepts hgap (fun _ _ => ih) h
            rw [hcs, hcomma, hrest, hes]
            exact .comma hback hjoined
      · cases h

theorem exists_listed (haccepts : Accepts p read) (h : b.parts read size cs = .ok (as, left)) :
    ∃ es, cs = es ++ b.close :: left ∧ Listed p as es := by
  obtain ⟨gap, hcs, hgap⟩ := exists_blank cs
  rw [parts] at h
  split at h
  · cases h
  · rename_i c rest hskip
    rw [hskip] at hcs
    split_ifs at h with hclose
    · cases h
      exact ⟨gap, by rw [hcs, hclose], .nothing hgap⟩
    · obtain ⟨es, hes, hjoined⟩ :=
        exists_joined haccepts hgap (fun _ _ => goes_of_more haccepts) h
      exact ⟨es, hcs.trans hes, .parts hjoined⟩

end Brackets

end Layout

section Values

variable {v : Json} {p : Json → List Char → Prop} {item : List Char → Reading Json}
  {cs left : List Char} {size : Nat}

theorem accepts_member (haccepts : Accepts p item) :
    Accepts (MemberText p) (member item size) := by
  intro cs a left h hleft
  unfold member at h
  split at h
  · rename_i rest
    obtain ⟨name, behind, hstring, hmember⟩ := Reading.andThen_eq_ok h
    obtain ⟨quoted, rfl, hquoted⟩ := exists_stringText hstring
    obtain ⟨v, hvalue, rfl⟩ := Reading.mapResult_eq_ok hmember
    obtain ⟨gap, hbehind, hgap⟩ := exists_blank behind
    unfold memberValue at hvalue
    split at hvalue
    · cases hvalue
    · rename_i rest hskip
      obtain ⟨front, part, rfl, hfront, hpart⟩ := haccepts hvalue hleft
      rw [hskip] at hbehind
      have hname : StringText (String.ofList name).toList quoted := by
        rwa [String.toList_ofList]
      exact ⟨[], _, by simp [hbehind], by decide, .member hname hgap hfront hpart⟩
    · cases hvalue
  · cases h

theorem spells_of_scalar (h : Scalar v cs) (depth : Nat) : Spells depth v cs := by
  cases depth with
  | zero => exact h
  | succ depth => exact .scalar h

theorem append_of_word {w : Json} {ws : List Char} (h : word w ws cs = .ok (v, left)) :
    cs = ws ++ left ∧ w = v := by
  induction ws generalizing cs with
  | nil =>
    cases h
    exact ⟨rfl, rfl⟩
  | cons c ws ih =>
    cases cs with
    | nil => cases h
    | cons d cs =>
      rw [word] at h
      split_ifs at h with heq
      · obtain ⟨rfl, hw⟩ := ih h
        exact ⟨by rw [heq, List.cons_append], hw⟩
      · cases h

theorem accepts_value_of {depth : Nat}
    (hinner : ∀ d, depth = d + 1 → Accepts (Spells d) (value size d)) :
    Accepts (Spells depth) (value size depth) := by
  intro cs v left h hleft
  obtain ⟨front, hcs, hfront⟩ := exists_blank cs
  have hscalar {part : List Char} (heq : skipBlank cs = part ++ left) (hpart : Scalar v part) :
      ∃ front part, cs = front ++ (part ++ left) ∧ IsBlank front ∧ Spells depth v part :=
    ⟨front, part, heq ▸ hcs, hfront, spells_of_scalar hpart depth⟩
  rw [value.eq_def] at h
  simp only at h
  split at h
  · cases h
  · rename_i rest hskip
    obtain ⟨rfl, rfl⟩ := append_of_word h
    exact hscalar hskip .null
  · rename_i rest hskip
    obtain ⟨rfl, rfl⟩ := append_of_word h
    exact hscalar hskip (.bool true)
  · rename_i rest hskip
    obtain ⟨rfl, rfl⟩ := append_of_word h
    exact hscalar hskip (.bool false)
  · rename_i rest hskip
    obtain ⟨s, hstring, rfl⟩ := Reading.mapResult_eq_ok h
    obtain ⟨quoted, rfl, hquoted⟩ := exists_stringText hstring
    have hs : StringText (String.ofList s).toList quoted := by rwa [String.toList_ofList]
    exact hscalar (by simp [hskip]) (.str hs)
  · rename_i rest hskip
    split at h
    · cases h
    · rename_i d
      obtain ⟨vs, hitems, rfl⟩ := Reading.mapResult_eq_ok h
      rw [Brackets.items_eq] at hitems
      obtain ⟨es, hes, hlisted⟩ := Brackets.exists_listed (hinner d rfl) hitems
      have hrest : rest = es ++ ']' :: left := hes
      refine ⟨front, '[' :: (es ++ [']']), ?_, hfront, .arr hlisted⟩
      rw [hskip, hrest] at hcs
      simpa using hcs
  · rename_i rest hskip
    split at h
    · cases h
    · rename_i d
      obtain ⟨ps, hpairs, rfl⟩ := Reading.mapResult_eq_ok h
      rw [Brackets.pairs_eq] at hpairs
      obtain ⟨es, hes, hlisted⟩ := Brackets.exists_listed (accepts_member (hinner d rfl)) hpairs
      have hrest : rest = es ++ '\x7d' :: left := hes
      refine ⟨front, '\x7b' :: (es ++ ['\x7d']), ?_, hfront, .obj hlisted⟩
      rw [hskip, hrest] at hcs
      simpa using hcs
  · rename_i c rest _ _ _ _ _ _ hskip
    split_ifs at h
    · obtain ⟨l, hl⟩ := Numeral.exists_literal h
      rw [hl] at h
      exact hscalar (hskip.trans hl) (.number ((Numeral.read_append_iff hleft).mp h))
    · cases h

theorem accepts_value (size depth : Nat) : Accepts (Spells depth) (value size depth) := by
  induction depth with
  | zero => exact accepts_value_of nofun
  | succ depth ih =>
    refine accepts_value_of fun d hd => ?_
    rwa [← Nat.succ.inj hd]

/-- The texts that are read are those of values, with blanks around them. -/
theorem read_eq_ok_iff {text : String} :
    Json.read text = .ok v ↔ Padded (Spells depthLimit) v text.toList := by
  refine ⟨fun h => ?_, read_of_padded⟩
  unfold Json.read at h
  simp only at h
  split at h
  · cases h
  · rename_i left hvalue
    split at h
    · rename_i hskip
      obtain rfl := Except.ok.inj h
      obtain ⟨back, hleft, hback⟩ := exists_blank left
      rw [hskip, List.append_nil] at hleft
      rw [← hleft] at hback
      obtain ⟨front, cs, hcs, hfront, hspells⟩ := accepts_value _ _ hvalue hback.ends
      rw [hcs]
      exact .pad hfront hspells hback
    · cases h

end Values

end AnalyzerAdmin.Json
