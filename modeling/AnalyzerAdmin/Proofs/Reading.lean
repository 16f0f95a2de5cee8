import AnalyzerAdmin.Proofs.Numerals
import AnalyzerAdmin.Proofs.StringTexts

/-!
# One step of reading

Which reader goes on is seen from the first character that is no blank: a word, a numeral, a string,
or a container. The value of a member is read behind its name, and what is left is a matter of the
value alone.
-/

namespace AnalyzerAdmin.Json

theorem skipBlank_cons {c : Char} (h : isBlank c = false) (cs : List Char) :
    skipBlank (c :: cs) = c :: cs := by
  rw [skipBlank, List.dropWhile_cons_of_neg (by simp [h])]

theorem word_append (v : Json) (ws rest : List Char) : word v ws (ws ++ rest) = .ok (v, rest) := by
  induction ws with
  | nil => rfl
  | cons w ws ih => rw [List.cons_append, word, if_pos rfl, ih]

theorem isBlank_of_numeral {c : Char} (h : c = '-' ∨ Decimal.isDigit c = true) :
    isBlank c = false := by
  rw [Bool.eq_false_iff]
  intro hblank
  simp only [isBlank, Bool.or_eq_true, decide_eq_true_eq] at hblank
  rcases hblank with ((rfl | rfl) | rfl) | rfl <;> exact absurd h (by decide)

theorem value_numeral {c : Char} (h : c = '-' ∨ Decimal.isDigit c = true) (size depth : Nat)
    (cs : List Char) : value size depth (c :: cs) = Numeral.read (c :: cs) := by
  rw [value.eq_def]
  simp only [skipBlank_cons (isBlank_of_numeral h)]
  split
  case h_8 d ds _ _ _ _ _ _ heq =>
    obtain ⟨rfl, rfl⟩ := List.cons.inj heq
    exact if_pos h
  all_goals
    rename_i heq
    cases heq <;> exact absurd h (by decide)

section Objects

variable {depth size : Nat}

theorem Numeral.ends_nil : Numeral.Ends [] := by
  intro c hc
  cases hc

theorem Numeral.ends_cons {c : Char}
    (h : Decimal.isDigit c = false ∧ c ≠ '.' ∧ c ≠ 'e' ∧ c ≠ 'E') (cs : List Char) :
    Numeral.Ends (c :: cs) := by
  intro d hd
  obtain rfl : c = d := Option.some.inj hd
  exact h

theorem value_brace (cs : List Char) :
    value size (depth + 1) ('{' :: cs) =
      (pairs (value size depth) size cs).mapResult fun ps => .obj (Members.ofWritten ps) :=
  rfl

theorem pairs_quote (item : List Char → Reading Json) (size : Nat) (cs : List Char) :
    pairs item size ('"' :: cs) =
      (member item size ('"' :: cs)).andThen fun p left =>
        (moreMembers item size size left).mapResult (p :: ·) :=
  rfl

theorem moreMembers_comma (item : List Char → Reading Json) (size count : Nat) (cs : List Char) :
    moreMembers item size (count + 1) (',' :: '"' :: cs) =
      (member item size ('"' :: cs)).andThen fun p left =>
        (moreMembers item size count left).mapResult (p :: ·) :=
  rfl

theorem writtenString_append (name : String) (rest : List Char) :
    ∃ quoted, writtenString name ++ rest = '"' :: quoted :=
  ⟨_, rfl⟩

theorem member_quoted (item : List Char → Reading Json) {name : String}
    (hname : (writtenString name).length ≤ size) (cs : List Char) :
    member item size (writtenString name ++ ':' :: cs) =
      (item cs).mapResult fun v => (name, v) := by
  have hquoted := stringText_flatMap name.toList
  have hlength := length_le_of_stringText hquoted
  simp only [writtenString, List.length_cons, List.length_append] at hname
  have hsize : name.toList.length < size := by omega
  have hstring := string_stringText hquoted hsize (':' :: cs)
  simp only [writtenString, List.cons_append, List.append_assoc, List.nil_append]
  rw [member, hstring, Reading.andThen_ok, memberValue, skipBlank_cons rfl]
  simp only [String.ofList_toList]

theorem Reading.mapResult_andThen {α β γ : Type} (r : Reading α) (f : α → β)
    (next : β → List Char → Reading γ) :
    (r.mapResult f).andThen next = r.andThen fun a left => next (f a) left := by
  cases r with
  | error stop => rfl
  | ok result => rfl

theorem pairs_quoted (item : List Char → Reading Json) {name : String}
    (hname : (writtenString name).length ≤ size) (cs : List Char) :
    pairs item size (writtenString name ++ ':' :: cs) =
      (item cs).andThen fun v left =>
        (moreMembers item size size left).mapResult ((name, v) :: ·) := by
  have hmember := member_quoted item hname cs
  obtain ⟨quoted, hquoted⟩ := writtenString_append name (':' :: cs)
  rw [hquoted] at hmember ⊢
  rw [pairs_quote, hmember, Reading.mapResult_andThen]

theorem moreMembers_quoted (item : List Char → Reading Json) {name : String}
    (hname : (writtenString name).length ≤ size) (count : Nat) (cs : List Char) :
    moreMembers item size (count + 1) (',' :: (writtenString name ++ ':' :: cs)) =
      (item cs).andThen fun v left =>
        (moreMembers item size count left).mapResult ((name, v) :: ·) := by
  have hmember := member_quoted item hname cs
  obtain ⟨quoted, hquoted⟩ := writtenString_append name (':' :: cs)
  rw [hquoted] at hmember ⊢
  rw [moreMembers_comma, hmember, Reading.mapResult_andThen]

end Objects

end AnalyzerAdmin.Json
