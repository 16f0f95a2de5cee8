import AnalyzerAdmin.Proofs.Literals

/-!
# Texts of values

A grammar of JSON texts that does not mention the reader, numbers apart: blanks between any two
parts, every escape of a character, literals of numbers, and lists and objects of such texts. The
reader takes each text of the grammar to its value, whatever follows it, and the objects in it to
their members by name.
-/

namespace AnalyzerAdmin.Json

def IsBlank (cs : List Char) : Prop := ∀ c ∈ cs, isBlank c = true

instance (cs : List Char) : Decidable (IsBlank cs) := List.decidableBAll _ cs

section Blanks

variable {front cs : List Char} {c : Char}

theorem skipBlank_append (h : IsBlank front) (cs : List Char) :
    skipBlank (front ++ cs) = skipBlank cs := by
  rw [skipBlank, List.dropWhile_append_of_pos h, skipBlank]

theorem skipBlank_append_cons (h : IsBlank front) (hc : isBlank c = false) (cs : List Char) :
    skipBlank (front ++ c :: cs) = c :: cs := by
  rw [skipBlank_append h, skipBlank_cons hc]

theorem ends_append (h : IsBlank front) (hcs : Numeral.Ends cs) : Numeral.Ends (front ++ cs) := by
  cases front with
  | nil => exact hcs
  | cons c front =>
    have hc := h c List.mem_cons_self
    simp only [isBlank, Bool.or_eq_true, decide_eq_true_eq] at hc
    refine Numeral.ends_cons ?_ (front ++ cs)
    rcases hc with ((rfl | rfl) | rfl) | rfl <;> decide

theorem IsBlank.ends (h : IsBlank front) : Numeral.Ends front := by
  have hends := ends_append h Numeral.ends_nil
  rwa [List.append_nil] at hends

theorem skipBlank_of_isBlank (h : IsBlank front) : skipBlank front = [] := by
  have hskip := skipBlank_append h []
  rwa [List.append_nil] at hskip

end Blanks

section Layout

variable {α : Type} {p : α → List Char → Prop} {a : α} {as : List α} {cs : List Char}

inductive Padded (p : α → List Char → Prop) (a : α) : List Char → Prop
  | pad {front cs back : List Char} : IsBlank front → p a cs → IsBlank back →
      Padded p a (front ++ (cs ++ back))

inductive Joined (p : α → List Char → Prop) : List α → List Char → Prop
  | last {a : α} {cs : List Char} : Padded p a cs → Joined p [a] cs
  | more {a : α} {as : List α} {cs ds : List Char} : Padded p a cs → Joined p as ds →
      Joined p (a :: as) (cs ++ ',' :: ds)

inductive Listed (p : α → List Char → Prop) : List α → List Char → Prop
  | nothing {cs : List Char} : IsBlank cs → Listed p [] cs
  | parts {as : List α} {cs : List Char} : Joined p as cs → Listed p as cs

def Opens (p : α → List Char → Prop) : Prop :=
  ∀ ⦃a cs⦄, p a cs → ∃ c ds, cs = c :: ds ∧ isBlank c = false ∧ c ≠ ']' ∧ c ≠ '}'

theorem Padded.opens (hp : Opens p) (h : Padded p a cs) (rest : List Char) :
    ∃ front c ds, cs ++ rest = front ++ c :: ds ∧ IsBlank front ∧ isBlank c = false ∧ c ≠ ']' ∧
      c ≠ '}' := by
  obtain @⟨front, part, back, hfront, hpart, -⟩ := h
  obtain ⟨c, ds, rfl, hc⟩ := hp hpart
  exact ⟨front, c, ds ++ back ++ rest, by simp, hfront, hc⟩

theorem Padded.length_pos (hp : Opens p) (h : Padded p a cs) : 0 < cs.length := by
  obtain ⟨front, c, ds, hcs, -⟩ := h.opens hp []
  have hlength := congrArg List.length hcs
  simp only [List.append_nil, List.length_append, List.length_cons] at hlength
  omega

theorem Joined.opens (hp : Opens p) (h : Joined p as cs) (rest : List Char) :
    ∃ front c ds, cs ++ rest = front ++ c :: ds ∧ IsBlank front ∧ isBlank c = false ∧ c ≠ ']' ∧
      c ≠ '}' := by
  cases h with
  | last hcs => exact hcs.opens hp rest
  | @more _ _ _ ds hcs _ =>
    rw [List.append_assoc]
    exact hcs.opens hp (',' :: ds ++ rest)

theorem Joined.length_le (hp : Opens p) (h : Joined p as cs) : as.length ≤ cs.length := by
  induction h with
  | last hcs => exact hcs.length_pos hp
  | more hcs _ ih =>
    have hpos := hcs.length_pos hp
    simp only [List.length_append, List.length_cons]
    omega

end Layout

/-- What lists and objects do not share: the bracket at the end, and the two defects. -/
structure Brackets where
  close : Char
  unclosed : Defect
  separator : Defect
  isClose : close = ']' ∨ close = '}'

namespace Brackets

variable {α : Type} {b : Brackets} {read : List Char → Reading α} {front : List Char} {c : Char}

def list : Brackets := ⟨']', .endInList, .expectedListEnd, .inl rfl⟩

def object : Brackets := ⟨'}', .endInObject, .expectedObjectEnd, .inr rfl⟩

def more (b : Brackets) (read : List Char → Reading α) : Nat → List Char → Reading (List α)
  | 0, _ => stopAtEnd b.unclosed
  | n + 1, cs =>
    match skipBlank cs with
    | [] => stopAtEnd b.unclosed
    | c :: cs =>
      if c = b.close then .ok ([], cs)
      else if c = ',' then
        match skipBlank cs with
        | [] => stopAtEnd .endInValue
        | d :: ds =>
          if d = b.close then stopAt .trailingComma (d :: ds)
          else (read (d :: ds)).andThen fun a left => (b.more read n left).mapResult (a :: ·)
      else stopAt b.separator (c :: cs)

def parts (b : Brackets) (read : List Char → Reading α) (size : Nat) (cs : List Char) :
    Reading (List α) :=
  match skipBlank cs with
  | [] => stopAtEnd b.unclosed
  | c :: cs =>
    if c = b.close then .ok ([], cs)
    else (read (c :: cs)).andThen fun a left => (b.more read size left).mapResult (a :: ·)

theorem moreItems_eq (item : List Char → Reading Json) (n : Nat) :
    moreItems item n = list.more item n := by
  induction n with
  | zero => rfl
  | succ n ih =>
    funext cs
    rw [moreItems, more, ← ih]
    grind [list]

theorem items_eq (item : List Char → Reading Json) (size : Nat) :
    items item size = list.parts item size := by
  funext cs
  rw [items, parts, ← moreItems_eq]
  grind [list]

theorem moreMembers_eq (item : List Char → Reading Json) (size n : Nat) :
    moreMembers item size n = object.more (member item size) n := by
  induction n with
  | zero => rfl
  | succ n ih =>
    funext cs
    rw [moreMembers, more, ← ih]
    grind [object]

theorem pairs_eq (item : List Char → Reading Json) (size : Nat) :
    pairs item size = object.parts (member item size) size := by
  funext cs
  rw [pairs, parts, ← moreMembers_eq]
  grind [object]

theorem isBlank_close (b : Brackets) : isBlank b.close = false := by
  rcases b.isClose with h | h <;> rw [h] <;> rfl

theorem ne_close (b : Brackets) (hbracket : c ≠ ']') (hbrace : c ≠ '}') : c ≠ b.close := by
  rcases b.isClose with h | h <;> rwa [h]

theorem ends_close (b : Brackets) (rest : List Char) : Numeral.Ends (b.close :: rest) := by
  refine Numeral.ends_cons ?_ rest
  rcases b.isClose with h | h <;> rw [h] <;> decide

theorem more_close (hfront : IsBlank front) (n : Nat) (rest : List Char) :
    b.more read (n + 1) (front ++ b.close :: rest) = .ok ([], rest) := by
  rw [more, skipBlank_append_cons hfront b.isBlank_close]
  exact if_pos rfl

theorem parts_close (hfront : IsBlank front) (size : Nat) (rest : List Char) :
    b.parts read size (front ++ b.close :: rest) = .ok ([], rest) := by
  rw [parts, skipBlank_append_cons hfront b.isBlank_close]
  exact if_pos rfl

theorem parts_cons (hfront : IsBlank front) (hc : isBlank c = false) (hclose : c ≠ b.close)
    (size : Nat) (cs : List Char) :
    b.parts read size (front ++ c :: cs) =
      (read (c :: cs)).andThen fun a left => (b.more read size left).mapResult (a :: ·) := by
  rw [parts, skipBlank_append_cons hfront hc]
  exact if_neg hclose

theorem more_comma {gap : List Char} (hgap : IsBlank gap) (hfront : IsBlank front)
    (hc : isBlank c = false) (hclose : c ≠ b.close) (n : Nat) (cs : List Char) :
    b.more read (n + 1) (gap ++ ',' :: (front ++ c :: cs)) =
      b.parts read n (front ++ c :: cs) := by
  have hcomma : ',' ≠ b.close := b.ne_close (by decide) (by decide)
  rw [more, skipBlank_append_cons hgap rfl, parts_cons hfront hc hclose]
  simp only [if_neg hcomma, if_true, skipBlank_append_cons hfront hc, if_neg hclose]

end Brackets

def Takes {α : Type} (p : α → List Char → Prop) (size : Nat) (read : List Char → Reading α) :
    Prop :=
  ∀ ⦃a cs⦄, p a cs → cs.length ≤ size → ∀ ⦃rest⦄, Numeral.Ends rest →
    read (cs ++ rest) = .ok (a, rest)

namespace Brackets

variable {α : Type} {p : α → List Char → Prop} {a : α} {as : List α} {cs : List Char}
  {size n : Nat} {b : Brackets} {read : List Char → Reading α}

theorem parts_padded (b : Brackets) (hp : Opens p) (htakes : Takes p size read)
    (h : Padded p a cs) (hsize : cs.length ≤ size) (n : Nat) {rest : List Char}
    (hrest : Numeral.Ends rest) :
    ∃ back, IsBlank back ∧
      b.parts read n (cs ++ rest) = (b.more read n (back ++ rest)).mapResult (a :: ·) := by
  obtain @⟨front, part, back, hfront, hpart, hback⟩ := h
  have hlength : part.length ≤ size := by
    simp only [List.length_append] at hsize
    omega
  have hread := htakes hpart hlength (ends_append hback hrest)
  obtain ⟨c, ds, rfl, hc, hbracket, hbrace⟩ := hp hpart
  refine ⟨back, hback, ?_⟩
  simp only [List.cons_append, List.append_assoc] at hread ⊢
  rw [parts_cons hfront hc (b.ne_close hbracket hbrace), hread, Reading.andThen_ok]

theorem parts_joined (b : Brackets) (hp : Opens p) (htakes : Takes p size read)
    (h : Joined p as cs) (hsize : cs.length ≤ size) (hn : as.length ≤ n) (rest : List Char) :
    b.parts read n (cs ++ b.close :: rest) = .ok (as, rest) := by
  induction h generalizing n with
  | last hcs =>
    obtain ⟨n, rfl⟩ := Nat.exists_eq_add_one_of_ne_zero (Nat.ne_of_gt hn)
    obtain ⟨back, hback, heq⟩ :=
      b.parts_padded hp htakes hcs hsize (n + 1) (b.ends_close rest)
    rw [heq, more_close hback, Reading.mapResult_ok]
  | @more a as cs ds hcs hds ih =>
    simp only [List.length_append, List.length_cons] at hsize hn
    obtain ⟨n, rfl⟩ := Nat.exists_eq_add_one_of_ne_zero (Nat.ne_of_gt (Nat.zero_lt_of_lt hn))
    have hcomma : Numeral.Ends (',' :: (ds ++ b.close :: rest)) :=
      Numeral.ends_cons (by decide) _
    obtain ⟨back, hback, heq⟩ := b.parts_padded hp htakes hcs (by omega) (n + 1) hcomma
    have hmore := ih (n := n) (by omega) (by omega)
    obtain ⟨front, c, es, hes, hfront, hc, hbracket, hbrace⟩ := hds.opens hp (b.close :: rest)
    rw [List.append_assoc, List.cons_append, heq]
    rw [hes] at hmore ⊢
    rw [more_comma hback hfront hc (b.ne_close hbracket hbrace), hmore, Reading.mapResult_ok]

theorem parts_listed (b : Brackets) (hp : Opens p) (htakes : Takes p size read)
    (h : Listed p as cs) (hsize : cs.length ≤ size) (rest : List Char) :
    b.parts read size (cs ++ b.close :: rest) = .ok (as, rest) := by
  cases h with
  | nothing hcs => exact parts_close hcs size rest
  | parts hcs =>
    have hlength := hcs.length_le hp
    exact b.parts_joined hp htakes hcs hsize (by omega) rest

end Brackets

section Values

inductive MemberText (p : Json → List Char → Prop) : String × Json → List Char → Prop
  | member {name : String} {v : Json} {quoted gap front cs : List Char} :
      StringText name.toList quoted → IsBlank gap → IsBlank front → p v cs →
      MemberText p (name, v) ('"' :: (quoted ++ '"' :: (gap ++ ':' :: (front ++ cs))))

inductive Scalar : Json → List Char → Prop
  | null : Scalar .null ['n', 'u', 'l', 'l']
  | bool (b : Bool) : Scalar (.bool b) (writtenWord b)
  | number {l : Literal} {v : Json} : Numeral.read l.chars = .ok (v, []) → Scalar v l.chars
  | str {s : String} {cs : List Char} : StringText s.toList cs →
      Scalar (.str s) ('"' :: (cs ++ ['"']))

inductive Compound (p : Json → List Char → Prop) : Json → List Char → Prop
  | scalar {v : Json} {cs : List Char} : Scalar v cs → Compound p v cs
  | arr {vs : List Json} {cs : List Char} : Listed p vs cs →
      Compound p (.arr vs) ('[' :: (cs ++ [']']))
  | obj {ps : List (String × Json)} {cs : List Char} : Listed (MemberText p) ps cs →
      Compound p (.obj (Members.ofWritten ps)) ('\x7b' :: (cs ++ ['\x7d']))

/-- The texts of a value that holds at most `depth` containers inside one another. -/
def Spells : Nat → Json → List Char → Prop
  | 0 => Scalar
  | depth + 1 => Compound (Spells depth)

variable {v : Json} {cs front : List Char} {p : Json → List Char → Prop} {size : Nat}

theorem memberText_written (name : String) (hfront : IsBlank front) (h : p v cs) :
    MemberText p (name, v) (writtenString name ++ ':' :: (front ++ cs)) := by
  have hnone : IsBlank [] := nofun
  have hmember := MemberText.member (stringText_flatMap name.toList) hnone hfront h
  simpa only [writtenString, List.cons_append, List.append_assoc, List.nil_append] using hmember

theorem opens_memberText : Opens (MemberText p) := by
  rintro _ _ ⟨⟩
  exact ⟨'"', _, rfl, rfl, by decide, by decide⟩

theorem opens_scalar : Opens Scalar := by
  intro v cs h
  cases h with
  | null => exact ⟨'n', _, rfl, rfl, by decide, by decide⟩
  | bool b => cases b <;> exact ⟨_, _, rfl, rfl, by decide, by decide⟩
  | @number l =>
    obtain ⟨c, ds, hcs, hc⟩ := l.exists_cons_chars
    refine ⟨c, ds, hcs, isBlank_of_numeral hc, ?_, ?_⟩
    · rintro rfl
      exact absurd hc (by decide)
    · rintro rfl
      exact absurd hc (by decide)
  | str => exact ⟨'"', _, rfl, rfl, by decide, by decide⟩

theorem opens_spells (depth : Nat) : Opens (Spells depth) := by
  intro v cs h
  cases depth with
  | zero => exact opens_scalar h
  | succ depth =>
    cases h with
    | scalar h => exact opens_scalar h
    | arr => exact ⟨'[', _, rfl, rfl, by decide, by decide⟩
    | obj => exact ⟨'\x7b', _, rfl, rfl, by decide, by decide⟩

theorem scalar_ofInt {i : Int} (hmin : -2 ^ 63 ≤ i) (hmax : i < 2 ^ 64) :
    Scalar (.int i) (Decimal.ofInt i) := by
  have hchars : (Literal.plain (decide (i < 0)) i.natAbs).chars = Decimal.ofInt i := by
    rw [Decimal.ofInt]
    split_ifs with hi <;> simp [Literal.chars, Literal.tail, Literal.plain, hi]
  have hread : Numeral.read (Decimal.ofInt i ++ []) = .ok (.int i, []) :=
    Numeral.read_ofInt hmin hmax Numeral.ends_nil
  rw [List.append_nil, ← hchars] at hread
  rw [← hchars]
  exact .number hread

theorem value_append (h : IsBlank front) (size depth : Nat) (cs : List Char) :
    value size depth (front ++ cs) = value size depth cs := by
  rw [value.eq_def, value.eq_def size depth cs]
  simp only [skipBlank_append h]

theorem value_quote (size depth : Nat) (cs : List Char) :
    value size depth ('"' :: cs) =
      (string size cs).mapResult fun s => .str (String.ofList s) := by
  rw [value.eq_def]
  rfl

theorem value_bracket (size depth : Nat) (cs : List Char) :
    value size (depth + 1) ('[' :: cs) =
      (items (value size depth) size cs).mapResult .arr :=
  rfl

theorem takes_member {read : List Char → Reading Json} (htakes : Takes p size read)
    (hblank : ∀ ⦃front⦄, IsBlank front → ∀ cs, read (front ++ cs) = read cs) :
    Takes (MemberText p) size (member read size) := by
  rintro _ _ @⟨name, v, quoted, gap, front, cs, hname, hgap, hfront, hcs⟩ hsize rest hrest
  simp only [List.length_cons, List.length_append] at hsize
  have hlength := length_le_of_stringText hname
  simp only [List.cons_append, List.append_assoc]
  rw [member, string_stringText hname (by omega), Reading.andThen_ok, memberValue,
    skipBlank_append_cons hgap rfl]
  simp only [hblank hfront, htakes hcs (by omega) hrest, Reading.mapResult_ok,
    String.ofList_toList]

theorem takes_scalar (size depth : Nat) : Takes Scalar size (value size depth) := by
  intro v cs h hsize rest hrest
  cases h with
  | null =>
    rw [value.eq_def]
    exact word_append .null ['u', 'l', 'l'] rest
  | bool b =>
    rw [value.eq_def]
    cases b with
    | true => exact word_append (.bool true) ['r', 'u', 'e'] rest
    | false => exact word_append (.bool false) ['a', 'l', 's', 'e'] rest
  | number hread => rw [Literal.value_literal, (Numeral.read_append_iff hrest).mpr hread]
  | @str s cs hs =>
    simp only [List.length_cons, List.length_append] at hsize
    have hlength := length_le_of_stringText hs
    have hlt : s.toList.length < size := by omega
    have hstring := string_stringText hs hlt rest
    simp only [List.cons_append, List.append_assoc, List.nil_append]
    rw [value_quote, hstring, Reading.mapResult_ok, String.ofList_toList]

theorem takes_spells (size depth : Nat) : Takes (Spells depth) size (value size depth) := by
  induction depth with
  | zero => exact takes_scalar size 0
  | succ depth ih =>
    intro v cs h hsize rest hrest
    cases h with
    | scalar h => exact takes_scalar size (depth + 1) h hsize hrest
    | @arr vs cs hcs =>
      simp only [List.length_cons, List.length_append] at hsize
      have hitems : items (value size depth) size (cs ++ ']' :: rest) = .ok (vs, rest) := by
        rw [Brackets.items_eq]
        exact Brackets.list.parts_listed (opens_spells depth) ih hcs (by omega) rest
      simp only [List.cons_append, List.append_assoc, List.nil_append]
      rw [value_bracket, hitems, Reading.mapResult_ok]
    | @obj ps cs hcs =>
      simp only [List.length_cons, List.length_append] at hsize
      have hmember := takes_member ih fun front hfront => value_append hfront size depth
      have hpairs : pairs (value size depth) size (cs ++ '\x7d' :: rest) = .ok (ps, rest) := by
        rw [Brackets.pairs_eq]
        exact Brackets.object.parts_listed opens_memberText hmember hcs (by omega) rest
      simp only [List.cons_append, List.append_assoc, List.nil_append]
      rw [value_brace, hpairs, Reading.mapResult_ok]

theorem read_of_padded {text : String} (h : Padded (Spells depthLimit) v text.toList) :
    Json.read text = .ok v := by
  generalize htext : text.toList = cs at h
  obtain @⟨front, part, back, hfront, hspells, hback⟩ := h
  have hsize : part.length ≤ (front ++ (part ++ back)).length := by
    simp only [List.length_append]
    omega
  have hvalue := takes_spells _ depthLimit hspells hsize hback.ends
  rw [← value_append hfront] at hvalue
  simp only [Json.read, htext, hvalue, skipBlank_of_isBlank hback]

def ObjectText (text : String) (ps : List (String × Json)) : Prop :=
  ∃ front cs back, text.toList = front ++ '\x7b' :: (cs ++ '\x7d' :: back) ∧ IsBlank front ∧
    Listed (MemberText (Spells 126)) ps cs ∧ IsBlank back

theorem read_objectText {text : String} {ps : List (String × Json)} (h : ObjectText text ps) :
    Json.read text = .ok (.obj (Members.ofWritten ps)) := by
  obtain ⟨front, cs, back, htext, hfront, hcs, hback⟩ := h
  have hspells : Spells depthLimit (.obj (Members.ofWritten ps)) ('\x7b' :: (cs ++ ['\x7d'])) :=
    .obj hcs
  refine read_of_padded ?_
  have hpadded := Padded.pad hfront hspells hback
  simpa [htext] using hpadded

end Values

end AnalyzerAdmin.Json
