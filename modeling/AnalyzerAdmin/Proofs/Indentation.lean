import AnalyzerAdmin.Proofs.Printing
import AnalyzerAdmin.Proofs.Recognition

/-!
# Indented texts

A value without floating-point numbers comes back from its indented text. The values that are read
at all are known by their shape (`regular_iff`): integers fit 64 bits, members stand in the order of
their names, and containers nest as deep as the reader goes. Indentation keeps this shape and only
puts blanks between the parts, so the text is one of the grammar, whatever follows it.
-/

namespace AnalyzerAdmin.Json

inductive Integral : Json → Prop
  | null : Integral .null
  | bool (b : Bool) : Integral (.bool b)
  | int (i : Int) : Integral (.int i)
  | str (s : String) : Integral (.str s)
  | arr {vs : List Json} : (∀ v ∈ vs, Integral v) → Integral (.arr vs)
  | obj {ps : Members} : (∀ p ∈ ps, Integral p.2) → Integral (.obj ps)

/-- The shape of a value that was read and has no floating-point number, with at most `depth`
containers inside one another. -/
inductive Regular : Nat → Json → Prop
  | null {depth : Nat} : Regular depth .null
  | bool {depth : Nat} (b : Bool) : Regular depth (.bool b)
  | int {depth : Nat} {i : Int} : -2 ^ 63 ≤ i → i < 2 ^ 64 → Regular depth (.int i)
  | str {depth : Nat} (s : String) : Regular depth (.str s)
  | arr {depth : Nat} {vs : List Json} : (∀ v ∈ vs, Regular depth v) →
      Regular (depth + 1) (.arr vs)
  | obj {depth : Nat} {ps : Members} : (ps.map Prod.fst).Pairwise (· < ·) →
      (∀ p ∈ ps, Regular depth p.2) → Regular (depth + 1) (.obj ps)

variable {v : Json} {cs front : List Char} {depth : Nat}

theorem Regular.integral (h : Regular depth v) : v.Integral := by
  induction h with
  | null => exact .null
  | bool b => exact .bool b
  | int => exact .int _
  | str s => exact .str s
  | arr _ ih => exact .arr ih
  | obj _ _ ih => exact .obj ih

section Shape

theorem exists_of_joined {α : Type} {p : α → List Char → Prop} {as : List α} {cs : List Char}
    (h : Joined p as cs) : ∀ a ∈ as, ∃ ds, p a ds := by
  have hpart {a : α} {ds : List Char} (h : Padded p a ds) : ∃ es, p a es := by
    obtain ⟨-, hes, -⟩ := h
    exact ⟨_, hes⟩
  induction h with
  | last ha => exact List.forall_mem_singleton.mpr (hpart ha)
  | more ha _ ih => exact List.forall_mem_cons.mpr ⟨hpart ha, ih⟩

theorem exists_of_listed {α : Type} {p : α → List Char → Prop} {as : List α} {cs : List Char}
    (h : Listed p as cs) : ∀ a ∈ as, ∃ ds, p a ds := by
  cases h with
  | nothing => exact fun a ha => absurd ha List.not_mem_nil
  | parts hjoined => exact exists_of_joined hjoined

theorem regular_of_scalar (h : Scalar v cs) (hv : v.Integral) (depth : Nat) : Regular depth v := by
  cases h with
  | null => exact .null
  | bool b => exact .bool b
  | number hread =>
    cases Literal.denotes_of_read hread with
    | int hl => exact .int hl.min hl.max
    | real => cases hv
  | str => exact .str _

theorem regular_of_spells (h : Spells depth v cs) (hv : v.Integral) : Regular depth v := by
  induction depth generalizing v cs with
  | zero => exact regular_of_scalar h hv 0
  | succ depth ih =>
    cases h with
    | scalar h => exact regular_of_scalar h hv (depth + 1)
    | arr hlisted =>
      cases hv with
      | arr hvs =>
        refine .arr fun v hv => ?_
        obtain ⟨ds, hds⟩ := exists_of_listed hlisted v hv
        exact ih hds (hvs v hv)
    | obj hlisted =>
      cases hv with
      | obj hps =>
        refine .obj (Members.pairwise_ofWritten _) fun p hp => ?_
        obtain ⟨_, ⟨-, -, -, hds⟩⟩ := exists_of_listed hlisted p (Members.mem_of_mem_ofWritten hp)
        exact ih hds (hps _ hp)

end Shape

section Texts

theorem isBlank_newLine (depth : Nat) : IsBlank (newLine depth) := by
  intro c hc
  rcases List.mem_cons.mp hc with rfl | hspace
  · rfl
  · rw [List.eq_of_mem_replicate hspace]
    rfl

theorem indentedItems_eq (depth : Nat) (vs : List Json) :
    indentedItems depth vs =
      partsBehind (newLine (depth + 1)) (newLine depth) ']' (indented (depth + 1)) vs := by
  induction vs with
  | nil => rfl
  | cons v vs ih => simp [indentedItems, partsBehind, ih]

def indentedMember (depth : Nat) (p : String × Json) : List Char :=
  writtenString p.1 ++ ':' :: ' ' :: p.2.indented depth

theorem indentedMembers_eq (depth : Nat) (ps : Members) :
    indentedMembers depth ps =
      partsBehind (newLine (depth + 1)) (newLine depth) '\x7d' (indentedMember (depth + 1)) ps := by
  induction ps with
  | nil => rfl
  | cons p ps ih => simp [indentedMembers, partsBehind, indentedMember, ih]

theorem listed_lines {α : Type} {p : α → List Char → Prop} {part : α → List Char}
    (depth : Nat) (close : Char) (a : α) (as : List α) (h : ∀ x ∈ a :: as, p x (part x)) :
    ∃ body, newLine (depth + 1) ++ (part a ++
        partsBehind (newLine (depth + 1)) (newLine depth) close part as) = body ++ [close] ∧
      Listed p (a :: as) body := by
  obtain ⟨body, hbody, hjoined⟩ :=
    exists_joined (isBlank_newLine (depth + 1)) (isBlank_newLine depth) close a as h
  exact ⟨body, hbody, .parts hjoined⟩

theorem spells_indented (h : Regular depth v) (level : Nat) :
    Spells depth v (v.indented level) := by
  have hnone : IsBlank [] := by decide
  have hspace : IsBlank [' '] := by decide
  induction h generalizing level with
  | null => exact spells_of_scalar .null _
  | bool b => exact spells_of_scalar (.bool b) _
  | int hmin hmax => exact spells_of_scalar (scalar_ofInt hmin hmax) _
  | str s => exact spells_of_scalar (.str (stringText_flatMap s.toList)) _
  | @arr depth vs _ ih =>
    cases vs with
    | nil => exact .arr (.nothing hnone)
    | cons v vs =>
      obtain ⟨body, hbody, hlisted⟩ := listed_lines level ']' v vs fun w hw => ih w hw (level + 1)
      have htext : (arr (v :: vs)).indented level = '[' :: (body ++ [']']) := by
        rw [indented, indentedItems_eq, ← hbody]
        simp
      rw [htext]
      exact .arr hlisted
  | @obj depth ps hnames _ ih =>
    have hmember (q : String × Json) (hq : q ∈ ps) :
        MemberText (Spells depth) q (indentedMember (level + 1) q) :=
      memberText_written q.1 hspace (ih q hq (level + 1))
    have hspells {body : List Char} (hlisted : Listed (MemberText (Spells depth)) ps body) :
        Spells (depth + 1) (.obj ps) ('\x7b' :: (body ++ ['\x7d'])) := by
      have hobj : Spells (depth + 1) (.obj (Members.ofWritten ps)) ('\x7b' :: (body ++ ['\x7d'])) :=
        .obj hlisted
      rwa [Members.ofWritten_of_pairwise hnames] at hobj
    cases ps with
    | nil => exact hspells (.nothing hnone)
    | cons p ps =>
      obtain ⟨body, hbody, hlisted⟩ := listed_lines level '\x7d' p ps hmember
      have htext : (obj (p :: ps)).indented level = '\x7b' :: (body ++ ['\x7d']) := by
        rw [indented, indentedMembers_eq, ← hbody]
        simp [indentedMember]
      rw [htext]
      exact hspells hlisted

end Texts

section Pretty

theorem read_pretty_append (h : Regular depthLimit v) {back : String}
    (hback : IsBlank back.toList) :
    Json.read (v.pretty ++ back) = .ok v := by
  have hnone : IsBlank [] := by decide
  have hpadded := Padded.pad hnone (spells_indented h 0) hback
  refine read_of_padded ?_
  rwa [String.toList_append, pretty, String.toList_ofList]

theorem read_pretty (h : Regular depthLimit v) : Json.read v.pretty = .ok v := by
  have hnone : IsBlank "".toList := by decide
  have hread := read_pretty_append h hnone
  rwa [String.append_empty] at hread

theorem regular_iff : Regular depthLimit v ↔ v.Integral ∧ ∃ text, Json.read text = .ok v := by
  refine ⟨fun h => ⟨h.integral, _, read_pretty h⟩, ?_⟩
  rintro ⟨hv, text, hread⟩
  have hpadded := read_eq_ok_iff.mp hread
  generalize text.toList = cs at hpadded
  obtain ⟨-, hspells, -⟩ := hpadded
  exact regular_of_spells hspells hv

def leading? (text : String) : Option Json :=
  match value text.toList.length depthLimit text.toList with
  | .ok (v, _) => some v
  | .error _ => none

theorem leading?_pretty_append (h : Regular depthLimit v) {rest : String}
    (hrest : Numeral.Ends rest.toList) : leading? (v.pretty ++ rest) = some v := by
  have htext : (v.pretty ++ rest).toList = v.indented 0 ++ rest.toList := by
    rw [String.toList_append, pretty, String.toList_ofList]
  have hsize : (v.indented 0).length ≤ (v.pretty ++ rest).toList.length := by
    rw [htext, List.length_append]
    omega
  have hvalue := takes_spells _ depthLimit (spells_indented h 0) hsize hrest
  rw [← htext] at hvalue
  rw [leading?, hvalue]

end Pretty

end AnalyzerAdmin.Json
