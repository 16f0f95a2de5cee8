import AnalyzerAdmin.Proofs.Grammar

/-!
# Printed texts

The printer writes parts with commas between them, all with the same blanks in front, and the
bracket behind the last. This is a text of the grammar if the parts are, and so an object on one
line is read back: it has the members that were printed.
-/

namespace AnalyzerAdmin.Json

section Parts

variable {α : Type} {p : α → List Char → Prop} {part : α → List Char} {front back : List Char}

def partsBehind (front back : List Char) (close : Char) (part : α → List Char) :
    List α → List Char
  | [] => back ++ [close]
  | a :: as => ',' :: (front ++ (part a ++ partsBehind front back close part as))

theorem exists_joined (hfront : IsBlank front) (hback : IsBlank back) (close : Char) (a : α)
    (as : List α) (h : ∀ x ∈ a :: as, p x (part x)) :
    ∃ body, front ++ (part a ++ partsBehind front back close part as) = body ++ [close] ∧
      Joined p (a :: as) body := by
  induction as generalizing a with
  | nil =>
    have ha := h a List.mem_cons_self
    exact ⟨_, by simp [partsBehind], .last (.pad hfront ha hback)⟩
  | cons b bs ih =>
    obtain ⟨ha, hbs⟩ := List.forall_mem_cons.mp h
    obtain ⟨body, hbody, hjoined⟩ := ih b hbs
    have hnone : IsBlank [] := by decide
    refine ⟨_, ?_, .more (.pad hfront ha hnone) hjoined⟩
    rw [partsBehind, hbody]
    simp

end Parts

section Objects

variable {ps : List (String × Json)}

def compactMember (p : String × Json) : List Char := writtenString p.1 ++ ':' :: p.2.compact

theorem compactMembers_eq (ps : List (String × Json)) :
    compactMembers ps = partsBehind [] [] '\x7d' compactMember ps := by
  induction ps with
  | nil => rfl
  | cons p ps ih => simp [compactMembers, partsBehind, compactMember, ih]

theorem objectText_line (h : ∀ p ∈ ps, Spells 126 p.2 p.2.compact) :
    ObjectText (obj ps).line ps := by
  have hnone : IsBlank [] := by decide
  cases ps with
  | nil => exact ⟨[], [], [], String.toList_ofList, hnone, .nothing hnone, hnone⟩
  | cons p ps =>
    have hmembers : ∀ q ∈ p :: ps, MemberText (Spells 126) q (compactMember q) := fun q hq =>
      memberText_written q.1 hnone (h q hq)
    obtain ⟨body, hbody, hjoined⟩ := exists_joined hnone hnone '\x7d' p ps hmembers
    refine ⟨[], body, [], ?_, hnone, .parts hjoined, hnone⟩
    have hcompact : (obj (p :: ps)).compact = '\x7b' :: (body ++ ['\x7d']) := by
      rw [← hbody, compact, compactMembers_eq]
      simp [compactMember]
    rw [line, String.toList_ofList, hcompact]
    rfl

theorem read_line (h : ∀ p ∈ ps, Spells 126 p.2 p.2.compact) :
    Json.read (obj ps).line = .ok (.obj (Members.ofWritten ps)) :=
  read_objectText (objectText_line h)

theorem newline_not_mem_compactMembers (h : ∀ p ∈ ps, '\n' ∉ p.2.compact) :
    '\n' ∉ compactMembers ps := by
  induction ps with
  | nil => decide
  | cons p ps ih =>
    obtain ⟨hp, hps⟩ := List.forall_mem_cons.mp h
    simp [compactMembers, newline_not_mem_writtenString, hp, ih hps]

theorem newline_not_mem_line (h : ∀ p ∈ ps, '\n' ∉ p.2.compact) :
    '\n' ∉ (obj ps).line.toList := by
  rw [line, String.toList_ofList]
  cases ps with
  | nil => decide
  | cons p ps =>
    obtain ⟨hp, hps⟩ := List.forall_mem_cons.mp h
    simp [compact, newline_not_mem_writtenString, hp, newline_not_mem_compactMembers hps]

end Objects

end AnalyzerAdmin.Json
