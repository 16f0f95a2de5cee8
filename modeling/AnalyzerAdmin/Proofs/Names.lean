import AnalyzerAdmin.Json.Basic
import Mathlib.Data.List.Sort

/-!
# Members in the order of their names

Lists of names are kept ascending, so a list is known from the names in it. Members of different
names are only put in order: the object has the written pairs and no others, and what stands under
a name is found there.
-/

namespace AnalyzerAdmin.Members

section Ascending

theorem mem_insertName {name n : String} {names : List String} :
    n ∈ insertName name names ↔ n = name ∨ n ∈ names := by
  induction names with
  | nil => exact List.mem_cons
  | cons m names ih =>
    rw [insertName]
    split_ifs with hlt heq
    · exact List.mem_cons
    · rw [← heq, List.mem_cons, or_self_left]
    · rw [List.mem_cons, ih, List.mem_cons, or_left_comm]

theorem pairwise_insertName {name : String} {names : List String} (h : names.Pairwise (· < ·)) :
    (insertName name names).Pairwise (· < ·) := by
  induction names with
  | nil => exact List.pairwise_singleton _ name
  | cons m names ih =>
    obtain ⟨hm, hnames⟩ := List.pairwise_cons.mp h
    rw [insertName]
    split_ifs with hlt heq
    · exact List.pairwise_cons.mpr ⟨List.forall_mem_cons.mpr
        ⟨hlt, fun n hn => String.lt_trans hlt (hm n hn)⟩, h⟩
    · exact h
    -- The name comes behind `m`, and the insertion goes on behind it.
    · have hlast : m < name :=
        String.not_le.mp fun hle => heq (String.le_antisymm hle (String.not_lt.mp hlt))
      refine List.pairwise_cons.mpr ⟨fun n hn => ?_, ih hnames⟩
      rcases mem_insertName.mp hn with rfl | hn
      · exact hlast
      · exact hm n hn

theorem mem_foldr_insertName {n : String} {names : List String} :
    n ∈ names.foldr insertName [] ↔ n ∈ names := by
  induction names with
  | nil => rfl
  | cons m names ih => rw [List.foldr_cons, mem_insertName, ih, List.mem_cons]

theorem pairwise_foldr_insertName (names : List String) :
    (names.foldr insertName []).Pairwise (· < ·) := by
  induction names with
  | nil => exact List.Pairwise.nil
  | cons m names ih => exact pairwise_insertName ih

theorem foldr_insertName_congr {names others : List String} (h : ∀ n, n ∈ names ↔ n ∈ others) :
    names.foldr insertName [] = others.foldr insertName [] := by
  have : Std.Irrefl (α := String) (· < ·) := ⟨String.lt_irrefl⟩
  have : Std.Antisymm (α := String) (· < ·) := ⟨fun a b hab hba => absurd hba (String.lt_asymm hab)⟩
  refine (pairwise_foldr_insertName names).eq_of_mem_iff (pairwise_foldr_insertName others) ?_
  intro n
  rw [mem_foldr_insertName, mem_foldr_insertName, h]

theorem names_eq (members : Members) :
    members.names = (members.map Prod.fst).foldr insertName [] := by
  rw [names, List.foldr_map]

end Ascending

variable {members : Members} {name : String} {value : Json}

theorem get?_of_mem (h : (members.map Prod.fst).Nodup) (hmem : (name, value) ∈ members) :
    members.get? name = some value := by
  induction members with
  | nil => exact absurd hmem List.not_mem_nil
  | cons p members ih =>
    obtain ⟨n, v⟩ := p
    obtain ⟨hfirst, hrest⟩ := List.nodup_cons.mp h
    rcases List.mem_cons.mp hmem with heq | hlater
    · cases heq
      exact List.lookup_cons_self
    · have hname : name ∈ members.map Prod.fst := List.mem_map_of_mem hlater
      have hne : (name == n) = false := by
        rw [beq_eq_false_iff_ne]
        rintro rfl
        exact hfirst hname
      rw [get?, List.lookup_cons, hne]
      exact ih hrest hlater

theorem mem_of_get? (h : members.get? name = some value) : (name, value) ∈ members := by
  obtain ⟨front, back, rfl, -⟩ := List.lookup_eq_some_iff.mp h
  exact List.mem_append_right front List.mem_cons_self

theorem get?_of_perm {others : Members} (h : members.Perm others)
    (hnames : (members.map Prod.fst).Nodup) (name : String) :
    members.get? name = others.get? name := by
  refine Option.ext fun value => ⟨fun hvalue => ?_, fun hvalue => ?_⟩
  · exact get?_of_mem ((h.map Prod.fst).nodup_iff.mp hnames) (h.mem_iff.mp (mem_of_get? hvalue))
  · exact get?_of_mem hnames (h.mem_iff.mpr (mem_of_get? hvalue))

theorem names_of_perm {others : Members} (h : members.Perm others) :
    members.names = others.names := by
  rw [names_eq, names_eq]
  exact foldr_insertName_congr fun n => (h.map Prod.fst).mem_iff

theorem perm_insert (h : name ∉ members.map Prod.fst) :
    (members.insert name value).Perm ((name, value) :: members) := by
  induction members with
  | nil => exact List.Perm.refl _
  | cons p members ih =>
    obtain ⟨n, v⟩ := p
    obtain ⟨hne, hrest⟩ := not_or.mp (mt List.mem_cons.mpr h)
    rw [insert]
    split_ifs with hlt
    · exact List.Perm.refl _
    · exact ((ih hrest).cons _).trans (List.Perm.swap _ _ _)

theorem perm_foldl_insert {pairs : List (String × Json)}
    (h : ((pairs ++ members).map Prod.fst).Nodup) :
    (pairs.foldl (fun members pair => members.insert pair.1 pair.2) members).Perm
      (pairs ++ members) := by
  induction pairs generalizing members with
  | nil => exact List.Perm.refl _
  | cons p pairs ih =>
    obtain ⟨n, v⟩ := p
    obtain ⟨hnew, hpairs⟩ := List.nodup_cons.mp h
    have hinsert : (insert n v members).Perm ((n, v) :: members) := by
      refine perm_insert fun hn => hnew ?_
      change n ∈ (pairs ++ members).map Prod.fst
      rw [List.map_append]
      exact List.mem_append_right _ hn
    have hperm : (pairs ++ insert n v members).Perm ((n, v) :: (pairs ++ members)) :=
      (hinsert.append_left pairs).trans List.perm_middle
    rw [List.foldl_cons]
    exact (ih ((hperm.map Prod.fst).nodup_iff.mpr h)).trans hperm

theorem perm_ofWritten {pairs : List (String × Json)} (h : (pairs.map Prod.fst).Nodup) :
    (ofWritten pairs).Perm pairs := by
  have hnodup : ((pairs ++ []).map Prod.fst).Nodup := by rwa [List.append_nil]
  have hperm := perm_foldl_insert hnodup
  rwa [List.append_nil] at hperm

theorem map_fst_insert (name : String) (value : Json) (members : Members) :
    (members.insert name value).map Prod.fst = insertName name (members.map Prod.fst) := by
  induction members with
  | nil => rfl
  | cons p members ih =>
    obtain ⟨n, v⟩ := p
    rw [insert, List.map_cons, insertName]
    split_ifs with hlt heq
    · rfl
    · rw [List.map_cons, heq]
    · rw [List.map_cons, ih]

theorem pairwise_foldl_insert {pairs : List (String × Json)}
    (h : (members.map Prod.fst).Pairwise (· < ·)) :
    ((pairs.foldl (fun members pair => members.insert pair.1 pair.2) members).map
      Prod.fst).Pairwise (· < ·) := by
  induction pairs generalizing members with
  | nil => exact h
  | cons p pairs ih =>
    have hinsert : ((members.insert p.1 p.2).map Prod.fst).Pairwise (· < ·) := by
      rw [map_fst_insert]
      exact pairwise_insertName h
    exact ih hinsert

theorem pairwise_ofWritten (pairs : List (String × Json)) :
    ((ofWritten pairs).map Prod.fst).Pairwise (· < ·) :=
  pairwise_foldl_insert List.Pairwise.nil

theorem eq_of_perm {others : Members} (hmembers : (members.map Prod.fst).Pairwise (· < ·))
    (hothers : (others.map Prod.fst).Pairwise (· < ·)) (h : members.Perm others) :
    members = others := by
  refine List.Perm.eq_of_pairwise ?_ (List.pairwise_map.mp hmembers)
    (List.pairwise_map.mp hothers) h
  intro p q _ _ hpq hqp
  exact absurd hqp (String.lt_asymm hpq)

theorem ofWritten_of_perm {pairs others : List (String × Json)}
    (hnames : (pairs.map Prod.fst).Nodup) (h : pairs.Perm others) :
    ofWritten pairs = ofWritten others := by
  have hothers := (h.map Prod.fst).nodup_iff.mp hnames
  exact eq_of_perm (pairwise_ofWritten pairs) (pairwise_ofWritten others)
    ((perm_ofWritten hnames).trans (h.trans (perm_ofWritten hothers).symm))

theorem ofWritten_of_pairwise (h : (members.map Prod.fst).Pairwise (· < ·)) :
    ofWritten members = members := by
  have hnodup : (members.map Prod.fst).Nodup := by
    refine h.imp ?_
    rintro name _ hlt rfl
    exact String.lt_irrefl name hlt
  exact eq_of_perm (pairwise_ofWritten members) h (perm_ofWritten hnodup)

theorem mem_of_mem_insert {p : String × Json} (h : p ∈ members.insert name value) :
    p = (name, value) ∨ p ∈ members := by
  induction members with
  | nil => exact .inl (List.mem_singleton.mp h)
  | cons q members ih =>
    obtain ⟨n, v⟩ := q
    rw [insert] at h
    split_ifs at h with hlt heq
    · exact List.mem_cons.mp h
    · exact (List.mem_cons.mp h).imp_right (List.mem_cons_of_mem _)
    · rcases List.mem_cons.mp h with rfl | hlater
      · exact .inr List.mem_cons_self
      · exact (ih hlater).imp_right (List.mem_cons_of_mem _)

theorem mem_of_mem_foldl_insert {p : String × Json} {pairs : List (String × Json)}
    (h : p ∈ pairs.foldl (fun members pair => members.insert pair.1 pair.2) members) :
    p ∈ pairs ∨ p ∈ members := by
  induction pairs generalizing members with
  | nil => exact .inr h
  | cons q pairs ih =>
    rcases ih h with hlater | hinserted
    · exact .inl (List.mem_cons_of_mem _ hlater)
    · rcases mem_of_mem_insert hinserted with rfl | hmem
      · exact .inl List.mem_cons_self
      · exact .inr hmem

theorem mem_of_mem_ofWritten {p : String × Json} {pairs : List (String × Json)}
    (h : p ∈ ofWritten pairs) : p ∈ pairs :=
  (mem_of_mem_foldl_insert h).resolve_right List.not_mem_nil

end AnalyzerAdmin.Members
