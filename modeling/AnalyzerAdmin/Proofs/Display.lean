import AnalyzerAdmin.Proofs.Building
import AnalyzerAdmin.Proofs.Printing

/-!
# The text of a state

A state is rendered on one line that is read back. The object on it has the keys of the features
and of the attributes and no others, and its members build the state again, in whatever order they
come back. So states are told apart by their texts.
-/

namespace AnalyzerAdmin

namespace State

variable {s t : State} {members : Members}

theorem mem_members {p : String × Json} :
    p ∈ s.members ↔ (∃ f : Feature, p = (f.key, .bool (s.isOn f))) ∨
      ∃ a : Attribute, p = (a.key, .int (s.count a).toInt) := by
  rw [State.members, List.mem_append, List.mem_map, List.mem_map]
  refine or_congr (exists_congr fun f => ?_) (exists_congr fun a => ?_)
  · rw [and_iff_right f.mem_all, eq_comm]
  · rw [and_iff_right a.mem_all, eq_comm]

theorem spells_members (s : State) : ∀ p ∈ s.members, Json.Spells 126 p.2 p.2.compact := by
  intro p hp
  rcases mem_members.mp hp with ⟨f, rfl⟩ | ⟨a, rfl⟩
  · exact .scalar (.bool _)
  · have hmin := (s.count a).le_toInt
    have hmax := (s.count a).toInt_lt
    exact .scalar (Json.scalar_ofInt hmin (by omega))

theorem newline_not_mem_render (s : State) : '\n' ∉ s.render.toList := by
  refine Json.newline_not_mem_line fun p hp => ?_
  rcases mem_members.mp hp with ⟨f, rfl⟩ | ⟨a, rfl⟩
  · rw [Json.compact]
    cases s.isOn f <;> decide
  · rw [Json.compact]
    exact Decimal.not_mem_ofInt (by decide) (by decide) _

theorem fst_members (s : State) :
    s.members.map Prod.fst = Feature.all.map Feature.key ++ Attribute.all.map Attribute.key :=
  rfl

theorem nodup_fst_members (s : State) : (s.members.map Prod.fst).Nodup := by
  rw [fst_members]
  decide

theorem read_render (s : State) :
    ∃ members, Json.read s.render = .ok (.obj members) ∧ members.Perm s.members :=
  ⟨_, Json.read_line s.spells_members, Members.perm_ofWritten s.nodup_fst_members⟩

theorem get?_filter (h : members.Perm s.members) {known : String × Json → Bool} {name : String}
    {value : Json} (hmem : (name, value) ∈ s.members) (hknown : known (name, value) = true) :
    Members.get? (members.filter known) name = some value := by
  have hnodup : (members.map Prod.fst).Nodup :=
    (h.map Prod.fst).nodup_iff.mpr s.nodup_fst_members
  refine Members.get?_of_mem (hnodup.sublist (List.filter_sublist.map Prod.fst)) ?_
  exact List.mem_filter.mpr ⟨h.mem_iff.mpr hmem, hknown⟩

theorem names_filter (h : members.Perm s.members) (known : String × Json → Bool) :
    Members.names (members.filter known) = Members.names (s.members.filter known) := by
  rw [Members.names_eq, Members.names_eq]
  exact Members.foldr_insertName_congr fun n => ((h.filter _).map Prod.fst).mem_iff

theorem ofMembers_of_perm (h : members.Perm s.members) :
    ofMembers (members.filter fun p => (Feature.ofKey? p.1).isSome)
      (members.filter fun p => (Attribute.ofKey? p.1).isSome) = .ok s := by
  refine ofMembers_eq_ok_iff.mpr ⟨?_, ?_, fun f => ?_, fun a => ?_⟩
  · exact (names_filter h _).trans rfl
  · exact (names_filter h _).trans rfl
  · have hmem : (f.key, .bool (s.isOn f)) ∈ s.members := mem_members.mpr (.inl ⟨f, rfl⟩)
    have hknown : (Feature.ofKey? f.key).isSome = true := by cases f <;> rfl
    rw [get?_filter h hmem hknown]
    rfl
  · have hmem : (a.key, .int (s.count a).toInt) ∈ s.members := mem_members.mpr (.inr ⟨a, rfl⟩)
    have hknown : (Attribute.ofKey? a.key).isSome = true := by cases a; rfl
    rw [get?_filter h hmem hknown]
    exact Json.signed?_toInt _

/-- A state is rendered on one line, and this line is an object from which the state is built
again: it has exactly the known keys, and its members are those of the two tables. States with one
text are one state. -/
theorem render_faithful (s : State) :
    '\n' ∉ s.render.toList ∧
      (∃ members, Json.read s.render = .ok (.obj members) ∧
        (members.map Prod.fst).Perm
          (Feature.all.map Feature.key ++ Attribute.all.map Attribute.key) ∧
        ofMembers (members.filter fun p => (Feature.ofKey? p.1).isSome)
          (members.filter fun p => (Attribute.ofKey? p.1).isSome) = .ok s) ∧
      ∀ t : State, s = t ↔ s.render = t.render := by
  obtain ⟨members, hread, hperm⟩ := s.read_render
  refine ⟨s.newline_not_mem_render, ⟨members, hread, hperm.map Prod.fst, ofMembers_of_perm hperm⟩,
    fun t => ⟨congrArg render, fun hrender => ?_⟩⟩
  -- One text is read as one object, and this object builds both states.
  obtain ⟨others, hread', hperm'⟩ := t.read_render
  rw [hrender, hread'] at hread
  cases hread
  exact Except.ok.inj ((ofMembers_of_perm hperm).symm.trans (ofMembers_of_perm hperm'))

example : (⟨true, false, false, true, Int64.minValue⟩ : State).render =
    "\x7b\"pa\":true,\"rca\":false,\"logging\":false,\"batch\":true," ++
      "\"shards_per_collection\":-9223372036854775808\x7d" := by
  decide +kernel

end State

end AnalyzerAdmin
