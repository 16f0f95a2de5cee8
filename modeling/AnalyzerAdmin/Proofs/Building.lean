import AnalyzerAdmin.Proofs.Encoding
import AnalyzerAdmin.Proofs.Names

/-!
# Building a state from members

Members build a state exactly if their names are the known ones and each value is of the type that
its name demands; the state is then the one that shows these values. What a body reports under its
own fields builds the state that it reports.
-/

namespace AnalyzerAdmin

theorem Json.signed?_toInt (n : Int64) : (Json.int n.toInt).signed? = some n := by
  have hle := n.le_toInt
  have hlt := n.toInt_lt
  rw [signed?, if_pos ⟨hle, hlt⟩, Int64.ofInt_toInt]

namespace State

variable {members features attributes : Members} {s t : State}

theorem exists_turnAll {fs : List Feature}
    (h : ∀ f ∈ fs, ∃ on, (members.get? f.key).bind Json.bool? = some on) (s : State) :
    ∃ t, turnAll members fs s = .ok t := by
  induction fs generalizing s with
  | nil => exact ⟨s, rfl⟩
  | cons f fs ih =>
    obtain ⟨⟨on, hon⟩, hfs⟩ := List.forall_mem_cons.mp h
    rw [turnAll, hon]
    exact ih hfs (s.turn f on)

theorem exists_countAll {as : List Attribute}
    (h : ∀ a ∈ as, ∃ n, (members.get? a.key).bind Json.signed? = some n) (s : State) :
    ∃ t, countAll members as s = .ok t := by
  induction as generalizing s with
  | nil => exact ⟨s, rfl⟩
  | cons a as ih =>
    obtain ⟨⟨n, hn⟩, has⟩ := List.forall_mem_cons.mp h
    rw [countAll, hn]
    exact ih has (s.setCount a n)

theorem checkNames_ok {kind : KeyKind} {known : List String}
    (h : checkNames kind known members = .ok ()) :
    members.names = known.foldr Members.insertName [] := by
  rw [checkNames] at h
  split_ifs at h with hnames
  exact hnames

theorem ofMembers_eq_ok_iff :
    ofMembers features attributes = .ok s ↔
      features.names = (Feature.all.map Feature.key).foldr Members.insertName [] ∧
      attributes.names = (Attribute.all.map Attribute.key).foldr Members.insertName [] ∧
      (∀ f, (features.get? f.key).bind Json.bool? = some (s.isOn f)) ∧
      ∀ a, (attributes.get? a.key).bind Json.signed? = some (s.count a) := by
  constructor
  · intro h
    obtain ⟨hflags, hcounts⟩ := ofMembers_ok h
    obtain ⟨⟨⟩, hfeatures, h⟩ := bind_ok h
    obtain ⟨⟨⟩, hattributes, -⟩ := bind_ok h
    exact ⟨checkNames_ok hfeatures, checkNames_ok hattributes, hflags, hcounts⟩
  · rintro ⟨hfeatures, hattributes, hflags, hcounts⟩
    have hturns : ∀ f ∈ Feature.all, ∃ on, (features.get? f.key).bind Json.bool? = some on :=
      fun f _ => ⟨_, hflags f⟩
    have hsets : ∀ a ∈ Attribute.all, ∃ n, (attributes.get? a.key).bind Json.signed? = some n :=
      fun a _ => ⟨_, hcounts a⟩
    obtain ⟨turned, hturn⟩ := exists_turnAll hturns baseline
    obtain ⟨t, hcount⟩ := exists_countAll hsets turned
    have hok : ofMembers features attributes = .ok t := by
      simp only [ofMembers, checkNames, hfeatures, hattributes, if_true, bind, Except.bind, hturn,
        hcount]
    -- A state is known from what it shows, and both show the members.
    obtain ⟨hflags', hcounts'⟩ := ofMembers_ok hok
    rw [hok]
    refine congrArg Except.ok (ext_view (fun f => ?_) fun a => ?_)
    · exact Option.some.inj ((hflags' f).symm.trans (hflags f))
    · exact Option.some.inj ((hcounts' a).symm.trans (hcounts a))

theorem exists_attributeMembers {body : Members} {as : List Attribute}
    (h : ∀ a ∈ as, ∃ n, (body.get? a.field).bind Json.signed? = some n) :
    ∃ members, attributeMembers body as = .ok members ∧
      members.map Prod.fst = as.map Attribute.key := by
  induction as with
  | nil => exact ⟨[], rfl, rfl⟩
  | cons a as ih =>
    obtain ⟨⟨n, hn⟩, has⟩ := List.forall_mem_cons.mp h
    obtain ⟨value, hvalue, hsigned⟩ := Option.bind_eq_some_iff.mp hn
    obtain ⟨members, hmembers, hkeys⟩ := ih has
    refine ⟨(a.key, value) :: members, ?_, congrArg (a.key :: ·) hkeys⟩
    rw [attributeMembers, field, hvalue]
    simp only [bind, Except.bind, hsigned, Option.isNone_some, hmembers, Bool.false_eq_true,
      if_false, pure, Except.pure]

theorem ofClusterBody_of_reports {body : Json} {mask : Nat}
    (hmask : (body.get? maskField).bind Json.unsigned? = some mask)
    (hflags : ∀ f, s.isOn f = mask.testBit f.bit)
    (hcounts : ∀ a, body.get? a.field = some (.int (s.count a).toInt)) :
    ofClusterBody body = .ok s := by
  obtain ⟨value, hvalue, -⟩ := Option.bind_eq_some_iff.mp hmask
  obtain ⟨members, hm, -⟩ := Option.bind_eq_some_iff.mp hvalue
  have hfields : ∀ a ∈ Attribute.all, members.get? a.field = some (.int (s.count a).toInt) := by
    intro a _
    rw [← Json.get?_of_members hm, hcounts]
  obtain ⟨attributes, hattributes, hkeys⟩ := exists_attributeMembers fun a ha =>
    ⟨s.count a, by rw [hfields a ha, Option.bind_some, Json.signed?_toInt]⟩
  rw [ofClusterBody_eq hm hmask, hattributes]
  refine ofMembers_eq_ok_iff.mpr ⟨rfl, by rw [attributes.names_eq, hkeys], fun f => ?_, fun a => ?_⟩
  · rw [get?_maskMembers, hflags]
    rfl
  · rw [get?_attributeMembers hattributes a.mem_all, hfields a a.mem_all]
    exact Json.signed?_toInt _

end State

end AnalyzerAdmin
