import AnalyzerAdmin.State.Body
import Mathlib.Tactic.SplitIfs

/-!
# Two encodings of a state

What a body must say to decode to a state. A cluster says it in the bits of a mask and a node in
fields of its own, so the states of two bodies can be compared feature by feature on the bodies.
-/

namespace AnalyzerAdmin

theorem Feature.key_injective {f g : Feature} (h : f.key = g.key) : f = g := by
  cases f <;> cases g <;> first | rfl | exact absurd h (by decide)

theorem Feature.and_mask_ne_zero (f : Feature) (mask : Nat) :
    decide (mask &&& f.mask ≠ 0) = mask.testBit f.bit := by
  rw [Feature.mask]
  cases hb : mask.testBit f.bit with
  | true =>
    have ht : (mask &&& 2 ^ f.bit).testBit f.bit = true := by
      rw [Nat.testBit_and, hb, Nat.testBit_two_pow_self, Bool.and_self]
    apply decide_eq_true
    intro h0
    rw [h0, Nat.zero_testBit] at ht
    cases ht
  | false =>
    have h0 : mask &&& 2 ^ f.bit = 0 := by
      apply Nat.eq_of_testBit_eq
      intro i
      rw [Nat.testBit_and, Nat.testBit_two_pow, Nat.zero_testBit]
      by_cases hi : f.bit = i
      · rw [← hi, hb, Bool.false_and]
      · rw [decide_eq_false hi, Bool.and_false]
    simp only [h0, ne_eq, not_true_eq_false, decide_false]

theorem bind_ok {ε α β : Type} {x : Except ε α} {f : α → Except ε β} {b : β}
    (h : x >>= f = .ok b) : ∃ a, x = .ok a ∧ f a = .ok b := by
  cases x with
  | error e => cases h
  | ok a => exact ⟨a, rfl, h⟩

theorem map_ok {ε α β : Type} {x : Except ε α} {f : α → β} {b : β} (h : x.map f = .ok b) :
    ∃ a, x = .ok a ∧ f a = b := by
  cases x with
  | error e => cases h
  | ok a => exact ⟨a, rfl, Except.ok.inj h⟩

namespace Json

theorem get?_of_members {json : Json} {members : Members} (h : json.members? = some members)
    (name : String) : json.get? name = members.get? name := by
  rw [get?, h]
  rfl

theorem eq_of_bool? {json : Json} {b : Bool} (h : json.bool? = some b) : json = .bool b := by
  cases json with
  | bool value =>
    obtain rfl : value = b := by simpa [bool?] using h
    rfl
  | _ => simp [bool?] at h

theorem eq_of_signed? {json : Json} {n : Int64} (h : json.signed? = some n) :
    json = .int n.toInt := by
  cases json with
  | int i =>
    rw [signed?] at h
    split_ifs at h with hi
    cases h
    rw [Int64.toInt_ofInt_of_le hi.1 hi.2]
  | _ => simp [signed?] at h

theorem eq_int_of_bind_signed? {json : Option Json} {n : Int64} (h : json.bind signed? = some n) :
    json = some (.int n.toInt) := by
  obtain ⟨value, rfl, hv⟩ := Option.bind_eq_some_iff.mp h
  rw [eq_of_signed? hv]

theorem lt_of_unsigned? {json : Json} {n : Nat} (h : json.unsigned? = some n) : n < 2 ^ 64 := by
  cases json with
  | int i =>
    rw [unsigned?] at h
    split_ifs at h with hi
    cases h
    omega
  | _ => simp [unsigned?] at h

end Json

namespace State

theorem field_ok {body : Members} {name : String} {value : Json} (h : field body name = .ok value) :
    body.get? name = some value := by
  rw [field] at h
  cases hg : body.get? name with
  | none => simp [hg] at h
  | some v => simpa [hg] using h

theorem turnAll_ok {members : Members} {fs : List Feature} {s t : State}
    (h : turnAll members fs s = .ok t) :
    (∀ f ∈ fs, (members.get? f.key).bind Json.bool? = some (t.isOn f)) ∧
      (∀ f, f ∉ fs → t.isOn f = s.isOn f) := by
  induction fs generalizing s with
  | nil =>
    cases h
    exact ⟨fun f hf => absurd hf List.not_mem_nil, fun f _ => rfl⟩
  | cons g fs ih =>
    rw [turnAll] at h
    cases hg : (members.get? g.key).bind Json.bool? with
    | none => simp [hg] at h
    | some on =>
      rw [hg] at h
      obtain ⟨hin, hout⟩ := ih h
      constructor
      · intro f hf
        by_cases hmem : f ∈ fs
        · exact hin f hmem
        · obtain rfl : f = g := (List.mem_cons.mp hf).resolve_right hmem
          rw [hg, hout f hmem, isOn_turn, if_pos rfl]
      · intro f hf
        obtain ⟨hne, hmem⟩ := not_or.mp (mt List.mem_cons.mpr hf)
        rw [hout f hmem, isOn_turn, if_neg hne]

theorem countAll_ok {members : Members} {as : List Attribute} {s t : State}
    (h : countAll members as s = .ok t) :
    (∀ a ∈ as, (members.get? a.key).bind Json.signed? = some (t.count a)) ∧
      (∀ a, a ∉ as → t.count a = s.count a) ∧ ∀ f, t.isOn f = s.isOn f := by
  induction as generalizing s with
  | nil =>
    cases h
    exact ⟨fun a ha => absurd ha List.not_mem_nil, fun a _ => rfl, fun f => rfl⟩
  | cons b as ih =>
    rw [countAll] at h
    cases hb : (members.get? b.key).bind Json.signed? with
    | none => simp [hb] at h
    | some value =>
      rw [hb] at h
      obtain ⟨hin, hout, hflags⟩ := ih h
      refine ⟨?_, ?_, fun f => by rw [hflags, isOn_setCount]⟩
      · intro a ha
        by_cases hmem : a ∈ as
        · exact hin a hmem
        · obtain rfl : a = b := (List.mem_cons.mp ha).resolve_right hmem
          rw [hb, hout a hmem, count_setCount, if_pos rfl]
      · intro a ha
        obtain ⟨hne, hmem⟩ := not_or.mp (mt List.mem_cons.mpr ha)
        rw [hout a hmem, count_setCount, if_neg hne]

theorem ofMembers_ok {features attributes : Members} {s : State}
    (h : ofMembers features attributes = .ok s) :
    (∀ f, (features.get? f.key).bind Json.bool? = some (s.isOn f)) ∧
      ∀ a, (attributes.get? a.key).bind Json.signed? = some (s.count a) := by
  obtain ⟨-, -, h⟩ := bind_ok h
  obtain ⟨-, -, h⟩ := bind_ok h
  obtain ⟨turned, hturn, hcount⟩ := bind_ok h
  obtain ⟨hcounts, -, hflags⟩ := countAll_ok hcount
  refine ⟨fun f => ?_, fun a => hcounts a a.mem_all⟩
  rw [hflags]
  exact (turnAll_ok hturn).1 f f.mem_all

theorem get?_maskMembers (mask : Nat) (f : Feature) :
    (maskMembers mask).get? f.key = some (.bool (mask.testBit f.bit)) := by
  rw [← f.and_mask_ne_zero]
  cases f <;> rfl

theorem get?_fieldMembers {body members : Members} {fs : List Feature}
    (h : fieldMembers body fs = .ok members) {f : Feature} (hf : f ∈ fs) :
    members.get? f.key = body.get? f.field := by
  induction fs generalizing members with
  | nil => exact absurd hf List.not_mem_nil
  | cons g fs ih =>
    obtain ⟨value, hvalue, h⟩ := bind_ok h
    obtain ⟨rest, hrest, h⟩ := bind_ok h
    cases h
    by_cases hg : f = g
    · rw [hg, field_ok hvalue, Members.get?, List.lookup_cons_self]
    · have hne : (f.key == g.key) = false := by
        simpa using fun hk => hg (Feature.key_injective hk)
      rw [← ih hrest ((List.mem_cons.mp hf).resolve_left hg), Members.get?, List.lookup_cons, hne]
      rfl

theorem get?_attributeMembers {body members : Members} {as : List Attribute}
    (h : attributeMembers body as = .ok members) {a : Attribute} (ha : a ∈ as) :
    members.get? a.key = body.get? a.field := by
  induction as generalizing members with
  | nil => exact absurd ha List.not_mem_nil
  | cons b as ih =>
    obtain ⟨value, hvalue, h⟩ := bind_ok h
    split_ifs at h with hsigned
    obtain ⟨rest, hrest, h⟩ := bind_ok h
    cases h
    by_cases hb : a = b
    · rw [hb, field_ok hvalue, Members.get?, List.lookup_cons_self]
    · exact absurd (by cases a; cases b; rfl) hb

theorem ofClusterBody_ok {body : Json} {s : State} (h : ofClusterBody body = .ok s) :
    ∃ members mask attributes, body.members? = some members ∧
      (body.get? maskField).bind Json.unsigned? = some mask ∧
      attributeMembers members Attribute.all = .ok attributes ∧
      ofMembers (maskMembers mask) attributes = .ok s := by
  rw [ofClusterBody] at h
  cases hm : body.members? with
  | none => simp [hm] at h
  | some members =>
    rw [hm] at h
    obtain ⟨value, hvalue, h⟩ := bind_ok h
    cases hu : value.unsigned? with
    | none => simp [hu] at h
    | some mask =>
      rw [hu] at h
      obtain ⟨attributes, ha, h⟩ := bind_ok h
      refine ⟨members, mask, attributes, rfl, ?_, ha, h⟩
      rw [Json.get?_of_members hm, field_ok hvalue]
      exact hu

theorem ofNodeBody_ok {body : Json} {s : State} (h : ofNodeBody body = .ok s) :
    ∃ members features attributes, body.members? = some members ∧
      fieldMembers members Feature.all = .ok features ∧
      attributeMembers members Attribute.all = .ok attributes ∧
      ofMembers features attributes = .ok s := by
  rw [ofNodeBody] at h
  cases hm : body.members? with
  | none => simp [hm] at h
  | some members =>
    rw [hm] at h
    obtain ⟨features, hf, h⟩ := bind_ok h
    obtain ⟨attributes, ha, h⟩ := bind_ok h
    refine ⟨members, features, attributes, rfl, hf, ha, ?_⟩
    cases ho : ofMembers features attributes with
    | error e => simp [ho, Except.mapError] at h
    | ok s' => simpa [ho, Except.mapError] using h

theorem cluster_reports {body : Json} {s : State} (h : ofClusterBody body = .ok s) :
    ∃ mask, (body.get? maskField).bind Json.unsigned? = some mask ∧ mask < 2 ^ 64 ∧
      (∀ f, s.isOn f = mask.testBit f.bit) ∧
      ∀ a, body.get? a.field = some (.int (s.count a).toInt) := by
  obtain ⟨members, mask, attributes, hm, hmask, ha, ho⟩ := ofClusterBody_ok h
  obtain ⟨hflags, hcounts⟩ := ofMembers_ok ho
  refine ⟨mask, hmask, ?_, fun f => ?_, fun a => ?_⟩
  · obtain ⟨value, -, hu⟩ := Option.bind_eq_some_iff.mp hmask
    exact Json.lt_of_unsigned? hu
  · have hf := hflags f
    rw [get?_maskMembers] at hf
    exact (Option.some.inj hf).symm
  · have hc := hcounts a
    rw [get?_attributeMembers ha a.mem_all, ← Json.get?_of_members hm] at hc
    exact Json.eq_int_of_bind_signed? hc

theorem node_reports {body : Json} {s : State} (h : ofNodeBody body = .ok s) :
    (∀ f, body.get? f.field = some (.bool (s.isOn f))) ∧
      ∀ a, body.get? a.field = some (.int (s.count a).toInt) := by
  obtain ⟨members, features, attributes, hm, hf, ha, ho⟩ := ofNodeBody_ok h
  obtain ⟨hflags, hcounts⟩ := ofMembers_ok ho
  refine ⟨fun f => ?_, fun a => ?_⟩
  · have hb := hflags f
    rw [get?_fieldMembers hf f.mem_all, ← Json.get?_of_members hm] at hb
    obtain ⟨value, hv, hb⟩ := Option.bind_eq_some_iff.mp hb
    rw [hv, Json.eq_of_bool? hb]
  · have hc := hcounts a
    rw [get?_attributeMembers ha a.mem_all, ← Json.get?_of_members hm] at hc
    exact Json.eq_int_of_bind_signed? hc

theorem maskMembers_congr {mask mask' : Nat}
    (h : ∀ f : Feature, mask.testBit f.bit = mask'.testBit f.bit) :
    maskMembers mask = maskMembers mask' := by
  apply List.map_congr_left
  intro f _
  rw [f.and_mask_ne_zero, f.and_mask_ne_zero, h]

theorem attributeMembers_congr {body body' : Members} {as : List Attribute}
    (h : ∀ a ∈ as, body.get? a.field = body'.get? a.field) :
    attributeMembers body as = attributeMembers body' as := by
  induction as with
  | nil => rfl
  | cons a as ih =>
    obtain ⟨ha, has⟩ := List.forall_mem_cons.mp h
    rw [attributeMembers, attributeMembers, field, field, ha, ih has]

theorem ofClusterBody_eq {body : Json} {members : Members} {mask : Nat}
    (hm : body.members? = some members)
    (hmask : (body.get? maskField).bind Json.unsigned? = some mask) :
    ofClusterBody body =
      (attributeMembers members Attribute.all >>= fun attributes =>
        ofMembers (maskMembers mask) attributes) := by
  rw [Json.get?_of_members hm] at hmask
  obtain ⟨value, hvalue, hu⟩ := Option.bind_eq_some_iff.mp hmask
  have hfield : field members maskField = .ok value := by
    rw [field, hvalue]
  rw [ofClusterBody, hm]
  simp only [hfield, bind, Except.bind, hu]

theorem ofClusterBody_congr {body body' : Json} {mask mask' : Nat}
    (hmask : (body.get? maskField).bind Json.unsigned? = some mask)
    (hmask' : (body'.get? maskField).bind Json.unsigned? = some mask')
    (hbits : ∀ f : Feature, mask.testBit f.bit = mask'.testBit f.bit)
    (hcounts : ∀ a : Attribute, body.get? a.field = body'.get? a.field) :
    ofClusterBody body = ofClusterBody body' := by
  have hmembers {json : Json} {n : Nat} (h : (json.get? maskField).bind Json.unsigned? = some n) :
      ∃ members, json.members? = some members := by
    obtain ⟨value, hv, -⟩ := Option.bind_eq_some_iff.mp h
    obtain ⟨members, hm, -⟩ := Option.bind_eq_some_iff.mp hv
    exact ⟨members, hm⟩
  obtain ⟨members, hm⟩ := hmembers hmask
  obtain ⟨members', hm'⟩ := hmembers hmask'
  have hattributes : attributeMembers members Attribute.all =
      attributeMembers members' Attribute.all := by
    refine attributeMembers_congr fun a _ => ?_
    rw [← Json.get?_of_members hm, ← Json.get?_of_members hm', hcounts]
  rw [ofClusterBody_eq hm hmask, ofClusterBody_eq hm' hmask', hattributes, maskMembers_congr hbits]

/-- A cluster's body and a node's decode to the same state exactly if they say the same of each
feature and report the same counts. -/
theorem encodings_agree {cluster node : Json} {s t : State} (hs : ofClusterBody cluster = .ok s)
    (ht : ofNodeBody node = .ok t) :
    ∃ mask, (cluster.get? maskField).bind Json.unsigned? = some mask ∧ mask < 2 ^ 64 ∧
      (∀ f, s.isOn f = mask.testBit f.bit) ∧
      (∀ f, node.get? f.field = some (.bool (t.isOn f))) ∧
      (∀ a, cluster.get? a.field = some (.int (s.count a).toInt) ∧
        node.get? a.field = some (.int (t.count a).toInt)) ∧
      (s = t ↔ (∀ f : Feature, mask.testBit f.bit = true ↔ node.get? f.field = some (.bool true)) ∧
        ∀ a : Attribute, cluster.get? a.field = node.get? a.field) ∧
      ∀ other mask', (other.get? maskField).bind Json.unsigned? = some mask' →
        (∀ f : Feature, mask'.testBit f.bit = mask.testBit f.bit) →
        (∀ a : Attribute, other.get? a.field = cluster.get? a.field) →
        ofClusterBody other = .ok s := by
  obtain ⟨mask, hmask, hlt, hflags, hcounts⟩ := cluster_reports hs
  obtain ⟨hnode, hnodeCounts⟩ := node_reports ht
  have hbool (f : Feature) : node.get? f.field = some (.bool true) ↔ t.isOn f = true := by
    rw [hnode]
    simp
  have hint (a : Attribute) :
      cluster.get? a.field = node.get? a.field ↔ s.count a = t.count a := by
    rw [hcounts, hnodeCounts]
    simp [Int64.toInt_inj]
  refine ⟨mask, hmask, hlt, hflags, hnode, fun a => ⟨hcounts a, hnodeCounts a⟩, ?_, ?_⟩
  · constructor
    · rintro rfl
      exact ⟨fun f => by rw [hbool, hflags], fun a => (hint a).mpr rfl⟩
    · rintro ⟨hsame, hsameCounts⟩
      refine ext_view (fun f => ?_) fun a => (hint a).mp (hsameCounts a)
      rw [hflags, Bool.eq_iff_iff]
      exact (hsame f).trans (hbool f)
  · intro other mask' hmask' hbits hfields
    rw [← hs]
    exact ofClusterBody_congr hmask' hmask hbits hfields

theorem encodings_agree_mask_57 :
    ofClusterBody (.obj [("currentPerformanceAnalyzerClusterState", .int 57),
        ("shardsPerCollection", .int (-2))]) = .ok ⟨true, false, false, true, -2⟩ ∧
      ofNodeBody (.obj [("batchMetricsEnabled", .bool true), ("loggingEnabled", .bool false),
        ("performanceAnalyzerEnabled", .bool true), ("rcaEnabled", .bool false),
        ("shardsPerCollection", .int (-2))]) = .ok ⟨true, false, false, true, -2⟩ ∧
      ofClusterBody (.obj [("currentPerformanceAnalyzerClusterState", .int 9),
        ("shardsPerCollection", .int (-2))]) = .ok ⟨true, false, false, true, -2⟩ := by
  have hs : ofClusterBody (.obj [("currentPerformanceAnalyzerClusterState", .int 57),
      ("shardsPerCollection", .int (-2))]) = .ok ⟨true, false, false, true, -2⟩ := rfl
  have ht : ofNodeBody (.obj [("batchMetricsEnabled", .bool true), ("loggingEnabled", .bool false),
      ("performanceAnalyzerEnabled", .bool true), ("rcaEnabled", .bool false),
      ("shardsPerCollection", .int (-2))]) = .ok ⟨true, false, false, true, -2⟩ := rfl
  obtain ⟨mask, hmask, -, -, -, -, -, hother⟩ := encodings_agree hs ht
  obtain rfl : 57 = mask := Option.some.inj hmask
  exact ⟨hs, ht, hother _ 9 rfl (fun f => by cases f <;> rfl) fun a => by cases a; rfl⟩

end State

end AnalyzerAdmin
