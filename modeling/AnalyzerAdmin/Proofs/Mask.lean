import AnalyzerAdmin.Proofs.Building

/-!
# Masks of states

A state's mask has the bits of the features that are on and no others, and no two features have the
same bit. So a mask and a state tell the same on the bits of the table: decoding takes a mask to the
state whose mask it is on these bits, and taking the mask of that state leaves only them.
-/

namespace AnalyzerAdmin

namespace Feature

theorem bit_injective {f g : Feature} (h : f.bit = g.bit) : f = g := by
  cases f <;> cases g <;> first | rfl | exact absurd h (by decide)

def union (fs : List Feature) : Nat := fs.foldl (fun mask f => mask ||| f.mask) 0

theorem testBit_foldl (fs : List Feature) (mask i : Nat) :
    (fs.foldl (fun mask f => mask ||| f.mask) mask).testBit i = true ↔
      mask.testBit i = true ∨ ∃ f ∈ fs, f.bit = i := by
  induction fs generalizing mask with
  | nil => simp
  | cons f fs ih =>
    rw [List.foldl_cons, ih, Nat.testBit_or, Bool.or_eq_true, Feature.mask, Nat.testBit_two_pow,
      decide_eq_true_eq, or_assoc]
    simp only [List.mem_cons, exists_eq_or_imp]

theorem testBit_union (fs : List Feature) (i : Nat) :
    (union fs).testBit i = true ↔ ∃ f ∈ fs, f.bit = i := by
  rw [union, testBit_foldl, Nat.zero_testBit, or_iff_right Bool.false_ne_true]

end Feature

namespace Json

theorem unsigned?_toNat (mask : UInt64) : (Json.int mask.toNat).unsigned? = some mask.toNat := by
  have hlt := mask.toNat_lt
  rw [unsigned?, if_pos ⟨by omega, by omega⟩, Int.toNat_natCast]

theorem eq_of_unsigned? {json : Json} {n : Nat} (h : json.unsigned? = some n) : json = .int n := by
  cases json with
  | int i =>
    rw [unsigned?] at h
    split_ifs at h with hi
    cases h
    rw [Int.toNat_of_nonneg hi.1]
  | _ => simp [unsigned?] at h

end Json

namespace State

variable {s t : State}

theorem testBit_mask (s : State) (i : Nat) :
    s.mask.testBit i = true ↔ ∃ f : Feature, s.isOn f = true ∧ f.bit = i := by
  change (Feature.union s.enabled).testBit i = true ↔ _
  rw [Feature.testBit_union]
  refine exists_congr fun f => and_congr_left fun _ => ?_
  rw [enabled, List.mem_filter, and_iff_right f.mem_all]

theorem testBit_mask_bit (s : State) (f : Feature) : s.mask.testBit f.bit = s.isOn f := by
  rw [Bool.eq_iff_iff, testBit_mask]
  constructor
  · rintro ⟨g, hg, hbit⟩
    rwa [← Feature.bit_injective hbit]
  · exact fun hf => ⟨f, hf, rfl⟩

theorem mask_eq_and_union {mask : Nat} (h : ∀ f : Feature, s.isOn f = mask.testBit f.bit) :
    s.mask = mask &&& Feature.union Feature.all := by
  apply Nat.eq_of_testBit_eq
  intro i
  rw [Bool.eq_iff_iff, testBit_mask, Nat.testBit_and, Bool.and_eq_true, Feature.testBit_union]
  constructor
  · rintro ⟨f, hf, rfl⟩
    exact ⟨(h f).symm.trans hf, f, f.mem_all, rfl⟩
  · rintro ⟨hmask, f, -, rfl⟩
    exact ⟨f, (h f).trans hmask, rfl⟩

theorem testBit_mask_turn (s : State) (f : Feature) (on : Bool) (i : Nat) :
    (s.turn f on).mask.testBit i = if i = f.bit then on else s.mask.testBit i := by
  by_cases hi : i = f.bit
  · rw [if_pos hi, hi, testBit_mask_bit, isOn_turn, if_pos rfl]
  · rw [if_neg hi, Bool.eq_iff_iff, testBit_mask, testBit_mask]
    refine exists_congr fun g => and_congr_left fun hbit => ?_
    have hne : g ≠ f := by
      rintro rfl
      exact hi hbit.symm
    rw [isOn_turn, if_neg hne]

theorem eq_of_mask (hmask : s.mask = t.mask) (hcounts : ∀ a, s.count a = t.count a) : s = t := by
  refine ext_view (fun f => ?_) hcounts
  rw [← testBit_mask_bit, ← testBit_mask_bit, hmask]

theorem exists_mask_of_cluster {body : Json} (h : ofClusterBody body = .ok s) :
    ∃ mask : UInt64, body.get? maskField = some (.int mask.toNat) ∧
      ∀ f : Feature, s.isOn f = mask.toNat.testBit f.bit := by
  obtain ⟨n, hmask, hlt, hflags, hcounts⟩ := cluster_reports h
  obtain ⟨value, hvalue, hu⟩ := Option.bind_eq_some_iff.mp hmask
  have hn : (UInt64.ofNat n).toNat = n := UInt64.toNat_ofNat_of_lt' hlt
  refine ⟨UInt64.ofNat n, ?_, fun f => by rw [hn, hflags]⟩
  rw [hvalue, hn, Json.eq_of_unsigned? hu]

/-- A cluster's body with any mask that agrees with a state's on the bits of features, and with its
counts, decodes to this state. The mask of a decoded state is what the body's mask has on these
bits; a state is known from its mask and its counts, and turning a feature changes one bit. -/
theorem mask_decoding_inverse :
    (∀ {s : State} {body : Members} {mask : UInt64},
      (∀ f : Feature, mask.toNat.testBit f.bit = s.mask.testBit f.bit) →
      body.get? maskField = some (.int mask.toNat) →
      (∀ a : Attribute, body.get? a.field = some (.int (s.count a).toInt)) →
      ofClusterBody (.obj body) = .ok s) ∧
    (∀ {body : Json} {s : State}, ofClusterBody body = .ok s →
      ∃ mask : UInt64, body.get? maskField = some (.int mask.toNat) ∧
        s.mask = mask.toNat &&& Feature.union Feature.all) ∧
    (∀ {s t : State}, s.mask = t.mask → (∀ a, s.count a = t.count a) → s = t) ∧
    ∀ (s : State) (f : Feature) (on : Bool) (i : Nat),
      (s.turn f on).mask.testBit i = if i = f.bit then on else s.mask.testBit i := by
  refine ⟨?_, ?_, eq_of_mask, testBit_mask_turn⟩
  · intro s body mask hbits hmask hcounts
    have hunsigned : (Json.get? (.obj body) maskField).bind Json.unsigned? = some mask.toNat := by
      rw [Json.get?_of_members rfl, hmask, Option.bind_some, Json.unsigned?_toNat]
    exact ofClusterBody_of_reports hunsigned (fun f => by rw [hbits, testBit_mask_bit]) hcounts
  · intro body s h
    obtain ⟨mask, hmask, hflags⟩ := exists_mask_of_cluster h
    exact ⟨mask, hmask, mask_eq_and_union hflags⟩

theorem mask_decoding_inverse_high_bits :
    ofClusterBody (.obj [("currentPerformanceAnalyzerClusterState", .int 9223372036854775865),
        ("other", .null), ("shardsPerCollection", .int (-2))]) =
      .ok ⟨true, false, false, true, -2⟩ ∧
    (⟨true, false, false, true, -2⟩ : State).mask =
      9223372036854775865 &&& Feature.union Feature.all := by
  obtain ⟨hdecoded, hencoded, -⟩ := mask_decoding_inverse
  have h := @hdecoded ⟨true, false, false, true, -2⟩
    [("currentPerformanceAnalyzerClusterState", .int 9223372036854775865),
      ("other", .null), ("shardsPerCollection", .int (-2))] 9223372036854775865
    (fun f => by cases f <;> rfl) rfl (fun a => by cases a; rfl)
  obtain ⟨mask, hmask, hs⟩ := hencoded h
  have hn : (9223372036854775865 : Int) = mask.toNat := by
    simpa using Option.some.inj hmask
  refine ⟨h, ?_⟩
  rw [hs]
  congr 1
  omega

end State

end AnalyzerAdmin
