import AnalyzerAdmin.Proofs.Defects
import AnalyzerAdmin.Proofs.Store

/-!
# Writes by key

A write succeeds exactly if the value is of the kind that the table of its key demands, and then
changes what stands under this key and nothing else: no other key's setting, no bit of the mask but
the feature's, no count but the attribute's. Every refusal says why, and leaves all states alone.
-/

namespace AnalyzerAdmin

inductive Fits : String → Setting → Prop
  | flag (f : Feature) (on : Bool) : Fits f.key (.flag on)
  | count (a : Attribute) (n : Int64) : Fits a.key (.count n)

/-- Why a value cannot be written under a key. An unknown key is refused before the value is
looked at. -/
inductive Refuses : String → Setting → Failure → Prop
  | unknown {key : String} (value : Setting) : (∀ f : Feature, key ≠ f.key) →
      (∀ a : Attribute, key ≠ a.key) → Refuses key value (.unknownFeature key)
  | flagWanted (f : Feature) (n : Int64) :
      Refuses f.key (.count n) (.body (.wrongType f.key .boolean))
  | countWanted (a : Attribute) (on : Bool) :
      Refuses a.key (.flag on) (.body (.wrongType a.key .integer))

structure Written (s t : State) (key : String) (value : Setting) : Prop where
  readBack : t.get? key = some value
  others : ∀ k, k ≠ key → t.get? k = s.get? k
  bits : ∀ i, (∀ f : Feature, key = f.key → i ≠ f.bit) → t.mask.testBit i = s.mask.testBit i
  counts : ∀ a : Attribute, key ≠ a.key → t.count a = s.count a

theorem fits_or_refuses (key : String) (value : Setting) :
    Fits key value ∨ ∃ failure, Refuses key value failure := by
  cases hf : Feature.ofKey? key with
  | some f =>
    obtain rfl := Feature.ofKey?_eq_some.mp hf
    cases value with
    | flag on => exact .inl (.flag f on)
    | count n => exact .inr ⟨_, .flagWanted f n⟩
  | none =>
    cases ha : Attribute.ofKey? key with
    | some a =>
      obtain rfl := Attribute.ofKey?_eq_some.mp ha
      cases value with
      | flag on => exact .inr ⟨_, .countWanted a on⟩
      | count n => exact .inl (.count a n)
    | none =>
      refine .inr ⟨_, .unknown value (fun f hkey => ?_) fun a hkey => ?_⟩
      · rw [Feature.ofKey?_eq_some.mpr hkey] at hf
        cases hf
      · rw [Attribute.ofKey?_eq_some.mpr hkey] at ha
        cases ha

namespace State

variable {s t : State} {key : String} {value : Setting} {failure : Failure}

theorem mask_setCount (s : State) (a : Attribute) (n : Int64) : (s.setCount a n).mask = s.mask := by
  apply Nat.eq_of_testBit_eq
  intro i
  rw [Bool.eq_iff_iff, testBit_mask, testBit_mask]
  simp only [isOn_setCount]

theorem set_of_fits (s : State) (h : Fits key value) : ∃ t, s.set key value = .ok t := by
  cases h with
  | flag f on => exact ⟨s.turn f on, set_eq_ok_iff.mpr (.inl ⟨f, on, rfl, rfl, rfl⟩)⟩
  | count a n => exact ⟨s.setCount a n, set_eq_ok_iff.mpr (.inr ⟨a, n, rfl, rfl, rfl⟩)⟩

theorem set_of_refuses (s : State) (h : Refuses key value failure) :
    s.set key value = .error failure := by
  cases h with
  | unknown value hfeature hattribute =>
    have hf : Feature.ofKey? key = none :=
      Option.eq_none_iff_forall_ne_some.mpr fun f h => hfeature f (Feature.ofKey?_eq_some.mp h)
    have ha : Attribute.ofKey? key = none :=
      Option.eq_none_iff_forall_ne_some.mpr fun a h => hattribute a (Attribute.ofKey?_eq_some.mp h)
    simp only [set, hf, ha]
  | flagWanted f n => simp only [set, f.ofKey?_key]
  | countWanted a on => simp only [set, Feature.ofKey?_attribute, a.ofKey?_key]

theorem written_of_set (h : s.set key value = .ok t) : Written s t key value := by
  have hget := get?_of_set h
  refine ⟨by rw [hget, if_pos rfl], fun k hk => by rw [hget, if_neg hk], ?_, ?_⟩
  · intro i hi
    rcases set_eq_ok_iff.mp h with ⟨f, on, hkey, -, rfl⟩ | ⟨a, n, -, -, rfl⟩
    · rw [testBit_mask_turn, if_neg (hi f hkey)]
    · rw [mask_setCount]
  · intro a ha
    rcases set_eq_ok_iff.mp h with ⟨f, on, -, -, rfl⟩ | ⟨b, n, hkey, -, rfl⟩
    · exact count_turn s f on a
    · have hne : a ≠ b := by
        rintro rfl
        exact ha hkey
      rw [count_setCount, if_neg hne]

/-- A write by key succeeds exactly if key and value fit, and then changes only what stands under
the key. In all other cases it fails for the reason that the key gives, and changes no state. What
is read by key is the flag of a feature or the count of an attribute, and no key is both. -/
theorem keyed_access_exact (s : State) (key : String) :
    (∀ value, (∃ t, s.set key value = .ok t) ↔ Fits key value) ∧
    (∀ value t, s.set key value = .ok t → Written s t key value) ∧
    (∀ value failure, s.set key value = .error failure ↔ Refuses key value failure) ∧
    (∀ (store : Store) (name : String) (value : Setting), ¬Fits key value →
      store.step ⟨name, .set key value⟩ = store) ∧
    ((s.get? key).isSome = true ↔ (∃ f : Feature, key = f.key) ∨ ∃ a : Attribute, key = a.key) ∧
    (∀ f : Feature, key = f.key → s.get? key = some (.flag (s.isOn f))) ∧
    ∀ a : Attribute, key = a.key → s.get? key = some (.count (s.count a)) := by
  have hexact (s : State) (value : Setting) := exact_of_total s.set_of_fits
    (fun failure (h : Refuses key value failure) => s.set_of_refuses h) (fits_or_refuses key value)
  refine ⟨fun value => (hexact s value).1, fun value t => written_of_set,
    fun value => (hexact s value).2, ?_, s.isSome_get? key, ?_, ?_⟩
  · intro store name value hfits
    obtain ⟨failure, hfailure⟩ := (fits_or_refuses key value).resolve_left hfits
    exact Store.step_of_error ((store name).set_of_refuses hfailure)
  · rintro f rfl
    exact s.get?_feature f
  · rintro a rfl
    exact s.get?_attribute a

theorem keyed_access_exact_shards :
    (∃ t, baseline.set "shards_per_collection" (.count 9) = .ok t ∧
      t.get? "shards_per_collection" = some (.count 9) ∧ t.get? "rca" = baseline.get? "rca") ∧
    baseline.set "shards_per_collection" (.flag true) =
      .error (.body (.wrongType "shards_per_collection" .integer)) := by
  obtain ⟨hfits, hwritten, hrefuses, -⟩ :=
    baseline.keyed_access_exact "shards_per_collection"
  obtain ⟨t, ht⟩ := (hfits _).mpr (.count .shardsPerCollection 9)
  have h := hwritten _ t ht
  refine ⟨⟨t, ht, h.readBack, h.others "rca" (by decide)⟩, ?_⟩
  exact (hrefuses _ _).mpr (.countWanted .shardsPerCollection true)

end State

end AnalyzerAdmin
