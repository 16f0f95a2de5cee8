import AnalyzerAdmin.Failure
import AnalyzerAdmin.Proofs.Encoding

/-!
# Access by key

Every key of the two tables has its setting in every state, and no other key has one. A state is
known from its settings; turning a feature or setting a count changes the setting of one key.
-/

namespace AnalyzerAdmin

theorem Feature.ofKey?_eq_some {key : String} {f : Feature} :
    ofKey? key = some f ↔ key = f.key := by
  constructor
  · intro h
    simpa [eq_comm] using List.find?_some h
  · rintro rfl
    cases f <;> rfl

theorem Feature.ofKey?_key (f : Feature) : ofKey? f.key = some f := ofKey?_eq_some.mpr rfl

theorem Attribute.ofKey?_eq_some {key : String} {a : Attribute} :
    ofKey? key = some a ↔ key = a.key := by
  constructor
  · intro h
    simpa [eq_comm] using List.find?_some h
  · rintro rfl
    cases a
    rfl

theorem Attribute.ofKey?_key (a : Attribute) : ofKey? a.key = some a := ofKey?_eq_some.mpr rfl

theorem Feature.ofKey?_attribute (a : Attribute) : Feature.ofKey? a.key = none := by
  cases a
  rfl

/-- The setting of a key, where flags are known of features and counts of attributes. -/
def Setting.find? (flag : Feature → Option Bool) (count : Attribute → Option Int64)
    (key : String) : Option Setting :=
  match Feature.ofKey? key with
  | some f => (flag f).map .flag
  | none => (Attribute.ofKey? key).bind fun a => (count a).map .count

theorem Setting.find?_congr {flag flag' : Feature → Option Bool}
    {count count' : Attribute → Option Int64} (hflags : ∀ f, flag f = flag' f)
    (hcounts : ∀ a, count a = count' a) (key : String) :
    find? flag count key = find? flag' count' key := by
  rw [funext hflags, funext hcounts]

namespace State

variable {s t : State} {key : String} {value : Setting}

theorem get?_eq_find? (s : State) (key : String) :
    s.get? key = Setting.find? (fun f => some (s.isOn f)) (fun a => some (s.count a)) key := by
  rw [get?, Setting.find?]
  cases Feature.ofKey? key with
  | some f => rfl
  | none => cases Attribute.ofKey? key <;> rfl

theorem get?_feature (s : State) (f : Feature) : s.get? f.key = some (.flag (s.isOn f)) := by
  rw [get?, f.ofKey?_key]

theorem get?_attribute (s : State) (a : Attribute) : s.get? a.key = some (.count (s.count a)) := by
  rw [get?, Feature.ofKey?_attribute, a.ofKey?_key]
  rfl

theorem isSome_get? (s : State) (key : String) :
    (s.get? key).isSome = true ↔ (∃ f : Feature, key = f.key) ∨ ∃ a : Attribute, key = a.key := by
  constructor
  · intro h
    rw [get?] at h
    cases hf : Feature.ofKey? key with
    | some f => exact .inl ⟨f, Feature.ofKey?_eq_some.mp hf⟩
    | none =>
      rw [hf] at h
      obtain ⟨a, ha⟩ := Option.isSome_iff_exists.mp (by simpa using h)
      exact .inr ⟨a, Attribute.ofKey?_eq_some.mp ha⟩
  · rintro (⟨f, rfl⟩ | ⟨a, rfl⟩)
    · rw [get?_feature]
      rfl
    · rw [get?_attribute]
      rfl

theorem ext_get? (h : ∀ key, s.get? key = t.get? key) : s = t := by
  refine ext_view (fun f => ?_) fun a => ?_
  · have hf := h f.key
    rw [get?_feature, get?_feature] at hf
    exact Setting.flag.inj (Option.some.inj hf)
  · have ha := h a.key
    rw [get?_attribute, get?_attribute] at ha
    exact Setting.count.inj (Option.some.inj ha)

theorem get?_turn (s : State) (f : Feature) (on : Bool) (key : String) :
    (s.turn f on).get? key = if key = f.key then some (.flag on) else s.get? key := by
  by_cases hkey : key = f.key
  · rw [if_pos hkey, hkey, get?_feature, isOn_turn, if_pos rfl]
  · rw [if_neg hkey, get?, get?]
    cases hg : Feature.ofKey? key with
    | some g =>
      have hne : g ≠ f := by
        rintro rfl
        exact hkey (Feature.ofKey?_eq_some.mp hg)
      simp only [isOn_turn, if_neg hne]
    | none => simp only [count_turn]

theorem get?_setCount (s : State) (a : Attribute) (n : Int64) (key : String) :
    (s.setCount a n).get? key = if key = a.key then some (.count n) else s.get? key := by
  by_cases hkey : key = a.key
  · rw [if_pos hkey, hkey, get?_attribute, count_setCount, if_pos rfl]
  · rw [if_neg hkey, get?, get?]
    cases hg : Feature.ofKey? key with
    | some g => simp only [isOn_setCount]
    | none =>
      cases hb : Attribute.ofKey? key with
      | some b =>
        have hne : b ≠ a := by
          rintro rfl
          exact hkey (Attribute.ofKey?_eq_some.mp hb)
        rw [Option.map_some, Option.map_some, count_setCount, if_neg hne]
      | none => rfl

theorem set_eq_ok_iff :
    s.set key value = .ok t ↔
      (∃ f on, key = f.key ∧ value = .flag on ∧ t = s.turn f on) ∨
        ∃ a n, key = a.key ∧ value = .count n ∧ t = s.setCount a n := by
  constructor
  · intro h
    unfold set at h
    cases hf : Feature.ofKey? key with
    | some f =>
      rw [hf] at h
      cases value with
      | flag on =>
        cases h
        exact .inl ⟨f, on, Feature.ofKey?_eq_some.mp hf, rfl, rfl⟩
      | count n => cases h
    | none =>
      rw [hf] at h
      cases ha : Attribute.ofKey? key with
      | some a =>
        rw [ha] at h
        cases value with
        | flag on => cases h
        | count n =>
          cases h
          exact .inr ⟨a, n, Attribute.ofKey?_eq_some.mp ha, rfl, rfl⟩
      | none =>
        rw [ha] at h
        cases h
  · rintro (⟨f, on, rfl, rfl, rfl⟩ | ⟨a, n, rfl, rfl, rfl⟩)
    · simp only [set, f.ofKey?_key]
    · simp only [set, Feature.ofKey?_attribute, a.ofKey?_key]

theorem get?_of_set (h : s.set key value = .ok t) (k : String) :
    t.get? k = if k = key then some value else s.get? k := by
  rcases set_eq_ok_iff.mp h with ⟨f, on, rfl, rfl, rfl⟩ | ⟨a, n, rfl, rfl, rfl⟩
  · exact get?_turn s f on k
  · exact get?_setCount s a n k

end State

end AnalyzerAdmin
