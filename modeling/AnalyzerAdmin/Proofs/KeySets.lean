import AnalyzerAdmin.Proofs.Defects
import AnalyzerAdmin.Proofs.Octets

/-!
# States from named values

Members build a state exactly if both sets of names are those of the tables and each value has the
type of its table; the state then has these values. In all other cases the first defect is reported.
Names are compared as two ascending lists, and such lists are equal exactly if they have the same
names. Behind the check of the names every key of the table is found.
-/

namespace AnalyzerAdmin

structure Ascends (listed : List String) (p : String → Prop) : Prop where
  order : listed.Pairwise fun a b => Text.octets a.toList < Text.octets b.toList
  mem : ∀ name, name ∈ listed ↔ p name

theorem Ascends.unique {listed others : List String} {p : String → Prop} (h : Ascends listed p)
    (h' : Ascends others p) : listed = others := by
  let before (a b : String) : Prop := Text.octets a.toList < Text.octets b.toList
  have : Std.Irrefl before := ⟨fun _ => List.lt_irrefl _⟩
  have : Std.Antisymm before := ⟨fun _ _ hab hba => absurd hba (List.lt_asymm hab)⟩
  exact h.order.eq_of_mem_iff h'.order fun name => (h.mem name).trans (h'.mem name).symm

theorem ascends_foldr_insertName (names : List String) :
    Ascends (names.foldr Members.insertName []) (· ∈ names) where
  order := (Members.pairwise_foldr_insertName names).imp fun h => Text.octets_lt h
  mem _ := Members.mem_foldr_insertName

def HasKeys (members : Members) (known : List String) : Prop :=
  ∀ name, name ∈ members.map Prod.fst ↔ name ∈ known

theorem Members.exists_get? {members : Members} {name : String}
    (h : name ∈ members.map Prod.fst) : ∃ value, members.get? name = some value := by
  rw [← Option.isSome_iff_exists, get?, List.lookup_isSome_iff]
  obtain ⟨⟨n, value⟩, hmem, rfl⟩ := List.mem_map.mp h
  exact ⟨(n, value), hmem, beq_self_eq_true n⟩

namespace State

variable {features attributes members : Members} {known : List String} {kind : KeyKind}
  {error : BodyError}

section Shapes

def HoldsFlag (members : Members) (f : Feature) : Prop :=
  ∃ on, members.get? f.key = some (.bool on)

def HoldsCount (members : Members) (a : Attribute) : Prop :=
  ∃ i : Int, members.get? a.key = some (.int i) ∧ -2 ^ 63 ≤ i ∧ i < 2 ^ 63

structure MembersShape (features attributes : Members) : Prop where
  featureKeys : HasKeys features (Feature.all.map Feature.key)
  attributeKeys : HasKeys attributes (Attribute.all.map Attribute.key)
  flags : ∀ f, HoldsFlag features f
  counts : ∀ a, HoldsCount attributes a

/-- The first defect of members: a set of names before any value, features before attributes. -/
inductive MembersDefect (features attributes : Members) : BodyError → Prop
  | featureKeys {expected actual : List String} :
      ¬HasKeys features (Feature.all.map Feature.key) →
      Ascends expected (· ∈ Feature.all.map Feature.key) →
      Ascends actual (· ∈ features.map Prod.fst) →
      MembersDefect features attributes (.keySet .feature expected actual)
  | attributeKeys {expected actual : List String} :
      HasKeys features (Feature.all.map Feature.key) →
      ¬HasKeys attributes (Attribute.all.map Attribute.key) →
      Ascends expected (· ∈ Attribute.all.map Attribute.key) →
      Ascends actual (· ∈ attributes.map Prod.fst) →
      MembersDefect features attributes (.keySet .attribute expected actual)
  | flag {f : Feature} {value : Json} :
      HasKeys features (Feature.all.map Feature.key) →
      HasKeys attributes (Attribute.all.map Attribute.key) →
      IsFirst (fun f => ¬HoldsFlag features f) Feature.all f → features.get? f.key = some value →
      MembersDefect features attributes (.wrongType f.key .boolean)
  | count {a : Attribute} {value : Json} :
      HasKeys features (Feature.all.map Feature.key) →
      HasKeys attributes (Attribute.all.map Attribute.key) → (∀ f, HoldsFlag features f) →
      IsFirst (fun a => ¬HoldsCount attributes a) Attribute.all a →
      attributes.get? a.key = some value →
      MembersDefect features attributes (.wrongType a.key .integer)

end Shapes

section Names

theorem checkNames_eq_ok_iff : checkNames kind known members = .ok () ↔ HasKeys members known := by
  have hactual := ascends_foldr_insertName (members.map Prod.fst)
  have hknown := ascends_foldr_insertName known
  rw [checkNames, members.names_eq]
  constructor
  · intro h
    split_ifs at h with hnames
    intro name
    rw [← hactual.mem, hnames, hknown.mem]
  · intro h
    rw [if_pos (Members.foldr_insertName_congr h)]

theorem checkNames_of_not {expected actual : List String} (h : ¬HasKeys members known)
    (hexpected : Ascends expected (· ∈ known))
    (hactual : Ascends actual (· ∈ members.map Prod.fst)) :
    checkNames kind known members = .error (.keySet kind expected actual) := by
  have hnames : members.names = actual := by
    rw [members.names_eq]
    exact (ascends_foldr_insertName _).unique hactual
  have hsorted := (ascends_foldr_insertName known).unique hexpected
  have hne : actual ≠ expected := by
    rintro rfl
    exact h fun name => (hactual.mem name).symm.trans (hexpected.mem name)
  rw [checkNames, hnames, hsorted, if_neg hne]

theorem exists_feature (h : HasKeys members (Feature.all.map Feature.key)) (f : Feature) :
    ∃ value, members.get? f.key = some value :=
  Members.exists_get? ((h f.key).mpr (List.mem_map_of_mem f.mem_all))

theorem exists_attribute (h : HasKeys members (Attribute.all.map Attribute.key)) (a : Attribute) :
    ∃ value, members.get? a.key = some value :=
  Members.exists_get? ((h a.key).mpr (List.mem_map_of_mem a.mem_all))

end Names

section Values

theorem holdsFlag_iff {f : Feature} :
    HoldsFlag members f ↔ ∃ on, (members.get? f.key).bind Json.bool? = some on := by
  simp only [HoldsFlag, Json.bind_bool?_eq_some_iff]

theorem holdsCount_iff {a : Attribute} :
    HoldsCount members a ↔ ∃ n, (members.get? a.key).bind Json.signed? = some n :=
  Json.exists_bind_signed?_iff.symm

theorem countAll_of_isFirst {as : List Attribute} {a : Attribute}
    (h : IsFirst (fun a => (members.get? a.key).bind Json.signed? = none) as a) (s : State) :
    countAll members as s = .error (.wrongType a.key .integer) := by
  induction as generalizing s with
  | nil => exact absurd h not_isFirst_nil
  | cons b as ih =>
    rw [countAll]
    rcases isFirst_cons.mp h with ⟨rfl, hnone⟩ | ⟨hsome, hrest⟩
    · rw [hnone]
    · obtain ⟨n, hn⟩ := Option.ne_none_iff_exists'.mp hsome
      rw [hn]
      exact ih hrest _

theorem ofMembers_of_keys (hfeatures : HasKeys features (Feature.all.map Feature.key))
    (hattributes : HasKeys attributes (Attribute.all.map Attribute.key)) :
    ofMembers features attributes =
      (turnAll features Feature.all baseline >>= countAll attributes Attribute.all) := by
  rw [ofMembers, checkNames_eq_ok_iff.mpr hfeatures, checkNames_eq_ok_iff.mpr hattributes]
  rfl

end Values

theorem exists_ofMembers_of_shape (h : MembersShape features attributes) :
    ∃ s, ofMembers features attributes = .ok s := by
  obtain ⟨turned, hturn⟩ := exists_turnAll (fun f _ => holdsFlag_iff.mp (h.flags f)) baseline
  obtain ⟨s, hcount⟩ := exists_countAll (fun a _ => holdsCount_iff.mp (h.counts a)) turned
  refine ⟨s, ?_⟩
  rw [ofMembers_of_keys h.featureKeys h.attributeKeys, hturn]
  exact hcount

theorem ofMembers_of_defect (h : MembersDefect features attributes error) :
    ofMembers features attributes = .error error := by
  cases h with
  | featureKeys hkeys hexpected hactual =>
    rw [ofMembers, checkNames_of_not hkeys hexpected hactual]
    rfl
  | attributeKeys hfeatures hkeys hexpected hactual =>
    rw [ofMembers, checkNames_eq_ok_iff.mpr hfeatures, checkNames_of_not hkeys hexpected hactual]
    rfl
  | flag hfeatures hattributes hfirst hvalue =>
    simp only [holdsFlag_iff, not_exists, ← Option.eq_none_iff_forall_ne_some] at hfirst
    rw [ofMembers_of_keys hfeatures hattributes, turnAll_of_isFirst hfirst]
    rfl
  | count hfeatures hattributes hflags hfirst hvalue =>
    simp only [holdsCount_iff, not_exists, ← Option.eq_none_iff_forall_ne_some] at hfirst
    obtain ⟨turned, hturn⟩ := exists_turnAll (fun f _ => holdsFlag_iff.mp (hflags f)) baseline
    rw [ofMembers_of_keys hfeatures hattributes, hturn]
    exact countAll_of_isFirst hfirst turned

theorem membersShape_or_defect (features attributes : Members) :
    MembersShape features attributes ∨ ∃ error, MembersDefect features attributes error := by
  by_cases hfeatures : HasKeys features (Feature.all.map Feature.key)
  · by_cases hattributes : HasKeys attributes (Attribute.all.map Attribute.key)
    · rcases exists_isFirst_or (fun f => ¬HoldsFlag features f) Feature.all with ⟨f, hf⟩ | hflags
      · obtain ⟨value, hvalue⟩ := exists_feature hfeatures f
        exact .inr ⟨_, .flag hfeatures hattributes hf hvalue⟩
      have hflags : ∀ f, HoldsFlag features f := fun f => not_not.mp (hflags f f.mem_all)
      rcases exists_isFirst_or (fun a => ¬HoldsCount attributes a) Attribute.all with
        ⟨a, ha⟩ | hcounts
      · obtain ⟨value, hvalue⟩ := exists_attribute hattributes a
        exact .inr ⟨_, .count hfeatures hattributes hflags ha hvalue⟩
      · exact .inl ⟨hfeatures, hattributes, hflags, fun a => not_not.mp (hcounts a a.mem_all)⟩
    · exact .inr ⟨_, .attributeKeys hfeatures hattributes (ascends_foldr_insertName _)
        (ascends_foldr_insertName _)⟩
  · exact .inr ⟨_, .featureKeys hfeatures (ascends_foldr_insertName _) (ascends_foldr_insertName _)⟩

/-- Members build a state exactly if their names are those of the tables, a boolean stands under
each feature and a 64-bit count under each attribute, and it is the state of these values. In all
other cases the first defect is reported, and behind the names no lookup misses. -/
theorem members_build_exactly (features attributes : Members) :
    ((∃ s, ofMembers features attributes = .ok s) ↔ MembersShape features attributes) ∧
    (∀ s, ofMembers features attributes = .ok s →
      (∀ f : Feature, features.get? f.key = some (.bool (s.isOn f))) ∧
      ∀ a : Attribute, attributes.get? a.key = some (.int (s.count a).toInt)) ∧
    (∀ error, ofMembers features attributes = .error error ↔
      MembersDefect features attributes error) ∧
    (checkNames .feature (Feature.all.map Feature.key) features = .ok () →
      ∀ f : Feature, ∃ value, features.get? f.key = some value) ∧
    (checkNames .attribute (Attribute.all.map Attribute.key) attributes = .ok () →
      ∀ a : Attribute, ∃ value, attributes.get? a.key = some value) := by
  obtain ⟨hok, herror⟩ := exact_of_total exists_ofMembers_of_shape
    (fun error => ofMembers_of_defect) (membersShape_or_defect features attributes)
  refine ⟨hok, fun s hs => ?_, herror, fun h => ?_, fun h => ?_⟩
  · obtain ⟨-, -, hflags, hcounts⟩ := ofMembers_eq_ok_iff.mp hs
    exact ⟨fun f => Json.bind_bool?_eq_some_iff.mp (hflags f),
      fun a => Json.eq_int_of_bind_signed? (hcounts a)⟩
  · exact exists_feature (checkNames_eq_ok_iff.mp h)
  · exact exists_attribute (checkNames_eq_ok_iff.mp h)

theorem members_build_exactly_longer_name :
    ofMembers [("rca", .bool true), ("paa", .bool true), ("logging", .null), ("pa", .bool true)]
        [("shards_per_collection", .int 5)] =
      .error (.keySet .feature ["batch", "logging", "pa", "rca"] ["logging", "pa", "paa", "rca"]) ∧
    ∃ value : Json, Members.get? [("shards_per_collection", .int 5)] "shards_per_collection" =
      some value := by
  obtain ⟨-, -, herror, -, hfound⟩ := members_build_exactly
    [("rca", .bool true), ("paa", .bool true), ("logging", .null), ("pa", .bool true)]
    [("shards_per_collection", .int 5)]
  refine ⟨(herror _).mpr (.featureKeys (fun hkeys => ?_)
    (ascends_foldr_insertName (Feature.all.map Feature.key))
    (ascends_foldr_insertName ["rca", "paa", "logging", "pa"])), hfound rfl .shardsPerCollection⟩
  exact absurd ((hkeys "paa").mp (by decide)) (by decide)

end State

end AnalyzerAdmin
