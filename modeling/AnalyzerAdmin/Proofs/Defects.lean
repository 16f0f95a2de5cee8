import AnalyzerAdmin.Proofs.Keyed
import AnalyzerAdmin.Proofs.Mask

/-!
# The first defect of a body

A body decodes exactly if it has the shape of its scope, whatever else it has. If it has not, then
decoding ends with the first of its defects, and this defect names a field of the body: what is
built from the fields has the known names, so no check behind them fails.
-/

namespace AnalyzerAdmin

section First

variable {α : Type} {p : α → Prop} {a b : α} {as : List α}

def IsFirst (p : α → Prop) (as : List α) (a : α) : Prop :=
  ∃ front back, as = front ++ a :: back ∧ (∀ b ∈ front, ¬p b) ∧ p a

theorem isFirst_cons : IsFirst p (b :: as) a ↔ (a = b ∧ p b) ∨ (¬p b ∧ IsFirst p as a) := by
  constructor
  · rintro ⟨front, back, heq, hfront, ha⟩
    cases front with
    | nil =>
      obtain ⟨rfl, -⟩ := List.cons.inj heq
      exact .inl ⟨rfl, ha⟩
    | cons c front =>
      obtain ⟨rfl, rfl⟩ := List.cons.inj heq
      obtain ⟨hb, hfront⟩ := List.forall_mem_cons.mp hfront
      exact .inr ⟨hb, front, back, rfl, hfront, ha⟩
  · rintro (⟨rfl, ha⟩ | ⟨hb, front, back, rfl, hfront, ha⟩)
    · exact ⟨[], as, rfl, by simp, ha⟩
    · exact ⟨b :: front, back, rfl, List.forall_mem_cons.mpr ⟨hb, hfront⟩, ha⟩

theorem not_isFirst_nil : ¬IsFirst p [] a := by
  rintro ⟨front, back, heq, -⟩
  simp at heq

theorem exists_isFirst_or (p : α → Prop) (as : List α) :
    (∃ a, IsFirst p as a) ∨ ∀ a ∈ as, ¬p a := by
  induction as with
  | nil => simp
  | cons b as ih =>
    by_cases hb : p b
    · exact .inl ⟨b, isFirst_cons.mpr (.inl ⟨rfl, hb⟩)⟩
    · rcases ih with ⟨a, ha⟩ | hnone
      · exact .inl ⟨a, isFirst_cons.mpr (.inr ⟨hb, ha⟩)⟩
      · exact .inr (List.forall_mem_cons.mpr ⟨hb, hnone⟩)

end First

theorem exact_of_total {ε α : Type} {r : Except ε α} {shape : Prop} {defect : ε → Prop}
    (hok : shape → ∃ a, r = .ok a) (herror : ∀ e, defect e → r = .error e)
    (htotal : shape ∨ ∃ e, defect e) :
    ((∃ a, r = .ok a) ↔ shape) ∧ ∀ e, r = .error e ↔ defect e := by
  refine ⟨⟨?_, hok⟩, fun e => ⟨?_, herror e⟩⟩
  · rintro ⟨a, ha⟩
    apply htotal.resolve_right
    rintro ⟨e, he⟩
    rw [herror e he] at ha
    cases ha
  · intro h
    rcases htotal with hshape | ⟨e', he'⟩
    · obtain ⟨a, ha⟩ := hok hshape
      rw [ha] at h
      cases h
    · rw [herror e' he'] at h
      cases h
      exact he'

namespace Json

theorem bind_bool?_eq_some_iff {value : Option Json} {on : Bool} :
    value.bind bool? = some on ↔ value = some (.bool on) := by
  rw [Option.bind_eq_some_iff]
  constructor
  · rintro ⟨json, rfl, hjson⟩
    rw [eq_of_bool? hjson]
  · rintro rfl
    exact ⟨.bool on, rfl, rfl⟩

theorem exists_bind_signed?_iff {value : Option Json} :
    (∃ n, value.bind signed? = some n) ↔
      ∃ i : Int, value = some (.int i) ∧ -2 ^ 63 ≤ i ∧ i < 2 ^ 63 := by
  constructor
  · rintro ⟨n, hn⟩
    exact ⟨n.toInt, eq_int_of_bind_signed? hn, n.le_toInt, n.toInt_lt⟩
  · rintro ⟨i, hi, hmin, hmax⟩
    exact ⟨Int64.ofInt i, by rw [hi, Option.bind_some, signed?, if_pos ⟨hmin, hmax⟩]⟩

theorem unsigned?_eq_some_iff {value : Json} {n : Nat} :
    value.unsigned? = some n ↔ value = .int n ∧ n < 2 ^ 64 := by
  constructor
  · intro h
    exact ⟨eq_of_unsigned? h, lt_of_unsigned? h⟩
  · rintro ⟨rfl, hn⟩
    rw [unsigned?, if_pos ⟨by omega, by omega⟩, Int.toNat_natCast]

theorem members?_eq_none {json : Json} (h : ∀ members, json ≠ .obj members) :
    json.members? = none := by
  cases json with
  | obj members => exact absurd rfl (h members)
  | _ => rfl

end Json

namespace State

variable {members features attributes : Members} {body : Json} {error : BodyError}

section Shapes

def ShowsFlag (members : Members) (f : Feature) : Prop :=
  ∃ on, members.get? f.field = some (.bool on)

def ShowsCount (members : Members) (a : Attribute) : Prop :=
  ∃ i : Int, members.get? a.field = some (.int i) ∧ -2 ^ 63 ≤ i ∧ i < 2 ^ 63

def ShowsMask (members : Members) : Prop :=
  ∃ n : Nat, members.get? maskField = some (.int n) ∧ n < 2 ^ 64

def NodeShape (body : Json) : Prop :=
  ∃ members : Members, body = .obj members ∧ (∀ f, ShowsFlag members f) ∧ ∀ a, ShowsCount members a

def ClusterShape (body : Json) : Prop :=
  ∃ members : Members, body = .obj members ∧ ShowsMask members ∧ ∀ a, ShowsCount members a

inductive CountDefect (members : Members) : BodyError → Prop
  | missing {a : Attribute} : IsFirst (fun a => ¬ShowsCount members a) Attribute.all a →
      members.get? a.field = none → CountDefect members (.missingField a.field)
  | wrongType {a : Attribute} {value : Json} :
      IsFirst (fun a => ¬ShowsCount members a) Attribute.all a →
      members.get? a.field = some value → CountDefect members (.wrongType a.field .integer)

/-- The first defect of a node's body. The types of flags are looked at last. -/
inductive NodeDefect : Json → BodyError → Prop
  | notAnObject {body : Json} : (∀ members, body ≠ .obj members) → NodeDefect body .notAnObject
  | missingFlag {members : Members} {f : Feature} :
      IsFirst (fun f => members.get? f.field = none) Feature.all f →
      NodeDefect (.obj members) (.missingField f.field)
  | count {members : Members} {error : BodyError} : (∀ f : Feature, members.get? f.field ≠ none) →
      CountDefect members error → NodeDefect (.obj members) error
  | wrongFlag {members : Members} {f : Feature} : (∀ f : Feature, members.get? f.field ≠ none) →
      (∀ a, ShowsCount members a) → IsFirst (fun f => ¬ShowsFlag members f) Feature.all f →
      NodeDefect (.obj members) (.wrongType f.field .boolean)

inductive ClusterDefect : Json → BodyError → Prop
  | notAnObject {body : Json} : (∀ members, body ≠ .obj members) → ClusterDefect body .notAnObject
  | missingMask {members : Members} : members.get? maskField = none →
      ClusterDefect (.obj members) (.missingField maskField)
  | wrongMask {members : Members} {value : Json} : members.get? maskField = some value →
      ¬ShowsMask members → ClusterDefect (.obj members) (.wrongType maskField .nonNegativeInteger)
  | count {members : Members} {error : BodyError} : ShowsMask members →
      CountDefect members error → ClusterDefect (.obj members) error

end Shapes

theorem field_of_get? {name : String} {value : Json} (h : members.get? name = some value) :
    field members name = .ok value := by
  rw [field, h]

theorem field_of_none {name : String} (h : members.get? name = none) :
    field members name = .error (.missingField name) := by
  rw [field, h]

theorem showsCount_iff {a : Attribute} :
    ShowsCount members a ↔ ∃ n, (members.get? a.field).bind Json.signed? = some n :=
  Json.exists_bind_signed?_iff.symm

section Attributes

variable {as : List Attribute}

theorem exists_countMembers (h : ∀ a, ShowsCount members a) :
    ∃ attributes, attributeMembers members Attribute.all = .ok attributes ∧
      attributes.map Prod.fst = Attribute.all.map Attribute.key :=
  exists_attributeMembers fun a _ => showsCount_iff.mp (h a)

theorem attributeMembers_cons {b : Attribute} (h : ShowsCount members b) (as : List Attribute) :
    ∃ value, attributeMembers members (b :: as) =
      (attributeMembers members as).map ((b.key, value) :: ·) := by
  obtain ⟨n, hn⟩ := showsCount_iff.mp h
  obtain ⟨value, hvalue, hsigned⟩ := Option.bind_eq_some_iff.mp hn
  refine ⟨value, ?_⟩
  rw [attributeMembers, field_of_get? hvalue]
  simp only [bind, Except.bind, hsigned, Option.isNone_some, Bool.false_eq_true, if_false]
  rfl

theorem attributeMembers_of_isFirst {a : Attribute}
    (h : IsFirst (fun a => ¬ShowsCount members a) as a) :
    attributeMembers members as =
      (field members a.field >>= fun _ => .error (.wrongType a.field .integer)) := by
  induction as with
  | nil => exact absurd h not_isFirst_nil
  | cons b as ih =>
    rcases isFirst_cons.mp h with ⟨rfl, hcount⟩ | ⟨hcount, hrest⟩
    · rw [attributeMembers]
      cases hvalue : members.get? a.field with
      | none => rw [field_of_none hvalue]; rfl
      | some value =>
        have hsigned : value.signed? = none := by
          rw [Option.eq_none_iff_forall_ne_some]
          intro n hn
          exact hcount (showsCount_iff.mpr ⟨n, by rw [hvalue, Option.bind_some, hn]⟩)
        rw [field_of_get? hvalue]
        simp only [bind, Except.bind, hsigned, Option.isNone_none, if_true]
    · obtain ⟨value, hcons⟩ := attributeMembers_cons (not_not.mp hcount) as
      rw [hcons, ih hrest]
      cases field members a.field <;> rfl

theorem attributeMembers_of_defect (h : CountDefect members error) :
    attributeMembers members Attribute.all = .error error := by
  cases h with
  | missing hfirst hnone => rw [attributeMembers_of_isFirst hfirst, field_of_none hnone]; rfl
  | wrongType hfirst hsome => rw [attributeMembers_of_isFirst hfirst, field_of_get? hsome]; rfl

theorem shows_or_countDefect (members : Members) :
    (∀ a, ShowsCount members a) ∨ ∃ error, CountDefect members error := by
  rcases exists_isFirst_or (fun a => ¬ShowsCount members a) Attribute.all with ⟨a, ha⟩ | hall
  · cases hvalue : members.get? a.field with
    | none => exact .inr ⟨_, .missing ha hvalue⟩
    | some value => exact .inr ⟨_, .wrongType ha hvalue⟩
  · exact .inl fun a => not_not.mp (hall a a.mem_all)

end Attributes

section Features

variable {fs : List Feature}

theorem exists_fieldMembers (h : ∀ f ∈ fs, members.get? f.field ≠ none) :
    ∃ features, fieldMembers members fs = .ok features ∧
      features.map Prod.fst = fs.map Feature.key := by
  induction fs with
  | nil => exact ⟨[], rfl, rfl⟩
  | cons f fs ih =>
    obtain ⟨hf, hfs⟩ := List.forall_mem_cons.mp h
    obtain ⟨value, hvalue⟩ := Option.ne_none_iff_exists'.mp hf
    obtain ⟨features, hfeatures, hkeys⟩ := ih hfs
    refine ⟨(f.key, value) :: features, ?_, congrArg (f.key :: ·) hkeys⟩
    rw [fieldMembers, field_of_get? hvalue, hfeatures]
    rfl

theorem fieldMembers_of_isFirst {f : Feature}
    (h : IsFirst (fun f => members.get? f.field = none) fs f) :
    fieldMembers members fs = .error (.missingField f.field) := by
  induction fs with
  | nil => exact absurd h not_isFirst_nil
  | cons g fs ih =>
    rw [fieldMembers]
    rcases isFirst_cons.mp h with ⟨rfl, hnone⟩ | ⟨hsome, hrest⟩
    · rw [field_of_none hnone]
      rfl
    · obtain ⟨value, hvalue⟩ := Option.ne_none_iff_exists'.mp hsome
      rw [field_of_get? hvalue, ih hrest]
      rfl

theorem turnAll_of_isFirst {f : Feature}
    (h : IsFirst (fun f => (members.get? f.key).bind Json.bool? = none) fs f) (s : State) :
    turnAll members fs s = .error (.wrongType f.key .boolean) := by
  induction fs generalizing s with
  | nil => exact absurd h not_isFirst_nil
  | cons g fs ih =>
    rw [turnAll]
    rcases isFirst_cons.mp h with ⟨rfl, hnone⟩ | ⟨hsome, hrest⟩
    · rw [hnone]
    · obtain ⟨on, hon⟩ := Option.ne_none_iff_exists'.mp hsome
      rw [hon]
      exact ih hrest _

end Features

theorem checkNames_of_fst {kind : KeyKind} {known : List String}
    (h : members.map Prod.fst = known) : checkNames kind known members = .ok () := by
  rw [checkNames, members.names_eq, h, if_pos rfl]

theorem ofMembers_of_fst (hfeatures : features.map Prod.fst = Feature.all.map Feature.key)
    (hattributes : attributes.map Prod.fst = Attribute.all.map Attribute.key) :
    ofMembers features attributes =
      (turnAll features Feature.all baseline >>= countAll attributes Attribute.all) := by
  rw [ofMembers, checkNames_of_fst hfeatures, checkNames_of_fst hattributes]
  rfl

theorem nameField_key (f : Feature) (expected : Expected) :
    nameField (.wrongType f.key expected) = .wrongType f.field expected := by
  rw [nameField, f.ofKey?_key]
  rfl

theorem exists_ofMembers (hfeatures : features.map Prod.fst = Feature.all.map Feature.key)
    (hattributes : attributes.map Prod.fst = Attribute.all.map Attribute.key)
    (hflags : ∀ f : Feature, ∃ on, (features.get? f.key).bind Json.bool? = some on)
    (hcounts : ∀ a : Attribute, ∃ n, (attributes.get? a.key).bind Json.signed? = some n) :
    ∃ s, ofMembers features attributes = .ok s := by
  obtain ⟨turned, hturn⟩ := exists_turnAll (fun f _ => hflags f) baseline
  obtain ⟨s, hcount⟩ := exists_countAll (fun a _ => hcounts a) turned
  refine ⟨s, ?_⟩
  rw [ofMembers_of_fst hfeatures hattributes, hturn]
  exact hcount

theorem counts_of_attributeMembers (h : attributeMembers members Attribute.all = .ok attributes)
    (a : Attribute) : ∃ n, (attributes.get? a.key).bind Json.signed? = some n := by
  rw [get?_attributeMembers h a.mem_all]
  rcases shows_or_countDefect members with hshows | ⟨error, hdefect⟩
  · exact showsCount_iff.mp (hshows a)
  · rw [attributeMembers_of_defect hdefect] at h
    cases h

theorem fst_of_attributeMembers (h : attributeMembers members Attribute.all = .ok attributes) :
    attributes.map Prod.fst = Attribute.all.map Attribute.key := by
  rcases shows_or_countDefect members with hshows | ⟨error, hdefect⟩
  · obtain ⟨attributes', h', hkeys⟩ := exists_countMembers hshows
    rw [h] at h'
    cases h'
    exact hkeys
  · rw [attributeMembers_of_defect hdefect] at h
    cases h

section Node

theorem ofNodeBody_eq (hfeatures : fieldMembers members Feature.all = .ok features)
    (hattributes : attributeMembers members Attribute.all = .ok attributes) :
    ofNodeBody (.obj members) = (ofMembers features attributes).mapError nameField := by
  simp only [ofNodeBody, Json.members?, hfeatures, hattributes, bind, Except.bind]

theorem exists_ofNodeBody (h : NodeShape body) : ∃ s, ofNodeBody body = .ok s := by
  obtain ⟨members, rfl, hflags, hcounts⟩ := h
  have hsome : ∀ f ∈ Feature.all, members.get? f.field ≠ none := by
    intro f _
    obtain ⟨on, hon⟩ := hflags f
    simp [hon]
  obtain ⟨features, hfeatures, hkeys⟩ := exists_fieldMembers hsome
  obtain ⟨attributes, hattributes, hnames⟩ := exists_countMembers hcounts
  have hbools : ∀ f : Feature, ∃ on, (features.get? f.key).bind Json.bool? = some on := by
    intro f
    rw [get?_fieldMembers hfeatures f.mem_all]
    obtain ⟨on, hon⟩ := hflags f
    exact ⟨on, Json.bind_bool?_eq_some_iff.mpr hon⟩
  obtain ⟨s, hs⟩ :=
    exists_ofMembers hkeys hnames hbools (counts_of_attributeMembers hattributes)
  exact ⟨s, by rw [ofNodeBody_eq hfeatures hattributes, hs]; rfl⟩

theorem ofNodeBody_of_defect (h : NodeDefect body error) : ofNodeBody body = .error error := by
  cases h with
  | notAnObject hobj => rw [ofNodeBody, Json.members?_eq_none hobj]
  | missingFlag hfirst =>
    simp only [ofNodeBody, Json.members?, fieldMembers_of_isFirst hfirst, bind, Except.bind]
  | count hsome hcount =>
    obtain ⟨features, hfeatures, -⟩ := exists_fieldMembers fun f (_ : f ∈ Feature.all) => hsome f
    simp only [ofNodeBody, Json.members?, hfeatures, attributeMembers_of_defect hcount, bind,
      Except.bind]
  | @wrongFlag members f hsome hcounts hfirst =>
    obtain ⟨features, hfeatures, hkeys⟩ := exists_fieldMembers fun f _ => hsome f
    obtain ⟨attributes, hattributes, hnames⟩ := exists_countMembers hcounts
    -- Behind the fields the same flag is the first that is no boolean, under its key.
    have hkey : (fun f : Feature => ¬ShowsFlag members f) =
        fun f => (features.get? f.key).bind Json.bool? = none := by
      funext g
      rw [get?_fieldMembers hfeatures g.mem_all, Option.eq_none_iff_forall_ne_some, ShowsFlag,
        not_exists]
      simp only [ne_eq, Json.bind_bool?_eq_some_iff]
    rw [hkey] at hfirst
    rw [ofNodeBody_eq hfeatures hattributes, ofMembers_of_fst hkeys hnames,
      turnAll_of_isFirst hfirst]
    exact congrArg Except.error (nameField_key f .boolean)

theorem nodeShape_or_defect (body : Json) : NodeShape body ∨ ∃ error, NodeDefect body error := by
  by_cases hobj : ∃ members, body = .obj members
  · obtain ⟨(members : Members), rfl⟩ := hobj
    rcases exists_isFirst_or (fun f : Feature => members.get? f.field = none) Feature.all with
      ⟨f, hf⟩ | hsome
    · exact .inr ⟨_, .missingFlag hf⟩
    have hfields : ∀ f : Feature, members.get? f.field ≠ none := fun f => hsome f f.mem_all
    rcases shows_or_countDefect members with hcounts | ⟨error, hcount⟩
    · rcases exists_isFirst_or (fun f => ¬ShowsFlag members f) Feature.all with ⟨f, hf⟩ | hflags
      · exact .inr ⟨_, .wrongFlag hfields hcounts hf⟩
      · exact .inl ⟨members, rfl, fun f => not_not.mp (hflags f f.mem_all), hcounts⟩
    · exact .inr ⟨error, .count hfields hcount⟩
  · exact .inr ⟨_, .notAnObject (not_exists.mp hobj)⟩

end Node

section Cluster

theorem get?_mask_of_shows (h : ShowsMask members) :
    ∃ n, (Json.get? (.obj members) maskField).bind Json.unsigned? = some n := by
  obtain ⟨n, hn, hlt⟩ := h
  refine ⟨n, ?_⟩
  rw [Json.get?_of_members rfl, hn, Option.bind_some, Json.unsigned?_eq_some_iff]
  exact ⟨rfl, hlt⟩

theorem exists_ofMembers_of_mask (mask : Nat)
    (h : attributeMembers members Attribute.all = .ok attributes) :
    ∃ s, ofMembers (maskMembers mask) attributes = .ok s := by
  refine exists_ofMembers rfl (fst_of_attributeMembers h) (fun f => ?_)
    (counts_of_attributeMembers h)
  exact ⟨mask.testBit f.bit, Json.bind_bool?_eq_some_iff.mpr (get?_maskMembers mask f)⟩

theorem exists_ofClusterBody (h : ClusterShape body) : ∃ s, ofClusterBody body = .ok s := by
  obtain ⟨members, rfl, hmask, hcounts⟩ := h
  obtain ⟨n, hn⟩ := get?_mask_of_shows hmask
  obtain ⟨attributes, hattributes, -⟩ := exists_countMembers hcounts
  obtain ⟨s, hs⟩ := exists_ofMembers_of_mask n hattributes
  refine ⟨s, ?_⟩
  rw [ofClusterBody_eq rfl hn, hattributes]
  exact hs

theorem ofClusterBody_of_defect (h : ClusterDefect body error) :
    ofClusterBody body = .error error := by
  cases h with
  | notAnObject hobj => rw [ofClusterBody, Json.members?_eq_none hobj]
  | missingMask hnone =>
    simp only [ofClusterBody, Json.members?, field_of_none hnone, bind, Except.bind]
  | wrongMask hvalue hmask =>
    rename_i members value
    have hunsigned : value.unsigned? = none := by
      rw [Option.eq_none_iff_forall_ne_some]
      intro n hn
      obtain ⟨rfl, hlt⟩ := Json.unsigned?_eq_some_iff.mp hn
      exact hmask ⟨n, hvalue, hlt⟩
    simp only [ofClusterBody, Json.members?, field_of_get? hvalue, bind, Except.bind, hunsigned]
  | count hmask hcount =>
    obtain ⟨n, hn⟩ := get?_mask_of_shows hmask
    rw [ofClusterBody_eq rfl hn, attributeMembers_of_defect hcount]
    rfl

theorem clusterShape_or_defect (body : Json) :
    ClusterShape body ∨ ∃ error, ClusterDefect body error := by
  by_cases hobj : ∃ members, body = .obj members
  · obtain ⟨(members : Members), rfl⟩ := hobj
    by_cases hmask : ShowsMask members
    · rcases shows_or_countDefect members with hcounts | ⟨error, hcount⟩
      · exact .inl ⟨members, rfl, hmask, hcounts⟩
      · exact .inr ⟨error, .count hmask hcount⟩
    · cases hvalue : members.get? maskField with
      | none => exact .inr ⟨_, .missingMask hvalue⟩
      | some value => exact .inr ⟨_, .wrongMask hvalue hmask⟩
  · exact .inr ⟨_, .notAnObject (not_exists.mp hobj)⟩

theorem exact_ofClusterBody (body : Json) :
    ((∃ s, ofClusterBody body = .ok s) ↔ ClusterShape body) ∧
      ∀ error, ofClusterBody body = .error error ↔ ClusterDefect body error :=
  exact_of_total exists_ofClusterBody (fun _ => ofClusterBody_of_defect)
    (clusterShape_or_defect body)

end Cluster

section Names

def IsField (name : String) : Prop :=
  (name = maskField ∨ (∃ f : Feature, name = f.field) ∨ ∃ a : Attribute, name = a.field) ∧
    (∀ f : Feature, name ≠ f.key) ∧ ∀ a : Attribute, name ≠ a.key

def NamesField : BodyError → Prop
  | .notAnObject => True
  | .missingField name => IsField name
  | .wrongType name _ => IsField name
  | .json _ => False
  | .keySet _ _ _ => False

theorem isField_mask : IsField maskField := by
  refine ⟨.inl rfl, fun f => ?_, fun a => ?_⟩
  · cases f <;> decide
  · cases a
    decide

theorem isField_feature (f : Feature) : IsField f.field := by
  refine ⟨.inr (.inl ⟨f, rfl⟩), fun g => ?_, fun a => ?_⟩
  · cases f <;> cases g <;> decide
  · cases f <;> cases a <;> decide

theorem isField_attribute (a : Attribute) : IsField a.field := by
  refine ⟨.inr (.inr ⟨a, rfl⟩), fun f => ?_, fun b => ?_⟩
  · cases a
    cases f <;> decide
  · cases a
    cases b
    decide

theorem CountDefect.namesField (h : CountDefect members error) : NamesField error := by
  cases h with
  | missing _ _ => exact isField_attribute _
  | wrongType _ _ => exact isField_attribute _

theorem NodeDefect.namesField (h : NodeDefect body error) : NamesField error := by
  cases h with
  | notAnObject _ => trivial
  | missingFlag _ => exact isField_feature _
  | count _ hcount => exact hcount.namesField
  | wrongFlag _ _ _ => exact isField_feature _

theorem ClusterDefect.namesField (h : ClusterDefect body error) : NamesField error := by
  cases h with
  | notAnObject _ => trivial
  | missingMask _ => exact isField_mask
  | wrongMask _ _ => exact isField_mask
  | count _ hcount => exact hcount.namesField

end Names

/-- A node's body decodes exactly if each feature's field is a boolean and each count an integer of
64 bits. Every other body gives its first defect, and so an error about the body or a field of it.
-/
theorem node_bodies_decode_exactly (body : Json) :
    ((∃ s, ofNodeBody body = .ok s) ↔ NodeShape body) ∧
      (∀ error, ofNodeBody body = .error error ↔ NodeDefect body error) ∧
      ∀ error, ofNodeBody body = .error error → NamesField error := by
  obtain ⟨hok, herror⟩ := exact_of_total exists_ofNodeBody (fun _ => ofNodeBody_of_defect)
    (nodeShape_or_defect body)
  exact ⟨hok, herror, fun error h => ((herror error).mp h).namesField⟩

theorem node_bodies_decode_exactly_two_defects :
    ofNodeBody (.obj [("performanceAnalyzerEnabled", .null), ("rcaEnabled", .bool true),
        ("loggingEnabled", .int 1), ("batchMetricsEnabled", .bool false),
        ("shardsPerCollection", .int 9223372036854775808)]) =
      .error (.wrongType "shardsPerCollection" .integer) ∧
    NamesField (.wrongType "shardsPerCollection" .integer) := by
  have h : ofNodeBody (.obj [("performanceAnalyzerEnabled", .null), ("rcaEnabled", .bool true),
      ("loggingEnabled", .int 1), ("batchMetricsEnabled", .bool false),
      ("shardsPerCollection", .int 9223372036854775808)]) =
    .error (.wrongType "shardsPerCollection" .integer) := rfl
  exact ⟨h, (node_bodies_decode_exactly _).2.2 _ h⟩

structure Builds (features attributes : Members) : Prop where
  featureNames : checkNames .feature (Feature.all.map Feature.key) features = .ok ()
  attributeNames : checkNames .attribute (Attribute.all.map Attribute.key) attributes = .ok ()
  flags : ∀ f : Feature, ∃ on, features.get? f.key = some (.bool on)
  counts : ∀ a : Attribute, ∃ n : Int64, attributes.get? a.key = some (.int n.toInt)
  builds : ∃ s, ofMembers features attributes = .ok s

theorem builds_of_mask (mask : Nat) (h : attributeMembers members Attribute.all = .ok attributes) :
    Builds (maskMembers mask) attributes where
  featureNames := checkNames_of_fst rfl
  attributeNames := checkNames_of_fst (fst_of_attributeMembers h)
  flags f := ⟨_, get?_maskMembers mask f⟩
  counts a := by
    obtain ⟨n, hn⟩ := counts_of_attributeMembers h a
    exact ⟨n, Json.eq_int_of_bind_signed? hn⟩
  builds := exists_ofMembers_of_mask mask h

/-- A cluster's body decodes exactly if its mask is an integer from 0 to `2^64 - 1` and each count
an integer of 64 bits. Every other body gives its first defect, which is about the body or a field
of it, as what is built from any mask and the counts that were read is never refused. -/
theorem cluster_bodies_decode_exactly (body : Json) :
    ((∃ s, ofClusterBody body = .ok s) ↔ ClusterShape body) ∧
      (∀ error, ofClusterBody body = .error error ↔ ClusterDefect body error) ∧
      (∀ error, ofClusterBody body = .error error → NamesField error) ∧
      ∀ (mask : Nat) {members attributes : Members},
        attributeMembers members Attribute.all = .ok attributes →
        Builds (maskMembers mask) attributes := by
  obtain ⟨hok, herror⟩ := exact_ofClusterBody body
  exact ⟨hok, herror, fun error h => ((herror error).mp h).namesField,
    fun mask _ _ h => builds_of_mask mask h⟩

theorem cluster_bodies_decode_exactly_two_defects :
    ofClusterBody (.obj [("currentPerformanceAnalyzerClusterState", .int 18446744073709551616)]) =
      .error (.wrongType "currentPerformanceAnalyzerClusterState" .nonNegativeInteger) ∧
    NamesField (.wrongType "currentPerformanceAnalyzerClusterState" .nonNegativeInteger) ∧
    Builds (maskMembers 18446744073709551615) [("shards_per_collection", .int (-1))] := by
  have h : ofClusterBody
      (.obj [("currentPerformanceAnalyzerClusterState", .int 18446744073709551616)]) =
    .error (.wrongType "currentPerformanceAnalyzerClusterState" .nonNegativeInteger) := rfl
  have hattributes : attributeMembers [("shardsPerCollection", .int (-1))] Attribute.all =
    .ok [("shards_per_collection", .int (-1))] := rfl
  obtain ⟨-, -, hnames, hbuilds⟩ := cluster_bodies_decode_exactly
    (.obj [("currentPerformanceAnalyzerClusterState", .int 18446744073709551616)])
  exact ⟨h, hnames _ h, hbuilds _ hattributes⟩

end State

end AnalyzerAdmin
