import AnalyzerAdmin.Proofs.Encoding
import AnalyzerAdmin.Proofs.Grammar
import AnalyzerAdmin.Proofs.Names

/-!
# The order of the members

Nothing that is decoded from an object depends on the order in which its members are written, nor
on the blanks around them: neither the state nor the error, nor the names that the error lists.
-/

namespace AnalyzerAdmin

structure Members.Agree (members others : Members) : Prop where
  names : members.names = others.names
  get? : ∀ name, members.get? name = others.get? name

theorem Members.Agree.refl (members : Members) : members.Agree members := ⟨rfl, fun _ => rfl⟩

theorem Members.agree_of_perm {members others : Members} (h : members.Perm others)
    (hnames : (members.map Prod.fst).Nodup) : members.Agree others :=
  ⟨names_of_perm h, get?_of_perm h hnames⟩

namespace State

variable {members others features features' attributes attributes' : Members}

theorem checkNames_congr (h : members.Agree others) (kind : KeyKind) (known : List String) :
    checkNames kind known members = checkNames kind known others := by
  rw [checkNames, checkNames, h.names]

theorem turnAll_congr (h : members.Agree others) (fs : List Feature) (s : State) :
    turnAll members fs s = turnAll others fs s := by
  induction fs generalizing s with
  | nil => rfl
  | cons f fs ih =>
    rw [turnAll, turnAll, h.get?]
    simp only [ih]

theorem countAll_congr (h : members.Agree others) (as : List Attribute) (s : State) :
    countAll members as s = countAll others as s := by
  induction as generalizing s with
  | nil => rfl
  | cons a as ih =>
    rw [countAll, countAll, h.get?]
    simp only [ih]

theorem ofMembers_congr (hfeatures : features.Agree features')
    (hattributes : attributes.Agree attributes') :
    ofMembers features attributes = ofMembers features' attributes' := by
  simp only [ofMembers, checkNames_congr hfeatures, checkNames_congr hattributes,
    turnAll_congr hfeatures, countAll_congr hattributes]

theorem field_congr (h : members.Agree others) (name : String) :
    field members name = field others name := by
  rw [field, field, h.get?]

theorem fieldMembers_congr (h : members.Agree others) (fs : List Feature) :
    fieldMembers members fs = fieldMembers others fs := by
  induction fs with
  | nil => rfl
  | cons f fs ih => rw [fieldMembers, fieldMembers, field_congr h, ih]

theorem ofBody_congr (h : members.Agree others) (scope : Scope) :
    ofBody scope (.obj members) = ofBody scope (.obj others) := by
  have hattributes : attributeMembers members Attribute.all =
      attributeMembers others Attribute.all :=
    attributeMembers_congr fun a _ => h.get? a.field
  cases scope with
  | cluster => simp only [ofBody, ofClusterBody, Json.members?, field_congr h, hattributes]
  | node => simp only [ofBody, ofNodeBody, Json.members?, fieldMembers_congr h, hattributes]

theorem ofText_of_objectText {text : String} {ps : List (String × Json)}
    (h : Json.ObjectText text ps) (scope : Scope) :
    ofText scope text = ofBody scope (.obj (Members.ofWritten ps)) := by
  rw [ofText, Json.read_objectText h]

/-- Two texts that write the same members, no two of one name, in any order and with any blanks and
escapes, are read as the same object. Either of them decodes as the members in the order of the
other do, and these members build the same states together with any others. -/
theorem member_order_irrelevant {text text' : String} {ps ps' : List (String × Json)}
    (htext : Json.ObjectText text ps) (htext' : Json.ObjectText text' ps')
    (hnames : (ps.map Prod.fst).Nodup) (hperm : ps.Perm ps') :
    ∃ members, Json.read text = .ok (.obj members) ∧ Json.read text' = .ok (.obj members) ∧
      members.Perm ps ∧
      (∀ scope, ofText scope text = ofText scope text' ∧
        ofText scope text = ofBody scope (.obj ps) ∧
        ofText scope text' = ofBody scope (.obj ps')) ∧
      ∀ others, ofMembers members others = ofMembers ps others ∧
        ofMembers members others = ofMembers ps' others ∧
        ofMembers others members = ofMembers others ps ∧
        ofMembers others members = ofMembers others ps' := by
  have hsame := Members.ofWritten_of_perm hnames hperm
  have hread' := Json.read_objectText htext'
  have hdecode' := ofText_of_objectText htext'
  rw [← hsame] at hread' hdecode'
  have hwritten := Members.perm_ofWritten hnames
  have hsorted := (hwritten.map Prod.fst).nodup_iff.mpr hnames
  have hagree := Members.agree_of_perm hwritten hsorted
  have hagree' := Members.agree_of_perm (hwritten.trans hperm) hsorted
  refine ⟨_, Json.read_objectText htext, hread', hwritten, fun scope => ?_, fun others => ?_⟩
  · rw [ofText_of_objectText htext, hdecode']
    exact ⟨rfl, ofBody_congr hagree scope, ofBody_congr hagree' scope⟩
  · have hothers := Members.Agree.refl others
    exact ⟨ofMembers_congr hagree hothers, ofMembers_congr hagree' hothers,
      ofMembers_congr hothers hagree, ofMembers_congr hothers hagree'⟩

theorem member_order_irrelevant_escaped_name :
    (∀ scope, ofText scope ("\x7b\"currentPerformanceAnalyzerClusterState\":9," ++
        "\"shardsPerCollection\":-2\x7d") =
      ofText scope ("\n\x7b \"\\u0073hardsPerCollection\" :\t-2\r ," ++
        "\"currentPerformanceAnalyzerClusterState\": 9\x7d ")) ∧
      ofText .cluster ("\n\x7b \"\\u0073hardsPerCollection\" :\t-2\r ," ++
        "\"currentPerformanceAnalyzerClusterState\": 9\x7d ") =
          .ok ⟨true, false, false, true, -2⟩ ∧
      ofText .node ("\n\x7b \"\\u0073hardsPerCollection\" :\t-2\r ," ++
        "\"currentPerformanceAnalyzerClusterState\": 9\x7d ") =
          .error (.missingField "performanceAnalyzerEnabled") := by
  have hnone : Json.IsBlank [] := nofun
  have hspace : Json.IsBlank [' '] := by decide
  have htab : Json.IsBlank ['\t'] := by decide
  have hreturn : Json.IsBlank ['\r', ' '] := by decide
  have hmask : Json.Spells 126 (.int 9) ['9'] :=
    .scalar (Json.scalar_ofInt (i := 9) (by decide) (by decide))
  have hcount : Json.Spells 126 (.int (-2)) ['-', '2'] :=
    .scalar (Json.scalar_ofInt (i := -2) (by decide) (by decide))
  have hcode : Json.HexText (((0 * 16 + 0) * 16 + 7) * 16 + 3) ['0', '0', '7', '3'] :=
    .digits rfl rfl rfl rfl
  have hname : Json.StringText countField.toList
      (['\\', 'u', '0', '0', '7', '3'] ++ "hardsPerCollection".toList.flatMap Json.writtenChar) :=
    .cons (.code hcode (by decide)) (Json.stringText_flatMap _)
  have htext : Json.ObjectText ("\x7b\"currentPerformanceAnalyzerClusterState\":9," ++
      "\"shardsPerCollection\":-2\x7d") [(maskField, .int 9), (countField, .int (-2))] := by
    refine ⟨[], _, [], ?_, hnone, .parts (.more
      (.pad hnone (Json.memberText_written maskField hnone hmask) hnone)
      (.last (.pad hnone (Json.memberText_written countField hnone hcount) hnone))), hnone⟩
    decide +kernel
  have htext' : Json.ObjectText ("\n\x7b \"\\u0073hardsPerCollection\" :\t-2\r ," ++
      "\"currentPerformanceAnalyzerClusterState\": 9\x7d ")
      [(countField, .int (-2)), (maskField, .int 9)] := by
    refine ⟨['\n'], _, [' '], ?_, by decide, .parts (.more
      (.pad hspace (.member hname hspace htab hcount) hreturn)
      (.last (.pad hnone (Json.memberText_written maskField hspace hmask) hnone))), hspace⟩
    decide +kernel
  obtain ⟨_, -, -, -, hscopes, -⟩ :=
    member_order_irrelevant htext htext' (by decide) (List.Perm.swap _ _ _)
  refine ⟨fun scope => (hscopes scope).1, ?_, ?_⟩
  · rw [(hscopes .cluster).2.2]
    rfl
  · rw [(hscopes .node).2.2]
    rfl

end State

end AnalyzerAdmin
