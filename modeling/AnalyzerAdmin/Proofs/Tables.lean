import AnalyzerAdmin.Proofs.Keyed
import Mathlib.Data.Finmap

/-!
# States as tables

The flags of a state as a finite map from features, and its counts as one from attributes. Whatever
changes a state enters something in these maps: what is entered follows from what is given and not
from the state (`ofMembers_eq`, `ofBody_eq`, `set_eq`), and a state takes it as its tables do
(`tables_putAll`). Tables that are full stay full, and they are those of states (`full_iff`).
-/

namespace AnalyzerAdmin

inductive Entry
  | flag (f : Feature) (on : Bool)
  | count (a : Attribute) (value : Int64)

@[ext] structure Tables where
  flags : Finmap fun _ : Feature => Bool
  counts : Finmap fun _ : Attribute => Int64

namespace Entry

def ofFeature (members : Members) (f : Feature) : Except BodyError Entry :=
  match (members.get? f.key).bind Json.bool? with
  | some on => .ok (.flag f on)
  | none => .error (.wrongType f.key .boolean)

def ofAttribute (members : Members) (a : Attribute) : Except BodyError Entry :=
  match (members.get? a.key).bind Json.signed? with
  | some value => .ok (.count a value)
  | none => .error (.wrongType a.key .integer)

def ofMembers (features attributes : Members) : Except BodyError (List Entry) := do
  State.checkNames .feature (Feature.all.map Feature.key) features
  State.checkNames .attribute (Attribute.all.map Attribute.key) attributes
  let flags ← Feature.all.mapM (ofFeature features)
  let counts ← Attribute.all.mapM (ofAttribute attributes)
  return flags ++ counts

def ofBody (scope : Scope) (body : Json) : Except BodyError (List Entry) :=
  match body.members? with
  | none => .error .notAnObject
  | some body =>
    match scope with
    | .cluster => do
      let value ← State.field body State.maskField
      match value.unsigned? with
      | none => .error (.wrongType State.maskField .nonNegativeInteger)
      | some mask =>
        ofMembers (State.maskMembers mask) (← State.attributeMembers body Attribute.all)
    | .node => do
      let features ← State.fieldMembers body Feature.all
      (ofMembers features (← State.attributeMembers body Attribute.all)).mapError State.nameField

def ofKey (key : String) (value : Setting) : Except Failure Entry :=
  match Feature.ofKey? key, Attribute.ofKey? key, value with
  | some f, _, .flag on => .ok (.flag f on)
  | some _, _, .count _ => .error (.body (.wrongType key .boolean))
  | none, some a, .count n => .ok (.count a n)
  | none, some _, .flag _ => .error (.body (.wrongType key .integer))
  | none, none, _ => .error (.unknownFeature key)

end Entry

namespace Tables

def insert (t : Tables) : Entry → Tables
  | .flag f on => { t with flags := t.flags.insert f on }
  | .count a value => { t with counts := t.counts.insert a value }

def insertAll (t : Tables) (entries : List Entry) : Tables := entries.foldl insert t

def baseline : Tables :=
  insertAll ⟨∅, ∅⟩ (Feature.all.map (.flag · false) ++ Attribute.all.map (.count · 0))

/-- An entry for every feature and every attribute. A map has no second one for any. -/
structure Full (t : Tables) : Prop where
  flags : ∀ f, f ∈ t.flags
  counts : ∀ a, a ∈ t.counts

theorem Full.insert {t : Tables} (h : t.Full) (e : Entry) : (t.insert e).Full := by
  cases e with
  | flag f on => exact ⟨fun g => Finmap.mem_insert.mpr (.inr (h.flags g)), h.counts⟩
  | count a value => exact ⟨h.flags, fun b => Finmap.mem_insert.mpr (.inr (h.counts b))⟩

theorem Full.insertAll {t : Tables} (h : t.Full) (entries : List Entry) :
    (t.insertAll entries).Full := by
  induction entries generalizing t with
  | nil => exact h
  | cons e entries ih => exact ih (h.insert e)

theorem full_baseline : baseline.Full where
  flags f := by
    simp only [baseline, insertAll, Feature.all, Attribute.all, List.map_cons, List.map_nil,
      List.cons_append, List.nil_append, List.foldl_cons, List.foldl_nil, insert, Finmap.mem_insert]
    cases f <;> simp
  counts a := by
    cases a
    exact Finmap.mem_insert.mpr (.inl rfl)

end Tables

namespace State

def put (s : State) : Entry → State
  | .flag f on => s.turn f on
  | .count a value => s.setCount a value

def putAll (s : State) (entries : List Entry) : State := entries.foldl put s

def tables (s : State) : Tables where
  flags := (Feature.all.map fun f => ⟨f, s.isOn f⟩).toFinmap
  counts := (Attribute.all.map fun a => ⟨a, s.count a⟩).toFinmap

theorem lookup_flags (s : State) (f : Feature) : s.tables.flags.lookup f = some (s.isOn f) := by
  rw [tables, Finmap.dlookup_list_toFinmap]
  cases f <;> rfl

theorem lookup_counts (s : State) (a : Attribute) :
    s.tables.counts.lookup a = some (s.count a) := by
  rw [tables, Finmap.dlookup_list_toFinmap]
  cases a
  rfl

theorem tables_put (s : State) (e : Entry) : (s.put e).tables = s.tables.insert e := by
  cases e with
  | flag f on =>
    refine Tables.ext (Finmap.ext_lookup fun g => ?_) (Finmap.ext_lookup fun a => ?_)
    · by_cases hg : g = f
      · rw [lookup_flags, put, isOn_turn, if_pos hg, hg]
        exact (Finmap.lookup_insert s.tables.flags).symm
      · rw [lookup_flags, put, isOn_turn, if_neg hg, Tables.insert, Finmap.lookup_insert_of_ne _ hg,
          lookup_flags]
    · rw [lookup_counts, put, count_turn]
      exact (s.lookup_counts a).symm
  | count a value =>
    refine Tables.ext (Finmap.ext_lookup fun f => ?_) (Finmap.ext_lookup fun b => ?_)
    · rw [lookup_flags, put, isOn_setCount]
      exact (s.lookup_flags f).symm
    · by_cases hb : b = a
      · rw [lookup_counts, put, count_setCount, if_pos hb, hb]
        exact (Finmap.lookup_insert s.tables.counts).symm
      · rw [lookup_counts, put, count_setCount, if_neg hb, Tables.insert,
          Finmap.lookup_insert_of_ne _ hb, lookup_counts]

theorem tables_putAll (s : State) (entries : List Entry) :
    (s.putAll entries).tables = s.tables.insertAll entries := by
  induction entries generalizing s with
  | nil => rfl
  | cons e entries ih =>
    rw [Tables.insertAll, List.foldl_cons, ← tables_put]
    exact ih (s.put e)

theorem tables_injective {s t : State} (h : s.tables = t.tables) : s = t := by
  refine ext_view (fun f => ?_) fun a => ?_
  · have hf := s.lookup_flags f
    rw [h, lookup_flags] at hf
    exact (Option.some.inj hf).symm
  · have ha := s.lookup_counts a
    rw [h, lookup_counts] at ha
    exact (Option.some.inj ha).symm

theorem full_tables (s : State) : s.tables.Full where
  flags f := Finmap.mem_of_lookup_eq_some (s.lookup_flags f)
  counts a := Finmap.mem_of_lookup_eq_some (s.lookup_counts a)

/-- Full tables are those of states, and each of one state only. -/
theorem full_iff {t : Tables} : t.Full ↔ ∃! s : State, s.tables = t := by
  constructor
  · intro h
    choose flag hflag using fun f => Finmap.mem_iff.mp (h.flags f)
    choose count hcount using fun a => Finmap.mem_iff.mp (h.counts a)
    have htables : tables ⟨flag .analyzer, flag .rootCause, flag .logging, flag .batch,
        count .shardsPerCollection⟩ = t := by
      refine Tables.ext (Finmap.ext_lookup fun f => ?_) (Finmap.ext_lookup fun a => ?_)
      · rw [lookup_flags, hflag]
        cases f <;> rfl
      · rw [lookup_counts, hcount]
        cases a
        rfl
    exact ⟨_, htables, fun s hs => tables_injective (hs.trans htables.symm)⟩
  · rintro ⟨s, rfl, -⟩
    exact s.full_tables

theorem tables_baseline : baseline.tables = Tables.baseline := by
  refine Tables.ext (Finmap.ext_lookup fun f => ?_) (Finmap.ext_lookup fun a => ?_)
  · cases f <;> decide
  · cases a; decide

theorem turnAll_eq (members : Members) (fs : List Feature) (s : State) :
    turnAll members fs s = s.putAll <$> fs.mapM (Entry.ofFeature members) := by
  induction fs generalizing s with
  | nil => rfl
  | cons f fs ih =>
    rw [turnAll, List.mapM_cons, Entry.ofFeature]
    cases (members.get? f.key).bind Json.bool? with
    | none => rfl
    | some on =>
      refine (ih (s.turn f on)).trans ?_
      cases fs.mapM (Entry.ofFeature members) <;> rfl

theorem countAll_eq (members : Members) (as : List Attribute) (s : State) :
    countAll members as s = s.putAll <$> as.mapM (Entry.ofAttribute members) := by
  induction as generalizing s with
  | nil => rfl
  | cons a as ih =>
    rw [countAll, List.mapM_cons, Entry.ofAttribute]
    cases (members.get? a.key).bind Json.signed? with
    | none => rfl
    | some value =>
      refine (ih (s.setCount a value)).trans ?_
      cases as.mapM (Entry.ofAttribute members) <;> rfl

theorem ofMembers_eq (features attributes : Members) :
    ofMembers features attributes = baseline.putAll <$> Entry.ofMembers features attributes := by
  rw [ofMembers, Entry.ofMembers]
  cases checkNames .feature (Feature.all.map Feature.key) features with
  | error e => rfl
  | ok _ =>
    cases checkNames .attribute (Attribute.all.map Attribute.key) attributes with
    | error e => rfl
    | ok _ =>
      simp only [turnAll_eq, countAll_eq]
      cases Feature.all.mapM (Entry.ofFeature features) with
      | error e => rfl
      | ok flags =>
        cases Attribute.all.mapM (Entry.ofAttribute attributes) with
        | error e => rfl
        | ok counts => exact congrArg Except.ok List.foldl_append.symm

theorem mapError_map {α β : Type} (g : BodyError → BodyError) (f : α → β) (x : Except BodyError α) :
    (f <$> x).mapError g = f <$> x.mapError g := by
  cases x <;> rfl

theorem ofBody_eq (scope : Scope) (body : Json) :
    ofBody scope body = baseline.putAll <$> Entry.ofBody scope body := by
  cases scope with
  | cluster =>
    rw [ofBody, ofClusterBody, Entry.ofBody]
    cases body.members? with
    | none => rfl
    | some members =>
      refine (bind_congr fun value => ?_).trans (map_bind _ _ _).symm
      cases value.unsigned? with
      | none => rfl
      | some mask => exact (bind_congr fun _ => ofMembers_eq _ _).trans (map_bind _ _ _).symm
  | node =>
    rw [ofBody, ofNodeBody, Entry.ofBody]
    cases body.members? with
    | none => rfl
    | some members =>
      refine (bind_congr fun features => ?_).trans (map_bind _ _ _).symm
      refine (bind_congr fun attributes => ?_).trans (map_bind _ _ _).symm
      rw [ofMembers_eq, mapError_map]

theorem set_eq (s : State) (key : String) (value : Setting) :
    s.set key value = s.put <$> Entry.ofKey key value := by
  unfold set Entry.ofKey
  cases Feature.ofKey? key <;> cases Attribute.ofKey? key <;> cases value <;> rfl

end State

end AnalyzerAdmin
