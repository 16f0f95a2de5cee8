import AnalyzerAdmin.Error
import AnalyzerAdmin.Feature
import AnalyzerAdmin.Json.Printer

/-!
# The state of an analyzer

Which features are on, and the counts reported with them. A state has exactly one flag for each
feature and one 64-bit count for each attribute, so nothing can be missing from it. `ofMembers`
builds one from named JSON values and refuses every other set of names.
-/

namespace AnalyzerAdmin

structure State where
  analyzer : Bool := false
  rootCause : Bool := false
  logging : Bool := false
  batch : Bool := false
  shards : Int64 := 0
deriving DecidableEq, Repr, Hashable

inductive Setting
  | flag (on : Bool)
  | count (value : Int64)
deriving DecidableEq, Repr

def Setting.render : Setting → String
  | .flag on => String.ofList (Json.writtenWord on)
  | .count value => String.ofList (Decimal.ofInt value.toInt)

namespace State

def baseline : State := {}

def isOn (s : State) : Feature → Bool
  | .analyzer => s.analyzer
  | .rootCause => s.rootCause
  | .logging => s.logging
  | .batch => s.batch

def turn (s : State) (f : Feature) (on : Bool) : State :=
  match f with
  | .analyzer => { s with analyzer := on }
  | .rootCause => { s with rootCause := on }
  | .logging => { s with logging := on }
  | .batch => { s with batch := on }

def count (s : State) : Attribute → Int64
  | .shardsPerCollection => s.shards

def setCount (s : State) (a : Attribute) (value : Int64) : State :=
  match a with
  | .shardsPerCollection => { s with shards := value }

@[simp] theorem isOn_turn (s : State) (f g : Feature) (on : Bool) :
    (s.turn f on).isOn g = if g = f then on else s.isOn g := by
  cases f <;> cases g <;> rfl

@[simp] theorem isOn_setCount (s : State) (a : Attribute) (value : Int64) (f : Feature) :
    (s.setCount a value).isOn f = s.isOn f := by
  cases a; cases f <;> rfl

@[simp] theorem count_turn (s : State) (f : Feature) (on : Bool) (a : Attribute) :
    (s.turn f on).count a = s.count a := by
  cases f <;> rfl

@[simp] theorem count_setCount (s : State) (a b : Attribute) (value : Int64) :
    (s.setCount a value).count b = if b = a then value else s.count b := by
  cases a; cases b; rfl

theorem ext_view {s t : State} (flags : ∀ f, s.isOn f = t.isOn f)
    (counts : ∀ a, s.count a = t.count a) : s = t := by
  cases s; cases t
  have h1 := flags .analyzer
  have h2 := flags .rootCause
  have h3 := flags .logging
  have h4 := flags .batch
  have h5 := counts .shardsPerCollection
  simp_all [isOn, count]

def enabled (s : State) : List Feature := Feature.all.filter s.isOn

def get? (s : State) (key : String) : Option Setting :=
  match Feature.ofKey? key with
  | some f => some (.flag (s.isOn f))
  | none => (Attribute.ofKey? key).map fun a => .count (s.count a)

def members (s : State) : Members :=
  Feature.all.map (fun f => (f.key, .bool (s.isOn f))) ++
    Attribute.all.map fun a => (a.key, .int (s.count a).toInt)

def render (s : State) : String := (Json.obj s.members).line

def checkNames (kind : KeyKind) (known : List String) (members : Members) :
    Except BodyError Unit :=
  let expected := known.foldr Members.insertName []
  if members.names = expected then .ok ()
  else .error (.keySet kind expected members.names)

def turnAll (members : Members) : List Feature → State → Except BodyError State
  | [], s => .ok s
  | f :: fs, s =>
    match (members.get? f.key).bind Json.bool? with
    | some on => turnAll members fs (s.turn f on)
    | none => .error (.wrongType f.key .boolean)

def countAll (members : Members) : List Attribute → State → Except BodyError State
  | [], s => .ok s
  | a :: as, s =>
    match (members.get? a.key).bind Json.signed? with
    | some value => countAll members as (s.setCount a value)
    | none => .error (.wrongType a.key .integer)

/-- The state with the given flags and counts. Both sets of names are checked before any value,
and values in the order of the tables. -/
def ofMembers (features attributes : Members) : Except BodyError State := do
  checkNames .feature (Feature.all.map Feature.key) features
  checkNames .attribute (Attribute.all.map Attribute.key) attributes
  let s ← turnAll features Feature.all baseline
  countAll attributes Attribute.all s

end State

end AnalyzerAdmin
