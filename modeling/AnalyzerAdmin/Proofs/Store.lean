import AnalyzerAdmin.Proofs.Display
import AnalyzerAdmin.Proofs.Tables
import Mathlib.Data.List.Nodup
import Mathlib.Logic.Function.Basic

/-!
# Named states

Runs of operations on any number of states. What one operation leaves under a key is what it writes
there, or else what was there (`get?_step`); so a run leaves what its last writing operation wrote.
Operations that fail change nothing, an operation changes no state but its target's, and writes to
different keys can change places. A run over tables, in which entries are inserted, keeps them full
and comes to the tables of the states (`tables_run`).
-/

namespace AnalyzerAdmin

abbrev Store := String → State

namespace Store

def fresh : Store := fun _ => State.baseline

inductive Operation
  | reset
  | copy (source : String)
  | build (features attributes : Members)
  | decode (scope : Scope) (body : Json)
  | set (key : String) (value : Setting)
  | turn (f : Feature) (on : Bool)
  | turned (source : String) (f : Feature) (on : Bool)
  | setCount (a : Attribute) (value : Int64)

structure Step where
  target : String
  operation : Operation

def Step.result (store : Store) (x : Step) : Except Failure State :=
  match x.operation with
  | .reset => .ok State.baseline
  | .copy source => .ok (store source)
  | .build features attributes => (State.ofMembers features attributes).mapError .body
  | .decode scope body => (State.ofBody scope body).mapError .body
  | .set key value => (store x.target).set key value
  | .turn f on => .ok ((store x.target).turn f on)
  | .turned source f on => .ok ((store source).turn f on)
  | .setCount a value => .ok ((store x.target).setCount a value)

def step (store : Store) (x : Step) : Store :=
  match x.result store with
  | .ok s => Function.update store x.target s
  | .error _ => store

def run (store : Store) (steps : List Step) : Store := steps.foldl step store

def Operation.key? : Operation → Option String
  | .set key _ => some key
  | .turn f _ => some f.key
  | .setCount a _ => some a.key
  | _ => none

/-- What an operation writes to a key if it succeeds: as it is given, and not as it comes out. -/
def Operation.written? (store : Store) : Operation → String → Option Setting
  | .reset => Setting.find? (fun _ => some false) fun _ => some 0
  | .copy source => (store source).get?
  | .build features attributes =>
    Setting.find? (fun f => (features.get? f.key).bind Json.bool?) fun a =>
      (attributes.get? a.key).bind Json.signed?
  | .decode .cluster body =>
    Setting.find?
      (fun f => ((body.get? State.maskField).bind Json.unsigned?).map (·.testBit f.bit)) fun a =>
        (body.get? a.field).bind Json.signed?
  | .decode .node body =>
    Setting.find? (fun f => (body.get? f.field).bind Json.bool?) fun a =>
      (body.get? a.field).bind Json.signed?
  | .set k value => fun key => if key = k then some value else none
  | .turn f on => fun key => if key = f.key then some (.flag on) else none
  | .turned source f on => fun key =>
    if key = f.key then some (.flag on) else (store source).get? key
  | .setCount a value => fun key => if key = a.key then some (.count value) else none

def Step.writes? (store : Store) (name key : String) (x : Step) : Option Setting :=
  if x.target = name ∧ (x.result store).isOk = true then x.operation.written? store key else none

def Untouched (name key : String) : Store → List Step → Prop
  | _, [] => True
  | store, x :: xs => x.writes? store name key = none ∧ Untouched name key (store.step x) xs

def effective : Store → List Step → List Step
  | _, [] => []
  | store, x :: xs =>
    if (x.result store).isOk = true then x :: effective (store.step x) xs
    else effective (store.step x) xs

/-- What an operation enters, which follows from what it is given, whatever the states are. -/
def Operation.entries : Operation → Except Failure (List Entry)
  | .reset | .copy _ => .ok []
  | .build features attributes => (Entry.ofMembers features attributes).mapError .body
  | .decode scope body => (Entry.ofBody scope body).mapError .body
  | .set key value => (fun e => [e]) <$> Entry.ofKey key value
  | .turn f on | .turned _ f on => .ok [.flag f on]
  | .setCount a value => .ok [.count a value]

def Step.source? (x : Step) : Option String :=
  match x.operation with
  | .reset | .build _ _ | .decode _ _ => none
  | .copy source | .turned source _ _ => some source
  | .set _ _ | .turn _ _ | .setCount _ _ => some x.target

def tableStep (tables : String → Tables) (x : Step) : String → Tables :=
  match x.operation.entries with
  | .ok entries =>
    Function.update tables x.target ((x.source?.elim .baseline tables).insertAll entries)
  | .error _ => tables

def tableRun (tables : String → Tables) (steps : List Step) : String → Tables :=
  steps.foldl tableStep tables

end Store

namespace State

/-- A state with one flag for each feature, one count for each attribute, and nothing else. Every
row of the tables is one member and has its setting, and no other key has one. -/
structure Whole (s : State) : Prop where
  keys : s.members.map Prod.fst = Feature.all.map Feature.key ++ Attribute.all.map Attribute.key
  nodup : (s.members.map Prod.fst).Nodup
  flag : ∀ f : Feature, s.get? f.key = some (.flag (s.isOn f)) ∧
    s.members.get? f.key = some (.bool (s.isOn f))
  count : ∀ a : Attribute, s.get? a.key = some (.count (s.count a)) ∧
    s.members.get? a.key = some (.int (s.count a).toInt)
  known : ∀ key, (s.get? key).isSome = true ↔
    (∃ f : Feature, key = f.key) ∨ ∃ a : Attribute, key = a.key
  enabled : ∀ f : Feature, f ∈ s.enabled ↔ s.get? f.key = some (.flag true)

theorem whole (s : State) : s.Whole where
  keys := s.fst_members
  nodup := s.nodup_fst_members
  flag f := ⟨s.get?_feature f,
    Members.get?_of_mem s.nodup_fst_members (mem_members.mpr (.inl ⟨f, rfl⟩))⟩
  count a := ⟨s.get?_attribute a,
    Members.get?_of_mem s.nodup_fst_members (mem_members.mpr (.inr ⟨a, rfl⟩))⟩
  known := s.isSome_get?
  enabled f := by
    rw [get?_feature, enabled, List.mem_filter, and_iff_right f.mem_all]
    simp

theorem get?_baseline (key : String) :
    baseline.get? key = Setting.find? (fun _ => some false) (fun _ => some 0) key := by
  rw [get?_eq_find?]
  refine Setting.find?_congr (fun f => ?_) (fun a => ?_) key
  · cases f <;> rfl
  · cases a; rfl

theorem or_get? (s t : State) (key : String) : (s.get? key).or (t.get? key) = s.get? key := by
  cases hs : s.get? key with
  | some value => rfl
  | none =>
    have ht : ¬(t.get? key).isSome = true := by
      rw [t.isSome_get?, ← s.isSome_get?, hs]
      exact Bool.false_ne_true
    rw [Option.none_or, Option.not_isSome_iff_eq_none.mp ht]

theorem isOk_set (s t : State) (key : String) (value : Setting) :
    (s.set key value).isOk = true ↔ (t.set key value).isOk = true := by
  have hset (u v : State) (h : (u.set key value).isOk = true) : (v.set key value).isOk = true := by
    cases hu : u.set key value with
    | error failure =>
      rw [hu] at h
      cases h
    | ok w =>
      rcases set_eq_ok_iff.mp hu with ⟨f, on, hkey, hvalue, -⟩ | ⟨a, n, hkey, hvalue, -⟩
      · rw [set_eq_ok_iff.mpr (.inl ⟨f, on, hkey, hvalue, rfl⟩)]
        rfl
      · rw [set_eq_ok_iff.mpr (.inr ⟨a, n, hkey, hvalue, rfl⟩)]
        rfl
  exact ⟨hset s t, hset t s⟩

end State

namespace Store

variable {store : Store} {x y : Step} {name key k l : String}

section Steps

theorem step_of_ok {s : State} (h : x.result store = .ok s) :
    store.step x = Function.update store x.target s := by
  rw [step, h]

theorem step_of_error {failure : Failure} (h : x.result store = .error failure) :
    store.step x = store := by
  rw [step, h]

theorem step_of_ne (h : x.target ≠ name) : store.step x name = store name := by
  cases hr : x.result store with
  | ok s => rw [step_of_ok hr, Function.update_of_ne h.symm]
  | error failure => rw [step_of_error hr]

theorem mapError_ok {ε δ α : Type} {g : ε → δ} {r : Except ε α} {a : α}
    (h : r.mapError g = .ok a) : r = .ok a := by
  cases r with
  | error e => cases h
  | ok b =>
    cases h
    rfl

theorem get?_result_of_whole {s : State} (hx : x.operation.key? = none)
    (h : x.result store = .ok s) (key : String) :
    s.get? key = x.operation.written? store key := by
  have hsigned {body : Json} {a : Attribute}
      (ha : body.get? a.field = some (.int (s.count a).toInt)) :
      some (s.count a) = (body.get? a.field).bind Json.signed? := by
    rw [ha]
    exact (Json.signed?_toInt _).symm
  obtain ⟨target, operation⟩ := x
  cases operation with
  | reset =>
    cases h
    exact State.get?_baseline key
  | copy source =>
    cases h
    rfl
  | build features attributes =>
    obtain ⟨hflags, hcounts⟩ := State.ofMembers_ok (mapError_ok h)
    rw [State.get?_eq_find?]
    exact Setting.find?_congr (fun f => (hflags f).symm) (fun a => (hcounts a).symm) key
  | decode scope body =>
    rw [State.get?_eq_find?]
    cases scope with
    | cluster =>
      obtain ⟨mask, hmask, -, hflags, hcounts⟩ := State.cluster_reports (mapError_ok h)
      refine Setting.find?_congr (fun f => ?_) (fun a => hsigned (hcounts a)) key
      rw [hmask, hflags]
      rfl
    | node =>
      obtain ⟨hflags, hcounts⟩ := State.node_reports (mapError_ok h)
      refine Setting.find?_congr (fun f => ?_) (fun a => hsigned (hcounts a)) key
      rw [hflags]
      rfl
  | turned source f on =>
    cases h
    exact State.get?_turn _ f on key
  | set _ _ | turn _ _ | setCount _ _ => cases hx

theorem get?_result_of_key {s : State} (hx : x.operation.key? = some k)
    (h : x.result store = .ok s) (key : String) :
    s.get? key = (x.operation.written? store key).or ((store x.target).get? key) := by
  have hif {value : Setting}
      (hs : s.get? key = if key = k then some value else (store x.target).get? key) :
      s.get? key = (if key = k then some value else none).or ((store x.target).get? key) := by
    rw [hs]
    split_ifs <;> rfl
  obtain ⟨target, operation⟩ := x
  cases operation with
  | set k value =>
    cases hx
    exact hif (State.get?_of_set h key)
  | turn f on =>
    cases hx
    cases h
    exact hif (State.get?_turn _ f on key)
  | setCount a value =>
    cases hx
    cases h
    exact hif (State.get?_setCount _ a value key)
  | reset | copy _ | build _ _ | decode _ _ | turned _ _ _ => cases hx

theorem get?_result {s : State} (h : x.result store = .ok s) (key : String) :
    s.get? key = (x.operation.written? store key).or ((store x.target).get? key) := by
  cases hx : x.operation.key? with
  | some k => exact get?_result_of_key hx h key
  | none => rw [← get?_result_of_whole hx h, State.or_get?]

/-- What a step leaves under a key is what it writes there, or else what was there. -/
theorem get?_step (store : Store) (x : Step) (name key : String) :
    (store.step x name).get? key = (x.writes? store name key).or ((store name).get? key) := by
  rw [Step.writes?]
  by_cases hname : x.target = name
  · cases hr : x.result store with
    | ok s =>
      rw [step_of_ok hr, ← hname, Function.update_self, if_pos ⟨rfl, rfl⟩, get?_result hr]
    | error failure =>
      rw [step_of_error hr, if_neg (fun h => Bool.false_ne_true h.2), Option.none_or]
  · rw [step_of_ne hname, if_neg (fun h => hname h.1), Option.none_or]

end Steps

section Runs

theorem run_cons (store : Store) (x : Step) (xs : List Step) :
    store.run (x :: xs) = (store.step x).run xs :=
  rfl

theorem run_append (store : Store) (xs ys : List Step) :
    store.run (xs ++ ys) = (store.run xs).run ys :=
  List.foldl_append

theorem run_of_ne {xs : List Step} (h : ∀ x ∈ xs, x.target ≠ name) (store : Store) :
    store.run xs name = store name := by
  induction xs generalizing store with
  | nil => rfl
  | cons x xs ih =>
    obtain ⟨hx, hxs⟩ := List.forall_mem_cons.mp h
    rw [run_cons, ih hxs, step_of_ne hx]

theorem get?_run_of_untouched {xs : List Step} (h : Untouched name key store xs) :
    (store.run xs name).get? key = (store name).get? key := by
  induction xs generalizing store with
  | nil => rfl
  | cons x xs ih =>
    obtain ⟨hx, hxs⟩ := h
    rw [run_cons, ih hxs, get?_step, hx, Option.none_or]

theorem untouched_or_last_write (name key : String) (store : Store) (xs : List Step) :
    Untouched name key store xs ∨
      ∃ before x after value, xs = before ++ x :: after ∧
        x.writes? (store.run before) name key = some value ∧
        Untouched name key (store.run (before ++ [x])) after := by
  induction xs generalizing store with
  | nil => exact .inl trivial
  | cons x xs ih =>
    rcases ih (store.step x) with hrest | ⟨before, y, after, value, rfl, hwrites, hafter⟩
    · cases hx : x.writes? store name key with
      | none => exact .inl ⟨hx, hrest⟩
      | some value => exact .inr ⟨[], x, xs, value, rfl, hx, hrest⟩
    · exact .inr ⟨x :: before, y, after, value, rfl, hwrites, hafter⟩

theorem get?_run_of_last_write {before after : List Step} {value : Setting}
    (hwrites : x.writes? (store.run before) name key = some value)
    (hafter : Untouched name key (store.run (before ++ [x])) after) :
    (store.run (before ++ x :: after) name).get? key = some value := by
  have hrun : store.run (before ++ x :: after) = (store.run (before ++ [x])).run after := by
    rw [← run_append, List.append_assoc]
    rfl
  have hstep : store.run (before ++ [x]) = (store.run before).step x := by
    rw [run_append]
    rfl
  rw [hrun, get?_run_of_untouched hafter, hstep, get?_step, hwrites, Option.some_or]

theorem run_effective (store : Store) (xs : List Step) :
    store.run (effective store xs) = store.run xs := by
  induction xs generalizing store with
  | nil => rfl
  | cons x xs ih =>
    rw [effective, run_cons]
    cases hr : x.result store with
    | ok s => exact ih (store.step x)
    | error failure =>
      have hstep := step_of_error hr
      rw [hstep]
      exact ih store

end Runs

section Tables

theorem result_eq (store : Store) (x : Step) :
    x.result store = (x.source?.elim State.baseline store).putAll <$> x.operation.entries := by
  have hbody {r : Except BodyError State} {entries : Except BodyError (List Entry)}
      (h : r = State.baseline.putAll <$> entries) :
      r.mapError Failure.body = State.baseline.putAll <$> entries.mapError Failure.body := by
    rw [h]
    cases entries <;> rfl
  obtain ⟨target, operation⟩ := x
  cases operation with
  | reset | copy _ | turn _ _ | turned _ _ _ | setCount _ _ => rfl
  | build features attributes => exact hbody (State.ofMembers_eq features attributes)
  | decode scope body => exact hbody (State.ofBody_eq scope body)
  | set key value =>
    refine ((store target).set_eq key value).trans ?_
    simp only [Operation.entries]
    cases Entry.ofKey key value <;> rfl

theorem tableStep_of_ok {entries : List Entry} (h : x.operation.entries = .ok entries)
    (tables : String → Tables) : tableStep tables x =
      Function.update tables x.target ((x.source?.elim .baseline tables).insertAll entries) := by
  rw [tableStep, h]

theorem tableStep_of_error {failure : Failure} (h : x.operation.entries = .error failure)
    (tables : String → Tables) : tableStep tables x = tables := by
  rw [tableStep, h]

theorem tables_step (store : Store) (x : Step) :
    (fun name => (store.step x name).tables) = tableStep (fun name => (store name).tables) x := by
  have hsource : (x.source?.elim State.baseline store).tables =
      x.source?.elim .baseline fun name => (store name).tables := by
    cases x.source? with
    | none => exact State.tables_baseline
    | some source => rfl
  have hresult := result_eq store x
  cases he : x.operation.entries with
  | error failure =>
    rw [he] at hresult
    rw [step_of_error hresult, tableStep_of_error he]
  | ok entries =>
    rw [he] at hresult
    rw [step_of_ok hresult, tableStep_of_ok he]
    funext name
    by_cases hname : name = x.target
    · rw [hname, Function.update_self, Function.update_self, State.tables_putAll, hsource]
    · rw [Function.update_of_ne hname, Function.update_of_ne hname]

theorem tables_run (store : Store) (steps : List Step) :
    (fun name => (store.run steps name).tables) =
      tableRun (fun name => (store name).tables) steps := by
  induction steps generalizing store with
  | nil => rfl
  | cons x steps ih =>
    rw [run_cons, ih, tables_step]
    rfl

theorem full_tableStep {tables : String → Tables} (h : ∀ name, (tables name).Full) (x : Step)
    (name : String) : (tableStep tables x name).Full := by
  cases he : x.operation.entries with
  | error failure =>
    rw [tableStep_of_error he]
    exact h name
  | ok entries =>
    rw [tableStep_of_ok he]
    by_cases hname : name = x.target
    · rw [hname, Function.update_self]
      cases x.source? with
      | none => exact Tables.full_baseline.insertAll entries
      | some source => exact (h source).insertAll entries
    · rw [Function.update_of_ne hname]
      exact h name

theorem full_tableRun {tables : String → Tables} (h : ∀ name, (tables name).Full)
    (steps : List Step) (name : String) : (tableRun tables steps name).Full := by
  induction steps generalizing tables with
  | nil => exact h name
  | cons x steps ih => exact ih (full_tableStep h x)

end Tables

section Writes

theorem writes?_congr (hx : x.operation.key? = some k) (store store' : Store)
    (name key : String) : x.writes? store name key = x.writes? store' name key := by
  obtain ⟨target, operation⟩ := x
  cases operation with
  | set k value =>
    have hok := State.isOk_set (store target) (store' target) k value
    exact if_congr (and_congr_right fun _ => hok) rfl rfl
  | turn f on => rfl
  | setCount a value => rfl
  | reset | copy _ | build _ _ | decode _ _ | turned _ _ _ => cases hx

theorem eq_of_writes? {value : Setting} (hx : x.operation.key? = some k)
    (h : x.writes? store name key = some value) : x.target = name ∧ k = key := by
  rw [Step.writes?] at h
  split_ifs at h with hcond
  refine ⟨hcond.1, ?_⟩
  obtain ⟨target, operation⟩ := x
  cases operation with
  | set k value | turn f on | setCount a value =>
    cases hx
    simp only [Operation.written?] at h
    split_ifs at h with hkey
    exact hkey.symm
  | reset | copy _ | build _ _ | decode _ _ | turned _ _ _ => cases hx

theorem step_comm (hx : x.operation.key? = some k) (hy : y.operation.key? = some l)
    (hne : (x.target, k) ≠ (y.target, l)) (store : Store) :
    (store.step x).step y = (store.step y).step x := by
  funext name
  refine State.ext_get? fun key => ?_
  rw [get?_step, get?_step, get?_step, get?_step, writes?_congr hy (store.step x) store,
    writes?_congr hx (store.step y) store]
  -- At one key of one name at most one of the two writes.
  cases hwx : x.writes? store name key with
  | none => rfl
  | some value =>
    cases hwy : y.writes? store name key with
    | none => rfl
    | some value' =>
      obtain ⟨hname, hkey⟩ := eq_of_writes? hx hwx
      obtain ⟨hname', hkey'⟩ := eq_of_writes? hy hwy
      exact absurd (by rw [hname, hkey, hname', hkey']) hne

theorem run_perm {xs ys : List Step} (hperm : xs.Perm ys)
    (hkeys : ∀ x ∈ xs, x.operation.key?.isSome = true)
    (hnodup : (xs.map fun x => (x.target, x.operation.key?)).Nodup) (store : Store) :
    store.run xs = store.run ys := by
  refine hperm.foldl_eq' (fun x hx y hy store => ?_) store
  by_cases hxy : x = y
  · rw [hxy]
  · obtain ⟨k, hk⟩ := Option.isSome_iff_exists.mp (hkeys x hx)
    obtain ⟨l, hl⟩ := Option.isSome_iff_exists.mp (hkeys y hy)
    refine step_comm hk hl (fun h => hxy ?_) store
    obtain ⟨htarget, hkey⟩ := Prod.mk.inj h
    exact List.inj_on_of_nodup_map hnodup hx hy (by rw [hk, hl, htarget, hkey])

theorem run_eq_of_effective {steps steps' before after xs ys : List Step}
    (hsteps : effective store steps = before ++ xs ++ after)
    (hsteps' : effective store steps' = before ++ ys ++ after) (hperm : xs.Perm ys)
    (hkeys : ∀ x ∈ xs, x.operation.key?.isSome = true)
    (hnodup : (xs.map fun x => (x.target, x.operation.key?)).Nodup) :
    store.run steps = store.run steps' := by
  calc store.run steps = store.run (before ++ xs ++ after) := by rw [← run_effective, hsteps]
    _ = store.run (before ++ ys ++ after) := by
      rw [run_append, run_append, run_perm hperm hkeys hnodup, ← run_append, ← run_append,
        List.append_assoc]
    _ = store.run steps' := by rw [← hsteps', run_effective]

end Writes

/-- What holds of every run. Each state is whole, and its tables are those of the run over tables,
with one entry for each feature and each attribute; such tables are those of one state. Each key has
what the last operation that writes to it has written, or the setting of the baseline; operations
that are not about one key write the whole state. Operations that fail change no state, and no
operation changes another state than its target's, so that a copy does not change with its source.
Runs whose operations that succeed differ only in the order of writes to different keys end in the
same states, with the same texts. -/
theorem run_lawful :
    (∀ (steps : List Step) (name : String), (fresh.run steps name).Whole) ∧
    (∀ (steps : List Step) (name : String),
      (fresh.run steps name).tables = tableRun (fun _ => .baseline) steps name ∧
        (tableRun (fun _ => .baseline) steps name).Full) ∧
    (∀ tables : Tables, tables.Full ↔ ∃! s : State, s.tables = tables) ∧
    (∀ (steps : List Step) (name key : String),
      (Untouched name key fresh steps ∧ (fresh.run steps name).get? key =
        Setting.find? (fun _ => some false) (fun _ => some 0) key) ∨
      ∃ before x after value, steps = before ++ x :: after ∧
        x.writes? (fresh.run before) name key = some value ∧
        Untouched name key (fresh.run (before ++ [x])) after ∧
        (fresh.run steps name).get? key = some value) ∧
    (∀ {store : Store} {x : Step} {s : State}, x.operation.key? = none → x.result store = .ok s →
      ∀ key, s.get? key = x.operation.written? store key) ∧
    (∀ {store : Store} {x : Step} {failure : Failure},
      x.result store = .error failure → store.step x = store) ∧
    (∀ {store : Store} {x : Step} {name : String},
      x.target ≠ name → store.step x name = store name) ∧
    (∀ {store : Store} {source target : String} {later : List Step},
      (∀ x ∈ later, x.target ≠ target) →
        (store.step ⟨target, .copy source⟩).run later target = store source) ∧
    ∀ {steps steps' before after xs ys : List Step},
      effective fresh steps = before ++ xs ++ after →
      effective fresh steps' = before ++ ys ++ after → xs.Perm ys →
      (∀ x ∈ xs, x.operation.key?.isSome = true) →
      (xs.map fun x => (x.target, x.operation.key?)).Nodup →
      ∀ name, fresh.run steps name = fresh.run steps' name ∧
        (fresh.run steps name).render = (fresh.run steps' name).render := by
  refine ⟨fun steps name => State.whole _, fun steps name => ⟨?_, ?_⟩, fun _ => State.full_iff,
    fun steps name key => ?_, get?_result_of_whole, step_of_error, step_of_ne, fun hlater => ?_,
    fun hsteps hsteps' hperm hkeys hnodup name => ?_⟩
  · have hfresh : (fun name => (fresh name).tables) = fun _ => Tables.baseline :=
      funext fun _ => State.tables_baseline
    rw [← hfresh, ← tables_run]
  · exact full_tableRun (fun _ => Tables.full_baseline) steps name
  · rcases untouched_or_last_write name key fresh steps with
      hnone | ⟨before, x, after, value, rfl, hwrites, hafter⟩
    · exact .inl ⟨hnone, (get?_run_of_untouched hnone).trans (State.get?_baseline key)⟩
    · exact .inr ⟨before, x, after, value, rfl, hwrites, hafter,
        get?_run_of_last_write hwrites hafter⟩
  · rw [run_of_ne hlater, step_of_ok rfl, Function.update_self]
  · rw [run_eq_of_effective hsteps hsteps' hperm hkeys hnodup]
    exact ⟨rfl, rfl⟩

theorem run_lawful_two_writes :
    (∀ key, (⟨true, false, false, true, -2⟩ : State).get? key =
      Operation.written? fresh (.decode .cluster (.obj
        [("currentPerformanceAnalyzerClusterState", .int 57),
          ("shardsPerCollection", .int (-2))])) key) ∧
    fresh.step ⟨"a", .set "nope" (.flag true)⟩ = fresh ∧
    fresh.step ⟨"a", .set "pa" (.flag true)⟩ "b" = fresh "b" ∧
    ((fresh.step ⟨"a", .turn .batch true⟩).step ⟨"b", .copy "a"⟩).run
      [⟨"a", .reset⟩, ⟨"c", .turned "b" .logging true⟩] "b" =
        fresh.step ⟨"a", .turn .batch true⟩ "a" ∧
    fresh.run [⟨"a", .set "pa" (.flag true)⟩, ⟨"a", .set "nope" (.flag true)⟩,
        ⟨"a", .setCount .shardsPerCollection (-5)⟩] "a" =
      fresh.run [⟨"a", .setCount .shardsPerCollection (-5)⟩,
        ⟨"a", .set "pa" (.flag true)⟩] "a" := by
  obtain ⟨-, -, -, -, hwhole, hfailed, hother, hcopy, hperm⟩ := run_lawful
  have heffective : effective fresh [⟨"a", .set "pa" (.flag true)⟩,
      ⟨"a", .set "nope" (.flag true)⟩, ⟨"a", .setCount .shardsPerCollection (-5)⟩] =
      [] ++ [⟨"a", .set "pa" (.flag true)⟩, ⟨"a", .setCount .shardsPerCollection (-5)⟩] ++ [] := rfl
  have heffective' : effective fresh [⟨"a", .setCount .shardsPerCollection (-5)⟩,
      ⟨"a", .set "pa" (.flag true)⟩] =
      [] ++ [⟨"a", .setCount .shardsPerCollection (-5)⟩, ⟨"a", .set "pa" (.flag true)⟩] ++ [] := rfl
  exact ⟨@hwhole fresh ⟨"a", _⟩ _ rfl rfl, hfailed rfl, hother (by decide), hcopy (by decide),
    (hperm heffective heffective' (List.Perm.swap _ _ _) (by decide) (by decide) "a").1⟩

end Store

end AnalyzerAdmin
