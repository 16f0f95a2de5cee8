import AnalyzerAdmin.Proofs.Endpoints

/-!
# Plans

A plan is a list of legs: the endpoint that is asked, and which replies let the plan go on.
`Follows` says how exchanges with an address go along a plan: each leg in turn, up to the end of the
plan or to the first leg that cannot be asked or does not pass. A session keeps a plan if its
exchanges follow it and the session succeeds exactly at the plan's end; sessions in sequence keep
their plans in sequence.
-/

namespace AnalyzerAdmin

open Dialogue

structure Leg where
  endpoint : Endpoint
  passes : Reply → Bool

/-- Exchanges along a plan. The flag tells whether the plan was carried out to its end. -/
inductive Follows (a : Address) : List Leg → List (Exchange Request Reply) → Bool → Prop
  | finished : Follows a [] [] true
  | unmade {leg : Leg} {legs : List Leg} {fault : HttpError} :
      leg.endpoint.request a = .error fault → Follows a (leg :: legs) [] false
  | stopped {leg : Leg} {legs : List Leg} {x : Exchange Request Reply} :
      leg.endpoint.request a = .ok x.query → leg.passes x.answer = false →
      Follows a (leg :: legs) [x] false
  | onward {leg : Leg} {legs : List Leg} {x : Exchange Request Reply}
      {xs : List (Exchange Request Reply)} {isDone : Bool} :
      leg.endpoint.request a = .ok x.query → leg.passes x.answer = true →
      Follows a legs xs isDone →
      Follows a (leg :: legs) (x :: xs) isDone

namespace Follows

variable {a : Address} {legs legs' : List Leg} {xs ys : List (Exchange Request Reply)}
  {isDone : Bool}

theorem append (h : Follows a legs xs true) (h' : Follows a legs' ys isDone) :
    Follows a (legs ++ legs') (xs ++ ys) isDone := by
  generalize hb : true = b at h
  induction h with
  | finished => exact h'
  | unmade _ => cases hb
  | stopped _ _ => cases hb
  | onward hq hp _ ih => exact .onward hq hp (ih hb)

theorem append_of_false (h : Follows a legs xs false) (legs' : List Leg) :
    Follows a (legs ++ legs') xs false := by
  generalize hb : false = b at h
  induction h with
  | finished => cases hb
  | unmade hq => exact .unmade hq
  | stopped hq hp => exact .stopped hq hp
  | onward hq hp _ ih => exact .onward hq hp (ih hb)

theorem map_prefix {α : Type} {f : Exchange Request Reply → α} {g : Endpoint → α}
    (h : Follows a legs xs isDone)
    (hfg : ∀ (e : Endpoint) (x : Exchange Request Reply), e.request a = .ok x.query → f x = g e) :
    xs.map f <+: legs.map fun leg => g leg.endpoint := by
  induction h with
  | finished => exact List.prefix_refl _
  | unmade _ => exact List.nil_prefix
  | stopped hq _ =>
    rw [List.map_cons, List.map_cons, hfg _ _ hq]
    exact List.cons_prefix_cons.mpr ⟨rfl, List.nil_prefix⟩
  | onward hq _ _ ih =>
    rw [List.map_cons, List.map_cons, hfg _ _ hq]
    exact List.cons_prefix_cons.mpr ⟨rfl, ih⟩

theorem queries_initial (h : Follows a legs xs isDone) :
    xs.map (fun x => Except.ok x.query) <+: legs.map fun leg => leg.endpoint.request a :=
  h.map_prefix fun _ _ hq => hq.symm

theorem lines_initial {front : UInt16 → String} (h : Follows a legs xs isDone)
    (hfront : a.Fronts front) :
    xs.map (fun x => x.query.line) <+:
      legs.map fun leg => leg.endpoint.line (front (leg.endpoint.port a)) :=
  h.map_prefix fun _ _ hq => hfront.line hq

theorem length_le (h : Follows a legs xs isDone) : xs.length ≤ legs.length := by
  simpa using h.queries_initial.length_le

theorem length_eq_of_true (h : Follows a legs xs true) : xs.length = legs.length := by
  generalize hb : true = b at h
  induction h with
  | finished => rfl
  | unmade _ => cases hb
  | stopped _ _ => cases hb
  | onward _ _ _ ih => exact congrArg Nat.succ (ih hb)

theorem last_of_not_passes (h : Follows a legs xs isDone) {i : Nat} {leg : Leg}
    {x : Exchange Request Reply} (hl : legs[i]? = some leg) (hx : xs[i]? = some x)
    (hp : leg.passes x.answer = false) : xs.length = i + 1 ∧ isDone = false := by
  induction h generalizing i with
  | finished => simp at hx
  | unmade _ => simp at hx
  | stopped _ _ =>
    cases i with
    | zero => exact ⟨rfl, rfl⟩
    | succ i => simp at hx
  | onward _ hp' _ ih =>
    cases i with
    | zero =>
      obtain ⟨rfl, rfl⟩ : _ = leg ∧ _ = x := ⟨by simpa using hl, by simpa using hx⟩
      rw [hp] at hp'
      cases hp'
    | succ i =>
      obtain ⟨hn, hd⟩ := ih (by simpa using hl) (by simpa using hx)
      exact ⟨congrArg Nat.succ hn, hd⟩

end Follows

theorem Session.Single.follows {α : Type} {server : Server} {a : Address} {e : Endpoint}
    {value : Reply → Option α} {s : Session α} (h : s.Single server (e.errand a) value)
    (isGood : α → Bool) (t : Transcript Request Reply) :
    Follows a [⟨e, fun reply => (value reply).any isGood⟩] (made server s.run t)
      ((s.run.run server t).1.toOption.any isGood) := by
  cases he : e.request a with
  | error fault =>
    obtain ⟨hm, hr⟩ := h.unmade he t
    rw [hm, hr]
    exact .unmade he
  | ok q =>
    obtain ⟨hm, hr⟩ := h.asked he t
    rw [hm, hr]
    cases hv : (value (server t.exchanges q)).any isGood with
    | false => exact .stopped he hv
    | true => exact .onward he hv .finished

/-- The exchanges of a session follow a plan, and the session succeeds exactly at its end. -/
def Keeps {ε α : Type} (a : Address) (server : Server) (s : ExceptT ε (Dialogue Request Reply) α)
    (t : Transcript Request Reply) (legs : List Leg) : Prop :=
  Follows a legs (made server s.run t) (s.run.run server t).1.isOk

namespace Keeps

variable {ε α β : Type} {address : Address} {server : Server} {t : Transcript Request Reply}

theorem of_gives {s : ExceptT ε (Dialogue Request Reply) α} {a : α} (h : Gives s (some a)) :
    Keeps address server s t [] := by
  rw [Keeps, h.made_eq_nil]
  have hr := h.result server t
  cases hs : (s.run.run server t).1 with
  | error e => simp [hs, Except.toOption] at hr
  | ok b => exact .finished

theorem of_single {e : Endpoint} {value : Reply → Option α} {s : Session α}
    (h : s.Single server (e.errand address) value) {passes : Reply → Bool}
    (hp : ∀ reply, passes reply = (value reply).isSome) :
    Keeps address server s t [⟨e, passes⟩] := by
  have hf := h.follows (fun _ => true) t
  have hleg : (fun reply => (value reply).any fun _ => true) = passes := by
    funext reply
    rw [hp, Option.any_true]
  rw [hleg] at hf
  rw [Keeps]
  cases hr : (s.run.run server t).1 <;>
    · rw [hr] at hf
      exact hf

theorem seq {s : ExceptT ε (Dialogue Request Reply) α}
    {f : α → ExceptT ε (Dialogue Request Reply) β} {legs legs' : List Leg}
    (h : Keeps address server s t legs)
    (hf : ∀ a t₁, s.run.run server t = (.ok a, t₁) → Keeps address server (f a) t₁ legs') :
    Keeps address server (s >>= f) t (legs ++ legs') := by
  rw [Keeps] at h ⊢
  rcases hr : s.run.run server t with ⟨r, t₁⟩
  rw [hr] at h
  cases r with
  | error e =>
    rw [made_seq_error server f hr, run_seq_error server f hr]
    exact h.append_of_false legs'
  | ok a =>
    rw [made_seq_ok server f hr, run_seq_ok server f hr]
    exact h.append (hf a t₁ hr)

theorem seq_quiet {s : ExceptT ε (Dialogue Request Reply) α}
    {f : α → ExceptT ε (Dialogue Request Reply) β} {legs : List Leg}
    (h : Keeps address server s t legs)
    (hf : ∀ a, ∃ b, Gives (f a) (some b)) : Keeps address server (s >>= f) t legs := by
  rw [← List.append_nil legs]
  refine h.seq fun a t₁ _ => ?_
  obtain ⟨b, hb⟩ := hf a
  exact of_gives hb

theorem behind {s : ExceptT ε (Dialogue Request Reply) α} {a : α}
    {f : α → ExceptT ε (Dialogue Request Reply) β} {legs : List Leg} (h : Gives s (some a))
    (hf : ∀ a t₁, Keeps address server (f a) t₁ legs) : Keeps address server (s >>= f) t legs :=
  (of_gives h).seq fun a t₁ _ => hf a t₁

theorem exists_behind {s : ExceptT ε (Dialogue Request Reply) α}
    {f : α → ExceptT ε (Dialogue Request Reply) β} {legs : List Leg} {IsPlan : List Leg → Prop}
    (h : Keeps address server s t legs)
    (hf : ∀ t₁, ∃ legs', IsPlan legs' ∧ ∀ a, Keeps address server (f a) t₁ legs') :
    ∃ legs', IsPlan legs' ∧ Keeps address server (s >>= f) t (legs ++ legs') := by
  obtain ⟨legs', hplan, hk⟩ := hf (s.run.run server t).2
  refine ⟨legs', hplan, h.seq fun a t₁ hr => ?_⟩
  rw [hr] at hk
  exact hk a

end Keeps

end AnalyzerAdmin
