import AnalyzerAdmin.Dialogue

/-!
# Runs of dialogues

Dialogues in sequence, what a run adds to a transcript, and dialogues that ask nothing. A run only
ever adds exchanges at the end, so those that a dialogue makes (`made`) are a list of its own, and
in sequence these lists are appended (`made_seq`).
-/

namespace AnalyzerAdmin.Dialogue

variable {Query Answer ε α β : Type}

theorem bind_done (d : Dialogue Query Answer α) : d.bind done = d := by
  induction d with
  | done a => rfl
  | ask q next ih => exact congrArg (ask q) (funext ih)
  | pause time next ih => exact congrArg (pause time) ih
  | readClock next ih => exact congrArg readClock (funext ih)
  | tell e next ih => exact congrArg (tell e) ih

theorem bind_bind {γ : Type} (d : Dialogue Query Answer α) (f : α → Dialogue Query Answer β)
    (g : β → Dialogue Query Answer γ) : (d.bind f).bind g = d.bind fun a => (f a).bind g := by
  induction d with
  | done a => rfl
  | ask q next ih => exact congrArg (ask q) (funext ih)
  | pause time next ih => exact congrArg (pause time) ih
  | readClock next ih => exact congrArg readClock (funext ih)
  | tell e next ih => exact congrArg (tell e) ih

instance : LawfulMonad (Dialogue Query Answer) :=
  LawfulMonad.mk' _ bind_done (fun _ _ => rfl) bind_bind

section Run

variable (peer : Peer Query Answer)

@[simp] theorem run_pure (a : α) (t : Transcript Query Answer) :
    run peer (pure a : Dialogue Query Answer α) t = (a, t) := rfl

@[simp] theorem run_seq (d : Dialogue Query Answer α) (f : α → Dialogue Query Answer β)
    (t : Transcript Query Answer) :
    run peer (d >>= f) t = run peer (f (run peer d t).1) (run peer d t).2 :=
  run_bind peer d f t

@[simp] theorem run_map (g : α → β) (d : Dialogue Query Answer α) (t : Transcript Query Answer) :
    run peer (g <$> d) t = (g (run peer d t).1, (run peer d t).2) := by
  rw [map_eq_pure_bind, run_seq, run_pure]

theorem run_seq_ok {d : ExceptT ε (Dialogue Query Answer) α} {a : α}
    {t t₁ : Transcript Query Answer} (f : α → ExceptT ε (Dialogue Query Answer) β)
    (h : run peer d.run t = (.ok a, t₁)) : run peer (d >>= f).run t = run peer (f a).run t₁ := by
  rw [ExceptT.run_bind, run_seq, h]

theorem run_seq_error {d : ExceptT ε (Dialogue Query Answer) α} {e : ε}
    {t t₁ : Transcript Query Answer} (f : α → ExceptT ε (Dialogue Query Answer) β)
    (h : run peer d.run t = (.error e, t₁)) : run peer (d >>= f).run t = (.error e, t₁) := by
  rw [ExceptT.run_bind, run_seq, h]
  rfl

def made (d : Dialogue Query Answer α) (t : Transcript Query Answer) :
    List (Exchange Query Answer) :=
  (run peer d t).2.exchanges.drop t.exchanges.length

theorem exists_exchanges_run (d : Dialogue Query Answer α) (t : Transcript Query Answer) :
    t.clock ≤ (run peer d t).2.clock ∧
      ∃ xs, (run peer d t).2.exchanges = t.exchanges ++ xs ∧
        ∀ x ∈ xs, t.clock ≤ x.time ∧ x.time ≤ (run peer d t).2.clock := by
  induction d generalizing t with
  | done a => exact ⟨Nat.le_refl _, [], (List.append_nil _).symm, fun x hx => by cases hx⟩
  | ask q next ih =>
    obtain ⟨hle, xs, hxs, htimes⟩ := ih (peer t.exchanges q)
      { t with exchanges := t.exchanges ++ [⟨q, peer t.exchanges q, t.clock⟩] }
    refine ⟨hle, _ :: xs, hxs.trans (List.append_assoc _ _ _), fun x hx => ?_⟩
    cases hx with
    | head => exact ⟨Nat.le_refl _, hle⟩
    | tail _ hx => exact htimes x hx
  | pause time next ih =>
    obtain ⟨hle, xs, hxs, htimes⟩ := ih { t with clock := t.clock + time }
    have hlater := Nat.le_add_right t.clock time
    refine ⟨Nat.le_trans hlater hle, xs, hxs, fun x hx => ?_⟩
    exact ⟨Nat.le_trans hlater (htimes x hx).1, (htimes x hx).2⟩
  | readClock next ih => exact ih t.clock t
  | tell e next ih => exact ih { t with events := t.events ++ [e] }

theorem exchanges_run (d : Dialogue Query Answer α) (t : Transcript Query Answer) :
    (run peer d t).2.exchanges = t.exchanges ++ made peer d t := by
  obtain ⟨-, xs, h, -⟩ := exists_exchanges_run peer d t
  rw [made, h, List.drop_left]

theorem time_of_mem_made {d : Dialogue Query Answer α} {t : Transcript Query Answer}
    {x : Exchange Query Answer} (hx : x ∈ made peer d t) :
    t.clock ≤ x.time ∧ x.time ≤ (run peer d t).2.clock := by
  obtain ⟨-, xs, h, htimes⟩ := exists_exchanges_run peer d t
  rw [made, h, List.drop_left] at hx
  exact htimes x hx

theorem made_eq_of_exchanges {d : Dialogue Query Answer α} {t : Transcript Query Answer}
    {xs : List (Exchange Query Answer)} (h : (run peer d t).2.exchanges = t.exchanges ++ xs) :
    made peer d t = xs :=
  List.append_cancel_left ((exchanges_run peer d t).symm.trans h)

theorem made_seq (d : Dialogue Query Answer α) (f : α → Dialogue Query Answer β)
    (t : Transcript Query Answer) :
    made peer (d >>= f) t =
      made peer d t ++ made peer (f (run peer d t).1) (run peer d t).2 := by
  apply made_eq_of_exchanges
  rw [run_seq, exchanges_run, exchanges_run peer d t, List.append_assoc]

theorem made_map (g : α → β) (d : Dialogue Query Answer α) (t : Transcript Query Answer) :
    made peer (g <$> d) t = made peer d t := by
  simp only [made, run_map]

theorem made_log (level : Log.Level) (message : String) (values : List (String × String))
    (t : Transcript Query Answer) : made peer (log level message values) t = [] :=
  List.drop_length

theorem made_rest (time : Nat) (t : Transcript Query Answer) : made peer (rest time) t = [] :=
  List.drop_length

theorem made_now (t : Transcript Query Answer) : made peer now t = [] :=
  List.drop_length

theorem made_seq_ok {d : ExceptT ε (Dialogue Query Answer) α} {a : α}
    {t t₁ : Transcript Query Answer} (f : α → ExceptT ε (Dialogue Query Answer) β)
    (h : run peer d.run t = (.ok a, t₁)) :
    made peer (d >>= f).run t = made peer d.run t ++ made peer (f a).run t₁ := by
  rw [ExceptT.run_bind, made_seq, h]

theorem made_seq_error {d : ExceptT ε (Dialogue Query Answer) α} {e : ε}
    {t t₁ : Transcript Query Answer} (f : α → ExceptT ε (Dialogue Query Answer) β)
    (h : run peer d.run t = (.error e, t₁)) : made peer (d >>= f).run t = made peer d.run t := by
  apply made_eq_of_exchanges
  rw [run_seq_error peer f h, ← exchanges_run, h]

end Run

/-- Nothing is asked, no time passes, and the result is always the same; which failure it is, if
it is one, is left open. -/
structure Gives (d : ExceptT ε (Dialogue Query Answer) α) (o : Option α) : Prop where
  result : ∀ peer t, (run peer d.run t).1.toOption = o
  exchanges : ∀ peer t, (run peer d.run t).2.exchanges = t.exchanges
  clock : ∀ peer t, (run peer d.run t).2.clock = t.clock

namespace Gives

variable {d : ExceptT ε (Dialogue Query Answer) α}

theorem pure (a : α) : Gives (pure a : ExceptT ε (Dialogue Query Answer) α) (some a) :=
  ⟨fun _ _ => rfl, fun _ _ => rfl, fun _ _ => rfl⟩

theorem throw (e : ε) : Gives (throw e : ExceptT ε (Dialogue Query Answer) α) none :=
  ⟨fun _ _ => rfl, fun _ _ => rfl, fun _ _ => rfl⟩

theorem tell (e : Event) :
    Gives (ExceptT.lift (Dialogue.tell e (done ())) : ExceptT ε (Dialogue Query Answer) Unit)
      (some ()) :=
  ⟨fun _ _ => rfl, fun _ _ => rfl, fun _ _ => rfl⟩

theorem made_eq_nil {o : Option α} (h : Gives d o) (peer : Peer Query Answer)
    (t : Transcript Query Answer) : made peer d.run t = [] :=
  made_eq_of_exchanges peer ((h.exchanges peer t).trans (List.append_nil _).symm)

theorem seq {o : Option α} {f : α → ExceptT ε (Dialogue Query Answer) β} {g : α → Option β}
    (h : Gives d o) (hf : ∀ a, Gives (f a) (g a)) : Gives (d >>= f) (o.bind g) where
  result peer t := by
    have ho := h.result peer t
    rcases hr : run peer d.run t with ⟨r, t₁⟩
    rw [hr] at ho
    subst ho
    cases r with
    | error e => rw [run_seq_error peer f hr]; rfl
    | ok a => rw [run_seq_ok peer f hr, (hf a).result]; rfl
  exchanges peer t := by
    have hx := h.exchanges peer t
    rcases hr : run peer d.run t with ⟨r, t₁⟩
    rw [hr] at hx
    cases r with
    | error e => rw [run_seq_error peer f hr, hx]
    | ok a => rw [run_seq_ok peer f hr, (hf a).exchanges, hx]
  clock peer t := by
    have hc := h.clock peer t
    rcases hr : run peer d.run t with ⟨r, t₁⟩
    rw [hr] at hc
    cases r with
    | error e => rw [run_seq_error peer f hr, hc]
    | ok a => rw [run_seq_ok peer f hr, (hf a).clock, hc]

end Gives

end AnalyzerAdmin.Dialogue
