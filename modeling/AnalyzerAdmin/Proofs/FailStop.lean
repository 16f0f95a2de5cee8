import AnalyzerAdmin.Proofs.CommandPlan

/-!
# Runs stop at the first failure

Where the arguments come to a command that can be carried out, a run goes along one of the plans of
that command up to the first leg that fails, and it exits with zero exactly if it came to the end.
All other runs make no request.
-/

namespace AnalyzerAdmin

open Dialogue CommandLine

/-- A run along a plan. A fragment of an address would swallow every path, so what a peer sees is
told for addresses without one. -/
structure Program.Pursues (a : Address) (legs : List Leg) (o : Program.Outcome) : Prop where
  follows : Follows a legs o.exchanges (o.exit == 0)
  initial : o.exchanges.map (fun x => Except.ok x.query) <+:
    legs.map fun leg => leg.endpoint.request a
  asks : '#' ∉ a.scheme.toList → '#' ∉ a.hostname.toList → ∃ front : UInt16 → String,
    (a.IsBare → ∀ port, front port = "") ∧
      o.exchanges.map (fun x => x.query.line) <+:
        legs.map fun leg => leg.endpoint.line (front (leg.endpoint.port a))
  stops : ∀ {i : Nat} {leg : Leg} {x : Exchange Request Reply}, legs[i]? = some leg →
    o.exchanges[i]? = some x → leg.passes x.answer = false →
    o.exchanges.length = i + 1 ∧ o.exit = 1
  complete : o.exit = 0 → o.exchanges.length = legs.length
  exit_le : o.exit ≤ 1

namespace Program

theorem Pursues.of_follows {a : Address} {legs : List Leg} {o : Outcome}
    (h : Follows a legs o.exchanges (o.exit == 0)) (hexit : o.exit ≤ 1) : Pursues a legs o where
  follows := h
  initial := h.queries_initial
  asks hscheme hhostname := by
    obtain ⟨front, hfront⟩ := Address.exists_fronts hscheme hhostname
    exact ⟨front, hfront.bare, h.lines_initial hfront⟩
  stops hl hx hp := by
    obtain ⟨hn, hd⟩ := h.last_of_not_passes hl hx hp
    have hne : o.exit ≠ 0 := by simpa using hd
    exact ⟨hn, by omega⟩
  complete h0 := by
    rw [h0] at h
    exact h.length_eq_of_true
  exit_le := hexit

/-- What a run comes to, by what its arguments are. Only the last way makes requests. -/
inductive Course (now : Int) (o : Outcome) : Except Stop Invocation → Prop
  | refused {stop : Stop} :
      o.exchanges = [] → o.exit = (if stop = .help ∨ stop = .version then 0 else 2) →
      Course now o (.error stop)
  | idle {invocation : Invocation} :
      invocation.command = none → o.exchanges = [] → o.exit = 0 → Course now o (.ok invocation)
  | unsettled {invocation : Invocation} {command : Command} {fault : UsageFault} :
      invocation.command = some command → invocation.settings.settling = .error fault →
      o.exchanges = [] → o.exit = 1 → Course now o (.ok invocation)
  | misused {invocation : Invocation} {settling : Settling} {tokens : List BatchToken}
      {fault : UsageFault} :
      invocation.command = some (.getBatch tokens) → invocation.settings.settling = .ok settling →
      batchOptions tokens = .error fault → o.exchanges = [] → o.exit = 1 →
      Course now o (.ok invocation)
  | planned {invocation : Invocation} {command : Command} {settling : Settling} {legs : List Leg} :
      invocation.command = some command → invocation.settings.settling = .ok settling →
      Plan invocation.settings.topology settling now command legs →
      Pursues invocation.settings.address legs o → Course now o (.ok invocation)

theorem run_of_read {args : List String} {invocation : Invocation}
    (h : Invocation.read args = .ok invocation) (filter : Log.Filter) (now : Int)
    (server : Server) :
    run args filter now server =
      .ofTranscript filter (Dialogue.run server (action invocation now).run {}).1
        (Dialogue.run server (action invocation now).run {}).2 := by
  rw [run, h]

theorem ofTranscript_exchanges (filter : Log.Filter) (r : Except Abort Unit)
    (t : Transcript Request Reply) : (Outcome.ofTranscript filter r t).exchanges = t.exchanges := by
  cases r <;> rfl

theorem ofTranscript_exit (filter : Log.Filter) (r : Except Abort Unit)
    (t : Transcript Request Reply) :
    (Outcome.ofTranscript filter r t).exit = if r.isOk then 0 else 1 := by
  cases r <;> rfl

theorem quiet_run {args : List String} {invocation : Invocation} {now : Int} {o : Option Unit}
    (hread : Invocation.read args = .ok invocation) (h : Gives (action invocation now) o)
    (filter : Log.Filter) (server : Server) :
    (run args filter now server).exchanges = [] ∧
      (run args filter now server).exit = if o.isSome then 0 else 1 := by
  rw [run_of_read hread, ofTranscript_exchanges, ofTranscript_exit, h.exchanges]
  refine ⟨rfl, ?_⟩
  have hr := h.result server {}
  cases hs : (Dialogue.run server (action invocation now).run {}).1 <;>
    · rw [hs] at hr
      subst hr
      rfl

theorem pursues_run {args : List String} {invocation : Invocation} {now : Int} {server : Server}
    {a : Address} {legs : List Leg} (hread : Invocation.read args = .ok invocation)
    (h : Keeps a server (action invocation now) {} legs) (filter : Log.Filter) :
    Pursues a legs (run args filter now server) := by
  have hmade := exchanges_run server (action invocation now).run {}
  rw [List.nil_append] at hmade
  rw [Keeps, ← hmade] at h
  rw [run_of_read hread]
  cases hr : (Dialogue.run server (action invocation now).run {}).1 with
  | error abort =>
    rw [hr] at h
    exact .of_follows h (Nat.le_refl 1)
  | ok value =>
    rw [hr] at h
    exact .of_follows h (Nat.zero_le 1)

theorem action_of_none {invocation : Invocation} (hcommand : invocation.command = none)
    (now : Int) : action invocation now = pure () := by
  rw [action, hcommand]

theorem action_of_fault {invocation : Invocation} {command : Command} {fault : UsageFault}
    (hcommand : invocation.command = some command)
    (hsettling : invocation.settings.settling = .error fault) (now : Int) :
    action invocation now = throw (.usage fault) := by
  simp only [action, hcommand, hsettling]

theorem exists_entry_action_eq {invocation : Invocation} {command : Command} {settling : Settling}
    (hcommand : invocation.command = some command)
    (hsettling : invocation.settings.settling = .ok settling) (now : Int) :
    ∃ entry : Log.Entry, action invocation now = (do
      ExceptT.lift (Dialogue.tell (.entry entry) (done ()))
      perform ⟨invocation.settings.address, invocation.settings.topology⟩ settling now
        command) := by
  simp only [action, hcommand, hsettling]
  exact ⟨_, rfl⟩

/-- Every run takes its course: no request unless the arguments come to a command that can be
carried out, and then requests along a plan of that command, up to the first failure. -/
theorem run_course (args : List String) (filter : Log.Filter) (now : Int) (server : Server) :
    Course now (run args filter now server) (Invocation.read args) := by
  cases hread : Invocation.read args with
  | error stop =>
    rw [run, hread]
    cases stop <;> exact .refused rfl rfl
  | ok invocation =>
    cases hcommand : invocation.command with
    | none =>
      have hgives : Gives (action invocation now) (some ()) :=
        action_of_none hcommand now ▸ Gives.pure ()
      obtain ⟨hx, he⟩ := quiet_run hread hgives filter server
      exact .idle hcommand hx he
    | some command =>
      cases hsettling : invocation.settings.settling with
      | error fault =>
        have hgives : Gives (action invocation now) none :=
          action_of_fault hcommand hsettling now ▸ Gives.throw _
        obtain ⟨hx, he⟩ := quiet_run hread hgives filter server
        exact .unsettled hcommand hsettling hx he
      | ok settling =>
        have hrests := Settings.rests_of_settling hsettling
        obtain ⟨entry, haction⟩ := exists_entry_action_eq hcommand hsettling now
        -- Tokens are looked at behind the settings, and only by the command that takes them.
        by_cases hoptions : ∃ tokens fault,
            command = .getBatch tokens ∧ batchOptions tokens = .error fault
        · obtain ⟨tokens, fault, rfl, ho⟩ := hoptions
          have hgives : Gives (action invocation now) none := by
            rw [haction]
            simp only [perform, ho]
            exact (Gives.tell _).seq fun _ => Gives.throw _
          obtain ⟨hx, he⟩ := quiet_run hread hgives filter server
          exact .misused hcommand hsettling ho hx he
        · have hlog : Keeps invocation.settings.address server
              (ExceptT.lift (Dialogue.tell (.entry entry) (done ())) : Action Unit) {} [] :=
            .of_gives (.tell _)
          obtain ⟨legs, hplan, hk⟩ := hlog.exists_behind fun t₁ => by
            obtain ⟨legs, hplan, hk⟩ := keeps_perform server
              ⟨invocation.settings.address, invocation.settings.topology⟩ hrests now hoptions t₁
            exact ⟨legs, hplan, fun _ => hk⟩
          exact .planned hcommand hsettling hplan (pursues_run hread (haction ▸ hk) filter)

end Program

end AnalyzerAdmin
