import AnalyzerAdmin.Proofs.Layout
import AnalyzerAdmin.Proofs.PolledRun
import Mathlib.Data.List.Forall2

/-!
# What a run has printed

Sessions print nothing, so a run prints only between them. A command that changes the cluster or
fetches metrics prints behind its last request; `get_state` prints the cluster's state before it
asks the node, and `verify` the description before it checks it. So a run that fails has printed
nothing, or what was complete before the failure (`failed_run_prints`).
-/

namespace AnalyzerAdmin

open Dialogue CommandLine

theorem Event.output_append_line (events : List Event) (text : String) :
    Event.output (events ++ [.line text]) = Event.output events ++ [text] := by
  simp only [Event.output, List.filterMap_append, List.filterMap_cons, List.filterMap_nil]

def Transcript.printed {Query Answer : Type} (t : Transcript Query Answer) (text : String) :
    Transcript Query Answer :=
  { t with events := t.events ++ [.line text] }

theorem Transcript.output_printed {Query Answer : Type} (t : Transcript Query Answer)
    (text : String) : Event.output (t.printed text).events = Event.output t.events ++ [text] :=
  Event.output_append_line t.events text

theorem Follows.eq_true {a : Address} {legs : List Leg} {xs ys : List (Exchange Request Reply)}
    {isDone : Bool} (h : Follows a legs (xs ++ ys) isDone)
    (hpass : List.Forall₂ (fun leg x => leg.passes x.answer = true) legs xs) : isDone = true := by
  induction hpass with
  | nil =>
    rw [List.nil_append] at h
    cases h
    rfl
  | @cons leg x legs xs hp _ ih =>
    rw [List.cons_append] at h
    -- No case of the relation is about an append.
    generalize xs ++ ys = zs at h ih
    cases h with
    | stopped _ hfail =>
      rw [hp] at hfail
      cases hfail
    | onward _ _ hrest => exact ih hrest

def Errand.Obtains {α : Type} (e : Errand) (value : Reply → Option α)
    (x : Exchange Request Reply) (a : α) : Prop :=
  e.request = .ok x.query ∧ value x.answer = some a

theorem Session.Single.obtains {α : Type} {server : Server} {e : Errand} {value : Reply → Option α}
    {s : Session α} (h : s.Single server e value) {t t₁ : Transcript Request Reply} {a : α}
    (hr : s.run.run server t = (.ok a, t₁)) :
    ∃ x, t₁.exchanges = t.exchanges ++ [x] ∧ e.Obtains value x a := by
  have hexchanges := exchanges_run server s.run t
  rw [hr] at hexchanges
  cases hq : e.request with
  | error fault =>
    have hnone := (h.unmade hq t).2
    rw [hr] at hnone
    cases hnone
  | ok q =>
    obtain ⟨hmade, hvalue⟩ := h.asked hq t
    rw [hmade] at hexchanges
    rw [hr] at hvalue
    exact ⟨_, hexchanges, hq, hvalue.symm⟩

namespace Client

variable (c : Client)

/-- Reads of the root information, the nodes and the plugins, and the text of all three. -/
def Describes (reads : List (Exchange Request Reply)) (text : String) : Prop :=
  ∃ x y z root nodes plugins, reads = [x, y, z] ∧ (c.asking .root).Obtains Reply.json? x root ∧
    (c.asking .nodes).Obtains Reply.text? y nodes ∧
    (c.asking .plugins).Obtains Reply.text? z plugins ∧
    text = root.pretty ++ "\n\n" ++ nodes ++ "\n" ++ plugins

def checks : List Leg :=
  [.json .root c.topology.fits, .text .nodes (Listing.nodes.showsAll c.topology.nodes),
    .text .plugins (Listing.plugins.showsAll c.topology.nodes)]

variable {c} {server : Server}

theorem describes_of_run {t t₁ : Transcript Request Reply} {text : String}
    (hr : c.describe.run.run server t = (.ok text, t₁)) :
    ∃ reads, t₁.exchanges = t.exchanges ++ reads ∧ c.Describes reads text := by
  have hroot : Session.Single server (c.asking .root) Reply.json?
      (Session.getJson (c.address.url "/")) := Session.single_getJson server _
  have hnodes : Session.Single server (c.asking .nodes) Reply.text?
      (Session.getText (c.address.url nodesPath)) := c.single_getText server .nodes
  have hplugins : Session.Single server (c.asking .plugins) Reply.text?
      (Session.getText (c.address.url pluginsPath)) := c.single_getText server .plugins
  rw [describe] at hr
  rcases hr₁ : (Session.getJson (c.address.url "/")).run.run server t with ⟨failure | root, t₂⟩
  · rw [run_seq_error server _ hr₁] at hr
    cases hr
  rw [run_seq_ok server _ hr₁] at hr
  rcases hr₂ : (Session.getText (c.address.url nodesPath)).run.run server t₂ with
    ⟨failure | nodes, t₃⟩
  · rw [run_seq_error server _ hr₂] at hr
    cases hr
  rw [run_seq_ok server _ hr₂] at hr
  rcases hr₃ : (Session.getText (c.address.url pluginsPath)).run.run server t₃ with
    ⟨failure | plugins, t₄⟩
  · rw [run_seq_error server _ hr₃] at hr
    cases hr
  rw [run_seq_ok server _ hr₃] at hr
  cases hr
  obtain ⟨x, hx, hobtains⟩ := hroot.obtains hr₁
  obtain ⟨y, hy, hobtains₂⟩ := hnodes.obtains hr₂
  obtain ⟨z, hz, hobtains₃⟩ := hplugins.obtains hr₃
  refine ⟨[x, y, z], ?_, x, y, z, root, nodes, plugins, rfl, hobtains, hobtains₂, hobtains₃, rfl⟩
  rw [hz, hy, hx]
  simp only [List.append_assoc, List.cons_append, List.nil_append]

theorem not_describes_of_run {t t₁ : Transcript Request Reply} {failure : Failure}
    {reads : List (Exchange Request Reply)}
    (hr : c.describe.run.run server t = (.error failure, t₁))
    (hreads : t₁.exchanges = t.exchanges ++ reads) :
    ¬∃ first rest text, reads = first ++ rest ∧ c.Describes first text := by
  rintro ⟨first, rest, text, rfl, x, y, z, root, nodes, plugins, rfl, hroot, hnodes, hplugins, -⟩
  have hmade : made server c.describe.run t = [x, y, z] ++ rest :=
    made_eq_of_exchanges server (by rw [hr, hreads])
  have hfollows := c.keeps_describe server t
  rw [Keeps, hmade, hr] at hfollows
  -- Three reads that pass are all that a description asks for, so it would have succeeded.
  have hdone := hfollows.eq_true (.cons ?_ (.cons ?_ (.cons ?_ .nil)))
  · cases hdone
  · simp only [Leg.json, hroot.2, Option.any_some]
  · simp only [Leg.text, hnodes.2, Option.any_some]
  · simp only [Leg.text, hplugins.2, Option.any_some]

theorem silent_describe (c : Client) : Silent server c.describe :=
  (Silent.getJson _).seq fun _ => (Silent.getText _).seq fun _ => (Silent.getText _).seq fun _ =>
    Silent.pure _

theorem silent_refuse {α : Type} (check : Mismatch) : Silent server (refuse check : Session α) :=
  (Silent.log _ _ _).seq fun _ => Silent.throw _

theorem silent_checkRoot (c : Client) (root : Json) : Silent server (c.checkRoot root) := by
  have hname (version : String) : Silent server (do
      let name ← Session.ofExcept (textAt root ["name"])
      if !c.topology.expects name then refuse (.unexpectedNode name)
      return version) := by
    refine (Silent.ofExcept _).seq fun name => ?_
    split
    · exact (silent_refuse _).seq fun _ => Silent.pure _
    · exact Silent.pure _
  refine (Silent.ofExcept _).seq fun version => ?_
  split
  · exact (silent_refuse _).seq fun _ => hname version
  · exact hname version

theorem silent_refuseFirst (isFine : String → Bool) (check : String → Mismatch)
    (nodes : List String) :
    Silent server (match nodes.find? fun node => !isFine node with
      | some node => refuse (check node)
      | none => return : Session Unit) := by
  split
  · exact silent_refuse _
  · exact Silent.pure _

theorem silent_verify (c : Client) : Silent server c.verify := by
  have hlisting (l : Listing) : Silent server (c.listingCheck l) :=
    (Silent.getText _).seq fun _ => silent_refuseFirst _ _ _
  rw [c.verify_eq]
  refine ((Silent.getJson _).seq fun root => c.silent_checkRoot root).seq fun _ => ?_
  exact (hlisting .nodes).seq fun _ => (hlisting .plugins).seq fun _ => Silent.log _ _ _

theorem silent_metrics (c : Client) : Silent server c.metrics :=
  (Silent.getJson _).seq fun _ => (Silent.log _ _ _).seq fun _ => Silent.pure _

theorem silent_batchMetrics (c : Client) (window : Window) (options : BatchOptions) :
    Silent server (c.batchMetrics window options) :=
  (Silent.getJson _).seq fun _ => (Silent.log _ _ _).seq fun _ => Silent.pure _

end Client

theorem run_print {server : Server} (text : String) (t : Transcript Request Reply) :
    (Action.print text).run.run server t = (.ok (), t.printed text) :=
  rfl

inductive Stage {α : Type} (server : Server) (s : Session α) (text : α → String)
    (t : Transcript Request Reply) : Except Abort Unit → Transcript Request Reply → Prop
  | failed {t₁ : Transcript Request Reply} {failure : Failure} {abort : Abort} :
      s.run.run server t = (.error failure, t₁) → Stage server s text t (.error abort) t₁
  | printed {t₁ : Transcript Request Reply} {a : α} :
      s.run.run server t = (.ok a, t₁) → Stage server s text t (.ok ()) (t₁.printed (text a))

theorem Stage.output {α : Type} {s : Session α} {text : α → String} (hs : Silent server s)
    {t t₁ : Transcript Request Reply} {r : Except Abort Unit}
    (hblank : Event.output t.events = []) (h : Stage server s text t r t₁) :
    (∃ abort, r = .error abort ∧ Event.output t₁.events = []) ∨
      r = .ok () ∧ ∃ a, Event.output t₁.events = [text a] := by
  have houtput := hs t
  rw [hblank] at houtput
  cases h with
  | failed hr =>
    rw [hr] at houtput
    exact .inl ⟨_, rfl, houtput⟩
  | @printed t₂ a hr =>
    rw [hr] at houtput
    refine .inr ⟨rfl, a, ?_⟩
    rw [Transcript.output_printed, houtput]
    rfl

inductive Stages {α β : Type} (server : Server) (first : Session α) (firstText : α → String)
    (second : Session β) (secondText : β → String) (t : Transcript Request Reply) :
    Except Abort Unit → Transcript Request Reply → Prop
  | firstFailed {t₁ : Transcript Request Reply} {failure : Failure} {abort : Abort} :
      first.run.run server t = (.error failure, t₁) →
      Stages server first firstText second secondText t (.error abort) t₁
  | secondFailed {t₁ t₂ : Transcript Request Reply} {a : α} {failure : Failure} {abort : Abort} :
      first.run.run server t = (.ok a, t₁) →
      second.run.run server (t₁.printed (firstText a)) = (.error failure, t₂) →
      Stages server first firstText second secondText t (.error abort) t₂
  | both {t₁ t₂ : Transcript Request Reply} {a : α} {b : β} :
      first.run.run server t = (.ok a, t₁) →
      second.run.run server (t₁.printed (firstText a)) = (.ok b, t₂) →
      Stages server first firstText second secondText t (.ok ()) (t₂.printed (secondText b))

section Commands

namespace Program

variable {server : Server} {c : Client}

theorem stage_run {α : Type} (s : Session α) (text : α → String) (context : Option Context)
    (t : Transcript Request Reply) {action : Action Unit}
    (haction : action = (do
      let a ← Action.session context s
      Action.print (text a))) :
    Stage server s text t (action.run.run server t).1 (action.run.run server t).2 := by
  rw [haction]
  rcases hr : s.run.run server t with ⟨failure | a, t₁⟩
  · rw [run_seq_error server _ (run_session hr context)]
    exact .failed hr
  · rw [run_seq_ok server _ (run_session hr context), run_print]
    exact .printed hr

theorem stages_run {α β : Type} (first : Session α) (firstText : α → String) (second : Session β)
    (secondText : β → String) (firstContext secondContext : Option Context)
    (t : Transcript Request Reply) {action : Action Unit}
    (haction : action = (do
      let a ← Action.session firstContext first
      Action.print (firstText a)
      let b ← Action.session secondContext second
      Action.print (secondText b))) :
    Stages server first firstText second secondText t (action.run.run server t).1
      (action.run.run server t).2 := by
  rw [haction]
  rcases hr : first.run.run server t with ⟨failure | a, t₁⟩
  · rw [run_seq_error server _ (run_session hr firstContext)]
    exact .firstFailed hr
  · rw [run_seq_ok server _ (run_session hr firstContext), run_seq_ok server _ (run_print _ t₁)]
    rcases hr₂ : second.run.run server (t₁.printed (firstText a)) with ⟨failure | b, t₂⟩
    · rw [run_seq_error server _ (run_session hr₂ secondContext)]
      exact .secondFailed hr hr₂
    · rw [run_seq_ok server _ (run_session hr₂ secondContext), run_print]
      exact .both hr hr₂

theorem stages_verify (server : Server) (c : Client) (settling : Settling) (now : Int)
    (t : Transcript Request Reply) :
    Stages server c.describe (fun text => text) c.verify (fun _ => "cluster config verified") t
      ((perform c settling now .verify).run.run server t).1
      ((perform c settling now .verify).run.run server t).2 :=
  stages_run _ _ _ _ _ _ t rfl

theorem Settling.Waits.output {scope : Scope} {settling : Settling} {accept : State → Bool}
    {t t₁ : Transcript Request Reply} {r : Except Failure State}
    (h : Settling.Waits server (c.readState scope).run accept t r t₁ settling) :
    Event.output t₁.events = Event.output t.events := by
  have hread : Silent server (c.readState scope) := c.silent_readState scope
  cases settling with
  | immediate =>
    have hsame := hread t
    rwa [show (c.readState scope).run.run server t = (r, t₁) from h] at hsame
  | after delay =>
    have hsame := hread (t.rested (Settling.restFor delay))
    rwa [show (c.readState scope).run.run server (t.rested (Settling.restFor delay)) = (r, t₁)
      from h] at hsame
  | polling interval timeout => exact Settling.Polls.output h

theorem Shows.output {settling : Settling} {accept : State → Bool}
    {t t₁ : Transcript Request Reply} {r : Except Abort Unit}
    (h : Shows server c settling accept t r t₁) :
    (∃ abort, r = .error abort ∧ Event.output t₁.events = Event.output t.events) ∨
      ∃ cluster node : State, r = .ok () ∧
        Event.output t₁.events = Event.output t.events ++ [cluster.render, node.render] := by
  cases h with
  | clusterFailed hcluster => exact .inl ⟨_, rfl, Settling.Waits.output hcluster⟩
  | nodeFailed hcluster hnode =>
    exact .inl ⟨_, rfl, (Settling.Waits.output hnode).trans (Settling.Waits.output hcluster)⟩
  | @shown _ _ cluster node hcluster hnode =>
    refine .inr ⟨cluster, node, rfl, ?_⟩
    rw [Event.output_append_line, Event.output_append_line, Settling.Waits.output hnode,
      Settling.Waits.output hcluster, List.append_assoc]
    rfl

theorem Performs.output {settling : Settling} {now : Int} {command : Command} {w : Write}
    {t t₁ : Transcript Request Reply} {r : Except Abort Unit} (hw : write? c command = some w)
    (h : Performs server c settling now command t r t₁) :
    (∃ abort, r = .error abort ∧ Event.output t₁.events = Event.output t.events) ∨
      ∃ cluster node : State, r = .ok () ∧
        Event.output t₁.events = Event.output t.events ++ [cluster.render, node.render] := by
  cases h with
  | plain hnone _ =>
    rw [hw] at hnone
    cases hnone
  | unwritten hw' hr =>
    obtain ⟨-, houtput, -⟩ := run_write hw' hr
    exact .inl ⟨_, rfl, houtput⟩
  | written hw' hr hshows =>
    obtain ⟨-, houtput, -⟩ := run_write hw' hr
    have hboth := hshows.output
    rwa [houtput] at hboth

/-- What a run that failed has printed, by its command and the exchanges that it made. -/
def Left (c : Client) (xs : List (Exchange Request Reply)) (texts : List String) : Command → Prop
  | .verify =>
    (texts = [] ∧ ¬∃ reads rest text, xs = reads ++ rest ∧ c.Describes reads text) ∨
      ∃ reads rest text, xs = reads ++ rest ∧ c.Describes reads text ∧ texts = [text] ∧
        Follows c.address c.checks rest false
  | .getState =>
    (texts = [] ∧ ¬∃ x rest state, xs = x :: rest ∧ c.Reports .cluster x state) ∨
      ∃ x rest state, xs = x :: rest ∧ c.Reports .cluster x state ∧ texts = [state.render] ∧
        '\n' ∉ state.render.toList ∧ Follows c.address [.read .node fun _ => true] rest false
  | _ => texts = []

def verifiedLine : String := "cluster config verified"

/-- The description of a cluster and its checks from the start, both with success, and what is
printed on the way. -/
def Verifies (server : Server) (c : Client) (xs : List (Exchange Request Reply))
    (texts : List String) : Prop :=
  ∃ t text t₁ t₂, t.exchanges = [] ∧ c.describe.run.run server t = (.ok text, t₁) ∧
    c.verify.run.run server (t₁.printed text) = (.ok (), t₂) ∧ xs = t₂.exchanges ∧
    texts = [text, verifiedLine]

theorem prints_verify {settling : Settling} {now : Int} {t t₁ : Transcript Request Reply}
    {r : Except Abort Unit} (hempty : t.exchanges = []) (hblank : Event.output t.events = [])
    (hr : (perform c settling now .verify).run.run server t = (r, t₁)) :
    (∃ abort, r = .error abort ∧ Left c t₁.exchanges (Event.output t₁.events) .verify) ∨
      r = .ok () ∧ Verifies server c t₁.exchanges (Event.output t₁.events) := by
  have hstages := stages_verify server c settling now t
  have hdescribe : Silent server c.describe := c.silent_describe
  have hverify : Silent server c.verify := c.silent_verify
  rw [hr] at hstages
  cases hstages with
  | firstFailed hfirst =>
    have houtput := hdescribe t
    rw [hfirst, hblank] at houtput
    refine .inl ⟨_, rfl, .inl ⟨houtput, Client.not_describes_of_run hfirst ?_⟩⟩
    rw [hempty, List.nil_append]
  | @secondFailed t₂ _ text failure abort hfirst hsecond =>
    have houtput := hdescribe t
    have houtput₂ := hverify (t₂.printed text)
    rw [hfirst, hblank] at houtput
    rw [hsecond] at houtput₂
    obtain ⟨reads, hreads, hdescribes⟩ := Client.describes_of_run hfirst
    rw [hempty, List.nil_append] at hreads
    have hchecks :
        Follows c.address c.checks (made server c.verify.run (t₂.printed text)) false := by
      have hkeeps := c.keeps_verify server (t₂.printed text)
      rw [Keeps, hsecond] at hkeeps
      exact hkeeps
    have hexchanges := exchanges_run server c.verify.run (t₂.printed text)
    rw [hsecond] at hexchanges
    refine .inl ⟨_, rfl, .inr ⟨reads, _, text, ?_, hdescribes, ?_, hchecks⟩⟩
    · rw [hexchanges, ← hreads]
      rfl
    · rw [houtput₂, Transcript.output_printed, houtput, List.nil_append]
  | @both t₂ t₃ text _ hfirst hsecond =>
    have houtput := hdescribe t
    have houtput₂ := hverify (t₂.printed text)
    rw [hfirst, hblank] at houtput
    rw [hsecond, Transcript.output_printed, houtput, List.nil_append] at houtput₂
    refine .inr ⟨rfl, t, text, t₂, t₃, hempty, hfirst, hsecond, rfl, ?_⟩
    rw [Event.output_append_line, houtput₂]
    rfl

theorem stage_getMetrics (server : Server) (c : Client) (settling : Settling) (now : Int)
    (t : Transcript Request Reply) :
    Stage server c.metrics Json.pretty t
      ((perform c settling now .getMetrics).run.run server t).1
      ((perform c settling now .getMetrics).run.run server t).2 :=
  stage_run _ _ _ t rfl

theorem stage_getBatch (server : Server) (c : Client) (settling : Settling) (now : Int)
    {tokens : List BatchToken} {options : BatchOptions} (h : batchOptions tokens = .ok options)
    (t : Transcript Request Reply) :
    Stage server (c.batchMetrics (Window.ending now Window.length) options) Json.pretty t
      ((perform c settling now (.getBatch tokens)).run.run server t).1
      ((perform c settling now (.getBatch tokens)).run.run server t).2 := by
  refine stage_run _ _ (some .fetchingBatch) t ?_
  simp only [perform, h]

section Runs

def printed (args : List String) (now : Int) (server : Server) : List String :=
  match Invocation.read args with
  | .error _ => []
  | .ok invocation => Event.output ((action invocation now).run.run server {}).2.events

theorem printed_of_read {args : List String} {invocation : Invocation}
    (h : Invocation.read args = .ok invocation) (now : Int) (server : Server) :
    printed args now server =
      Event.output ((action invocation now).run.run server {}).2.events := by
  rw [printed, h]

theorem ofTranscript_stdout (filter : Log.Filter) (r : Except Abort Unit)
    (t : Transcript Request Reply) :
    (Outcome.ofTranscript filter r t).stdout = lines (Event.output t.events) := by
  cases r <;> rfl

theorem exists_performed {args : List String} {invocation : Invocation} {command : Command}
    (hread : Invocation.read args = .ok invocation) (hcommand : invocation.command = some command)
    (filter : Log.Filter) (now : Int) (server : Server) :
    let c : Client := ⟨invocation.settings.address, invocation.settings.topology⟩
    ∃ r t, run args filter now server = .ofTranscript filter r t ∧
      printed args now server = Event.output t.events ∧
      ((∃ fault, r = .error (.usage fault) ∧ t.exchanges = [] ∧ Event.output t.events = []) ∨
        ∃ settling t₀, settling.Rests ∧ t₀.exchanges = [] ∧ Event.output t₀.events = [] ∧
          (perform c settling now command).run.run server t₀ = (r, t)) := by
  intro c
  rw [run_of_read hread, printed_of_read hread]
  refine ⟨_, _, rfl, rfl, ?_⟩
  cases hsettling : invocation.settings.settling with
  | error fault =>
    rw [action_of_fault hcommand hsettling]
    exact .inl ⟨fault, rfl, rfl, rfl⟩
  | ok settling =>
    obtain ⟨entry, haction⟩ := exists_entry_action_eq hcommand hsettling now
    refine .inr ⟨settling, { events := [.entry entry] }, Settings.rests_of_settling hsettling, rfl,
      rfl, ?_⟩
    rw [haction]
    rfl

end Runs

end Program

end Commands

end AnalyzerAdmin
