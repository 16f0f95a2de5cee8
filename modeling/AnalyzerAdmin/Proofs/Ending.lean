import AnalyzerAdmin.Proofs.FailStop

/-!
# The end of a run

What a command does, with polling that nothing bounds, and what this costs at most: requests, and
time that is slept. A run does just this, so it ends although its waits have no count of reads.
-/

namespace AnalyzerAdmin

open Dialogue CommandLine

def Still {ε α : Type} (server : Server) (s : ExceptT ε (Dialogue Request Reply) α) : Prop :=
  ∀ t, (s.run.run server t).2.clock = t.clock

namespace Still

variable {ε α β : Type} {server : Server}

theorem of_gives {s : ExceptT ε (Dialogue Request Reply) α} {o : Option α} (h : Gives s o) :
    Still server s :=
  h.clock server

theorem seq {s : ExceptT ε (Dialogue Request Reply) α}
    {f : α → ExceptT ε (Dialogue Request Reply) β} (h : Still server s)
    (hf : ∀ a, Still server (f a)) : Still server (s >>= f) := by
  intro t
  have hc := h t
  rcases hr : s.run.run server t with ⟨failure | a, t₁⟩
  · rw [hr] at hc
    rw [run_seq_error server f hr, hc]
  · rw [hr] at hc
    rw [run_seq_ok server f hr, hf a, hc]

theorem session {s : Session α} (h : Still server s) (context : Option Context) :
    Still server (Action.session context s) := by
  intro t
  rw [Action.session, ExceptT.run_mk, run_map]
  exact h t

theorem exchanges {s : ExceptT ε (Dialogue Request Reply) α} {t t₁ : Transcript Request Reply}
    {r : Except ε α} {a : Address} {legs : List Leg} (h : Still server s)
    (hk : Keeps a server s t legs)
    (hr : s.run.run server t = (r, t₁)) :
    t₁.clock = t.clock ∧ ∃ xs, t₁.exchanges = t.exchanges ++ xs ∧ Follows a legs xs r.isOk ∧
      ∀ x ∈ xs, x.time = t.clock := by
  have hclock := h t
  have hxs := exchanges_run server s.run t
  rw [Keeps, hr] at hk
  rw [hr] at hclock hxs
  refine ⟨hclock, _, hxs, hk, fun x hx => ?_⟩
  have htime := time_of_mem_made server hx
  rw [hr, hclock] at htime
  exact Nat.le_antisymm htime.2 htime.1

end Still

namespace Program

structure Write where
  context : Context
  session : Session Unit
  requests : Nat
  accept : State → Bool

def write? (c : Client) : Command → Option Write
  | .enableMetrics =>
    some ⟨.enabling .analyzer, c.switch .analyzer true .cluster, 1, showsEnabled .analyzer⟩
  | .enableBatch => some ⟨.enabling .batch, c.switch .batch true .cluster, 1, showsEnabled .batch⟩
  | .reset => some ⟨.resetting, c.resetBoth, 2, showsReset⟩
  | _ => none

theorem perform_write {c : Client} {settling : Settling} {now : Int} {command : Command} {w : Write}
    (h : write? c command = some w) :
    perform c settling now command = (do
      Action.session (some w.context) w.session
      showSettled c settling w.accept) := by
  cases command <;> cases h <;> rfl

section Relations

variable (server : Server) (c : Client) (settling : Settling)

/-- Both waits, the second from the end of the first and with the whole of its time. -/
inductive Shows (accept : State → Bool) :
    Transcript Request Reply → Except Abort Unit → Transcript Request Reply → Prop
  | clusterFailed {t t₁ : Transcript Request Reply} {failure : Failure} :
      Settling.Waits server (c.readState .cluster).run accept t (.error failure) t₁ settling →
      Shows accept t (.error (.failed none failure)) t₁
  | nodeFailed {t t₁ t₂ : Transcript Request Reply} {cluster : State} {failure : Failure} :
      Settling.Waits server (c.readState .cluster).run accept t (.ok cluster) t₁ settling →
      Settling.Waits server (c.readState .node).run accept t₁ (.error failure) t₂ settling.again →
      Shows accept t (.error (.failed none failure)) t₂
  | shown {t t₁ t₂ : Transcript Request Reply} {cluster node : State} :
      Settling.Waits server (c.readState .cluster).run accept t (.ok cluster) t₁ settling →
      Settling.Waits server (c.readState .node).run accept t₁ (.ok node) t₂ settling.again →
      Shows accept t (.ok ())
        { t₂ with events := t₂.events ++ [.line cluster.render] ++ [.line node.render] }

inductive Performs (now : Int) (command : Command) :
    Transcript Request Reply → Except Abort Unit → Transcript Request Reply → Prop
  | unwritten {w : Write} {t t₁ : Transcript Request Reply} {failure : Failure} :
      write? c command = some w → w.session.run.run server t = (.error failure, t₁) →
      Performs now command t (.error (.failed (some w.context) failure)) t₁
  | written {w : Write} {t t₁ t₂ : Transcript Request Reply} {r : Except Abort Unit} :
      write? c command = some w → w.session.run.run server t = (.ok (), t₁) →
      Shows server c settling w.accept t₁ r t₂ → Performs now command t r t₂
  | plain {t t₁ : Transcript Request Reply} {r : Except Abort Unit} :
      write? c command = none → (perform c settling now command).run.run server t = (r, t₁) →
      Performs now command t r t₁

end Relations

variable {server : Server} {c : Client} {settling : Settling}

theorem run_session {α : Type} {s : Session α} {t t₁ : Transcript Request Reply}
    {r : Except Failure α} (h : s.run.run server t = (r, t₁)) (context : Option Context) :
    (Action.session context s).run.run server t = (r.mapError (.failed context), t₁) := by
  rw [Action.session, ExceptT.run_mk, run_map, h]

theorem shows_showSettled (hrests : settling.Rests) (accept : State → Bool)
    (t : Transcript Request Reply) :
    Shows server c settling accept t ((showSettled c settling accept).run.run server t).1
      ((showSettled c settling accept).run.run server t).2 := by
  rw [showSettled_eq]
  have hcluster := c.waits_awaitState server .cluster hrests accept t
  rcases hr : (c.awaitState .cluster settling accept).run.run server t with
    ⟨failure | cluster, t₁⟩
  · rw [hr] at hcluster
    rw [run_seq_error server _ (run_session hr none)]
    exact .clusterFailed hcluster
  · rw [hr] at hcluster
    rw [run_seq_ok server _ (run_session hr none)]
    have hnode := c.waits_awaitState server .node hrests.again accept t₁
    rcases hr₁ : (c.awaitState .node settling.again accept).run.run server t₁ with
      ⟨failure | node, t₂⟩
    · rw [hr₁] at hnode
      rw [run_seq_error server _ (run_session hr₁ none)]
      exact .nodeFailed hcluster hnode
    · rw [hr₁] at hnode
      rw [run_seq_ok server _ (run_session hr₁ none)]
      exact .shown hcluster hnode

theorem performs_perform (server : Server) (c : Client) (hrests : settling.Rests) (now : Int)
    (command : Command) (t : Transcript Request Reply) :
    Performs server c settling now command t
      ((perform c settling now command).run.run server t).1
      ((perform c settling now command).run.run server t).2 := by
  cases hw : write? c command with
  | none => exact .plain hw rfl
  | some w =>
    rw [perform_write hw]
    rcases hr : w.session.run.run server t with ⟨failure | ⟨⟩, t₁⟩
    · rw [run_seq_error server _ (run_session hr (some w.context))]
      exact .unwritten hw hr
    · rw [run_seq_ok server _ (run_session hr (some w.context))]
      exact .written hw hr (shows_showSettled hrests w.accept t₁)

end Program

section Cost

variable {server : Server} {c : Client}

theorem Client.still_readState (c : Client) (scope : Scope) : Still server (c.readState scope) :=
  (c.single_readState server scope).clock

theorem Settling.Waits.bounds {scope : Scope} {accept : State → Bool} {interval timeout : Nat}
    {t t₁ : Transcript Request Reply} {r : Except Failure State}
    (h : Waits server (c.readState scope).run accept t r t₁ (.polling interval timeout))
    (hinterval : 0 < interval) :
    t₁.exchanges.length ≤ t.exchanges.length + (rests (restFor interval) timeout + 1) ∧
      t₁.clock ≤ t.clock + rests (restFor interval) timeout * restFor interval := by
  have hask (t : Transcript Request Reply) :
      (made server (c.readState scope).run t).length ≤ 1 :=
    (c.keeps_readState server scope t).length_le
  obtain ⟨hx, hc⟩ :=
    Polls.bounds hask (c.still_readState scope) (restFor_pos hinterval) h (Nat.le_refl _)
  rw [Nat.sub_self, Nat.sub_zero] at hx hc
  exact ⟨by omega, hc⟩

namespace Program

theorem Shows.bounds {accept : State → Bool} {interval timeout : Nat}
    {t t₁ : Transcript Request Reply} {r : Except Abort Unit}
    (h : Shows server c (.polling interval timeout) accept t r t₁) (hinterval : 0 < interval) :
    t₁.exchanges.length ≤
        t.exchanges.length + 2 * (Settling.rests (Settling.restFor interval) timeout + 1) ∧
      t₁.clock ≤ t.clock +
        2 * (Settling.rests (Settling.restFor interval) timeout * Settling.restFor interval) := by
  cases h with
  | clusterFailed hcluster =>
    obtain ⟨hx, hc⟩ := Settling.Waits.bounds hcluster hinterval
    exact ⟨by omega, by omega⟩
  | nodeFailed hcluster hnode =>
    obtain ⟨hx, hc⟩ := Settling.Waits.bounds hcluster hinterval
    obtain ⟨hx₂, hc₂⟩ := Settling.Waits.bounds hnode hinterval
    exact ⟨by omega, by omega⟩
  | shown hcluster hnode =>
    obtain ⟨hx, hc⟩ := Settling.Waits.bounds hcluster hinterval
    obtain ⟨hx₂, hc₂⟩ := Settling.Waits.bounds hnode hinterval
    exact ⟨by simp only; omega, by simp only; omega⟩

theorem Shows.delayed {accept : State → Bool} {delay : Nat} {t t₁ : Transcript Request Reply}
    {r : Except Abort Unit} (h : Shows server c (.after delay) accept t r t₁) :
    t₁.clock = t.clock + Settling.restFor delay ∧
      ∃ reads, t₁.exchanges = t.exchanges ++ reads ∧
        reads.map (fun x => Except.ok x.query) <+:
          [(c.asking (.state .cluster)).request, (c.asking (.state .node)).request] ∧
        ∀ x ∈ reads, x.time = t.clock + Settling.restFor delay := by
  have hread {scope : Scope} {t t₁ : Transcript Request Reply} {r : Except Failure State}
      (hr : (c.readState scope).run.run server t = (r, t₁)) :=
    (c.still_readState scope).exchanges (c.keeps_readState server scope t) hr
  -- Behind a cluster that was read the node is read at once.
  have hboth {t₁ t₂ : Transcript Request Reply} {cluster : State} {r : Except Failure State}
      (hcluster : (c.readState .cluster).run.run server (t.rested (Settling.restFor delay)) =
        (.ok cluster, t₁)) (hnode : (c.readState .node).run.run server t₁ = (r, t₂)) :
      t₂.clock = t.clock + Settling.restFor delay ∧
        ∃ reads, t₂.exchanges = t.exchanges ++ reads ∧
          reads.map (fun x => Except.ok x.query) <+:
            [(c.asking (.state .cluster)).request, (c.asking (.state .node)).request] ∧
          ∀ x ∈ reads, x.time = t.clock + Settling.restFor delay := by
    obtain ⟨hc, xs, hxs, hf, htime⟩ := hread hcluster
    obtain ⟨hc₂, ys, hys, hf₂, htime₂⟩ := hread hnode
    refine ⟨hc₂.trans hc, xs ++ ys, ?_, (hf.append hf₂).queries_initial, fun x hx => ?_⟩
    · rw [hys, hxs, List.append_assoc]
      rfl
    · rcases List.mem_append.mp hx with hx | hx
      · exact htime x hx
      · exact (htime₂ x hx).trans hc
  cases h with
  | clusterFailed hcluster =>
    obtain ⟨hc, xs, hxs, hf, htime⟩ := hread hcluster
    refine ⟨hc, xs, hxs, ?_, htime⟩
    exact (hf.append_of_false [.read .node fun _ => true]).queries_initial
  | nodeFailed hcluster hnode => exact hboth hcluster hnode
  | shown hcluster hnode =>
    obtain ⟨hc, hreads⟩ := hboth hcluster hnode
    exact ⟨hc, hreads⟩

theorem keeps_write (server : Server) {command : Command} {w : Write}
    (h : write? c command = some w) (t : Transcript Request Reply) :
    ∃ legs, legs.length = w.requests ∧ Keeps c.address server w.session t legs := by
  cases command with
  | enableMetrics =>
    cases h
    exact ⟨_, rfl, c.keeps_switch server .analyzer true .cluster t⟩
  | enableBatch =>
    cases h
    exact ⟨_, rfl, c.keeps_switch server .batch true .cluster t⟩
  | reset =>
    cases h
    exact ⟨_, rfl, c.keeps_resetBoth server t⟩
  | _ => cases h

theorem still_write {command : Command} {w : Write} (h : write? c command = some w) :
    Still server w.session := by
  have hswitch (f : Feature) (on : Bool) (scope : Scope) : Still server (c.switch f on scope) :=
    (c.single_switch server f on scope).clock
  cases command with
  | enableMetrics =>
    cases h
    exact hswitch .analyzer true .cluster
  | enableBatch =>
    cases h
    exact hswitch .batch true .cluster
  | reset =>
    cases h
    exact (hswitch .analyzer false .cluster).seq fun _ => hswitch .analyzer false .node
  | _ => cases h

theorem still_plain (server : Server) (settling : Settling) (now : Int) {command : Command}
    (h : write? c command = none) : Still server (perform c settling now command) := by
  have hprint (text : String) : Still server (Action.print text) := .of_gives (.tell _)
  have htext (url : String) : Still server (Session.getText url) :=
    (Session.single_getText server url).clock
  have hroot : Still server (Session.getJson (Endpoint.root.url c.address)) :=
    (Session.single_getJson server _).clock
  cases command with
  | verify =>
    have hdescribe : Still server c.describe :=
      hroot.seq fun _ => (htext _).seq fun _ => (htext _).seq fun _ => .of_gives (.pure _)
    have hcheck (l : Listing) : Still server (c.listingCheck l) :=
      (htext _).seq fun text => .of_gives (c.gives_checkListing l text)
    have hverify : Still server c.verify := by
      rw [c.verify_eq]
      exact (hroot.seq fun root => .of_gives (c.gives_checkRoot root)).seq fun _ =>
        (hcheck .nodes).seq fun _ => (hcheck .plugins).seq fun _ => .of_gives (.tell _)
    exact (hdescribe.session _).seq fun text => (hprint text).seq fun _ =>
      (hverify.session _).seq fun _ => hprint _
  | getState =>
    exact ((c.still_readState .cluster).session _).seq fun cluster => (hprint _).seq fun _ =>
      ((c.still_readState .node).session _).seq fun node => hprint _
  | getMetrics =>
    have hmetrics : Still server c.metrics := (c.single_metrics server).clock
    exact (hmetrics.session _).seq fun _ => hprint _
  | getBatch tokens =>
    cases ho : batchOptions tokens with
    | error fault =>
      simp only [perform, ho]
      exact .of_gives (.throw _)
    | ok options =>
      have hbatch (window : Window) : Still server (c.batchMetrics window options) :=
        (c.single_batchMetrics server window options).clock
      simp only [perform, ho]
      exact ((hbatch _).session _).seq fun _ => hprint _
  | enableMetrics => cases h
  | enableBatch => cases h
  | reset => cases h

theorem length_plain (server : Server) {settling : Settling} (hrests : settling.Rests) (now : Int)
    {command : Command} (h : write? c command = none) (t : Transcript Request Reply) :
    (made server (perform c settling now command).run t).length ≤ 6 := by
  by_cases hoptions : ∃ tokens fault,
      command = .getBatch tokens ∧ batchOptions tokens = .error fault
  · obtain ⟨tokens, fault, rfl, ho⟩ := hoptions
    simp only [perform, ho]
    rw [(Gives.throw _).made_eq_nil]
    exact Nat.zero_le 6
  · obtain ⟨legs, hplan, hk⟩ := keeps_perform server c hrests now hoptions t
    refine Nat.le_trans hk.length_le ?_
    cases hplan with
    | verify => simp
    | getState => simp
    | getMetrics => simp
    | getBatch _ => simp
    | enableMetrics _ => cases h
    | enableBatch _ => cases h
    | reset _ => cases h

/-- What a command has cost at its end: requests, and time that was slept. -/
def Cost (c : Client) (settling : Settling) (command : Command) (t : Transcript Request Reply) :
    Prop :=
  match write? c command, settling with
  | none, _ => t.exchanges.length ≤ 6 ∧ t.clock = 0
  | some w, .polling interval timeout =>
    0 < interval ∧
      t.exchanges.length ≤
        w.requests + 2 * (Settling.rests (Settling.restFor interval) timeout + 1) ∧
      t.clock ≤ 2 * (Settling.rests (Settling.restFor interval) timeout * Settling.restFor interval)
  | some w, .after delay =>
    ∃ writes reads, t.exchanges = writes ++ reads ∧ writes.length ≤ w.requests ∧
      (∀ x ∈ writes, x.time = 0) ∧
      reads.map (fun x => Except.ok x.query) <+:
        [(c.asking (.state .cluster)).request, (c.asking (.state .node)).request] ∧
      (∀ x ∈ reads, x.time = Settling.restFor delay) ∧
      (t.clock = Settling.restFor delay ∨ reads = [] ∧ t.clock = 0)
  | some _, .immediate => False

theorem Performs.cost {settling : Settling} (hrests : settling.Rests) (hne : settling ≠ .immediate)
    {now : Int} {command : Command} {t t₁ : Transcript Request Reply} {r : Except Abort Unit}
    (hempty : t.exchanges = []) (hzero : t.clock = 0)
    (h : Performs server c settling now command t r t₁) : Cost c settling command t₁ := by
  have hwrite {w : Write} {t₁ : Transcript Request Reply} {r : Except Failure Unit}
      (hw : write? c command = some w) (hr : w.session.run.run server t = (r, t₁)) :
      t₁.clock = 0 ∧ t₁.exchanges.length ≤ w.requests ∧ ∀ x ∈ t₁.exchanges, x.time = 0 := by
    obtain ⟨legs, hlegs, hk⟩ := keeps_write server hw t
    obtain ⟨hc, xs, hxs, hf, htime⟩ := (still_write hw).exchanges hk hr
    rw [hempty, List.nil_append] at hxs
    rw [hxs, hc, ← hlegs, ← hzero]
    exact ⟨rfl, hf.length_le, htime⟩
  cases h with
  | unwritten hw hr =>
    obtain ⟨hc, hlength, htime⟩ := hwrite hw hr
    simp only [Cost, hw]
    cases settling with
    | immediate => exact hne rfl
    | after delay =>
      exact ⟨_, [], (List.append_nil _).symm, hlength, htime, List.nil_prefix,
        by simp, .inr ⟨rfl, hc⟩⟩
    | polling interval timeout =>
      refine ⟨hrests, Nat.le_add_right_of_le hlength, ?_⟩
      rw [hc]
      exact Nat.zero_le _
  | written hw hr hshows =>
    obtain ⟨hc, hlength, htime⟩ := hwrite hw hr
    simp only [Cost, hw]
    cases settling with
    | immediate => exact hne rfl
    | after delay =>
      obtain ⟨hc₂, reads, hreads, hqueries, htimes⟩ := hshows.delayed
      rw [hc, Nat.zero_add] at hc₂ htimes
      exact ⟨_, reads, hreads, hlength, htime, hqueries, htimes, .inl hc₂⟩
    | polling interval timeout =>
      obtain ⟨hx₂, hc₂⟩ := hshows.bounds hrests
      rw [hc, Nat.zero_add] at hc₂
      exact ⟨hrests, by omega, hc₂⟩
  | plain hw hr =>
    have hclock := still_plain server settling now hw t
    have hlength := length_plain server hrests now hw t
    have hxs := exchanges_run server (perform c settling now command).run t
    rw [hr] at hclock hxs
    rw [hempty, List.nil_append] at hxs
    simp only [Cost, hw]
    rw [hxs]
    exact ⟨hlength, hclock.trans hzero⟩

theorem settling_ne_immediate {s : Settings} {settling : Settling}
    (h : s.settling = .ok settling) : settling ≠ .immediate := by
  rw [Settings.settling] at h
  split_ifs at h
  · cases h
    exact Settling.noConfusion
  · cases h
    exact Settling.noConfusion

theorem exists_performs {args : List String} {invocation : Invocation} {command : Command}
    {settling : Settling} (hread : Invocation.read args = .ok invocation)
    (hcommand : invocation.command = some command)
    (hsettling : invocation.settings.settling = .ok settling) (filter : Log.Filter) (now : Int)
    (server : Server) :
    ∃ t r t₁, t.exchanges = [] ∧ t.clock = 0 ∧ Event.output t.events = [] ∧
      Performs server ⟨invocation.settings.address, invocation.settings.topology⟩ settling now
        command t r t₁ ∧
      run args filter now server = .ofTranscript filter r t₁ := by
  obtain ⟨entry, haction⟩ := exists_entry_action_eq hcommand hsettling now
  have hperforms := performs_perform server
    ⟨invocation.settings.address, invocation.settings.topology⟩
    (Settings.rests_of_settling hsettling) now command { events := [.entry entry] }
  refine ⟨_, _, _, rfl, rfl, rfl, hperforms, ?_⟩
  rw [run_of_read hread, haction]
  rfl

/-- Every run whose settings can be used ends, with the waits that its command means, and at a
cost that its settings bound. -/
theorem run_ends {args : List String} {invocation : Invocation} {settling : Settling}
    (hread : Invocation.read args = .ok invocation)
    (hsettling : invocation.settings.settling = .ok settling) (filter : Log.Filter) (now : Int)
    (server : Server) :
    match invocation.command with
    | none => run args filter now server = .ofTranscript filter (.ok ()) {}
    | some command =>
      ∃ t r t₁, t.exchanges = [] ∧ t.clock = 0 ∧
        Performs server ⟨invocation.settings.address, invocation.settings.topology⟩ settling now
          command t r t₁ ∧
        run args filter now server = .ofTranscript filter r t₁ ∧
        Cost ⟨invocation.settings.address, invocation.settings.topology⟩ settling command t₁ := by
  cases hcommand : invocation.command with
  | none =>
    rw [run_of_read hread, action_of_none hcommand]
    rfl
  | some command =>
    obtain ⟨t, r, t₁, hempty, hzero, -, hperforms, hrun⟩ :=
      exists_performs hread hcommand hsettling filter now server
    exact ⟨t, r, t₁, hempty, hzero, hperforms, hrun,
      hperforms.cost (Settings.rests_of_settling hsettling) (settling_ne_immediate hsettling) hempty
        hzero⟩

theorem run_ends_offline :
    (run ["enable_metrics", "--host", "[::1]", "--poll", "--settle-ms", "50"] Log.Filter.standard 0
      Server.offline).exchanges.length ≤ 1 + 2 * (100 + 1) := by
  have hread :
      Invocation.read ["enable_metrics", "--host", "[::1]", "--poll", "--settle-ms", "50"] =
        .ok ⟨{ host := some "[::1]", settle := some 50, poll := true }, some .enableMetrics⟩ := rfl
  have hsettling : Settings.settling { host := some "[::1]", settle := some 50, poll := true } =
      .ok (.polling 50 5000) := rfl
  obtain ⟨t, r, t₁, -, -, -, hrun, hcost⟩ :=
    run_ends hread hsettling Log.Filter.standard 0 Server.offline
  rw [hrun, ofTranscript_exchanges]
  exact hcost.2.1

set_option maxRecDepth 100000 in
/-- An interval and a timeout of 150 years: the cluster is read six times, since no rest is longer
than thirty years. -/
theorem run_rests_thirty_years :
    (∃ invocation, Invocation.read ["enable_metrics", "--host", "[::1]", "--poll",
        "--settle-ms", "4730400000000", "--poll-timeout-ms", "4730400000000"] = .ok invocation ∧
      invocation.settings.settling = .ok (.polling 4730400000000 4730400000000)) ∧
    ¬(run ["enable_metrics", "--host", "[::1]", "--poll", "--settle-ms", "4730400000000",
        "--poll-timeout-ms", "4730400000000"] Log.Filter.standard 0 fun _ _ => .answer 200
          "\x7b\"currentPerformanceAnalyzerClusterState\":0,\"shardsPerCollection\":0\x7d".toUTF8.toList
          true).exchanges.length ≤
      1 + 2 * ((4730400000000 + 4730400000000 - 1) / 4730400000000 + 1) := by
  constructor
  · exact ⟨_, rfl, rfl⟩
  · decide +kernel

end Program

end Cost

end AnalyzerAdmin
