import AnalyzerAdmin.Program
import AnalyzerAdmin.Proofs.Operations
import AnalyzerAdmin.Proofs.Plan
import AnalyzerAdmin.Proofs.Polling

/-!
# Plans of commands

Each command has a plan. Only polling leaves something open: how many reads are not accepted before
the one that is. Whatever the server answers, a command keeps one of its plans (`keeps_perform`).
-/

namespace AnalyzerAdmin

open Dialogue CommandLine

namespace Leg

def text (e : Endpoint) (isGood : String → Bool) : Leg := ⟨e, fun reply => reply.text?.any isGood⟩

def json (e : Endpoint) (isGood : Json → Bool) : Leg := ⟨e, fun reply => reply.json?.any isGood⟩

def read (scope : Scope) (isGood : State → Bool) : Leg :=
  ⟨.state scope, fun reply => (reply.state? scope).any isGood⟩

def switch (f : Feature) (on : Bool) (scope : Scope) : Leg :=
  ⟨.switch f on scope, fun reply => reply.body?.isSome⟩

end Leg

inductive Settling.Awaiting (scope : Scope) (accept : State → Bool) : Settling → List Leg → Prop
  | immediate : Awaiting scope accept .immediate [.read scope fun _ => true]
  | after {delay : Nat} : Awaiting scope accept (.after delay) [.read scope fun _ => true]
  | polling {interval timeout : Nat} (n : Nat) :
      Awaiting scope accept (.polling interval timeout)
        (List.replicate n (.read scope fun state => !accept state) ++ [.read scope accept])

def Settling.again : Settling → Settling
  | .polling interval timeout => .polling interval timeout
  | _ => .immediate

theorem Settling.Rests.again {settling : Settling} (h : settling.Rests) : settling.again.Rests := by
  cases settling with
  | immediate => trivial
  | after delay => trivial
  | polling interval timeout => exact h

namespace Program

inductive Showing (settling : Settling) (accept : State → Bool) : List Leg → Prop
  | both {cluster node : List Leg} :
      settling.Awaiting .cluster accept cluster → settling.again.Awaiting .node accept node →
      Showing settling accept (cluster ++ node)

inductive Plan (topology : Topology) (settling : Settling) (now : Int) : Command → List Leg → Prop
  | verify : Plan topology settling now .verify
      [.json .root fun _ => true, .text .nodes fun _ => true, .text .plugins fun _ => true,
        .json .root topology.fits, .text .nodes (Listing.nodes.showsAll topology.nodes),
        .text .plugins (Listing.plugins.showsAll topology.nodes)]
  | getState : Plan topology settling now .getState
      [.read .cluster fun _ => true, .read .node fun _ => true]
  | enableMetrics {legs : List Leg} : Showing settling (fun s => s.isOn .analyzer) legs →
      Plan topology settling now .enableMetrics (.switch .analyzer true .cluster :: legs)
  | enableBatch {legs : List Leg} :
      Showing settling (fun s => s.isOn .batch || !s.isOn .analyzer) legs →
      Plan topology settling now .enableBatch (.switch .batch true .cluster :: legs)
  | getMetrics : Plan topology settling now .getMetrics [.json .metrics fun _ => true]
  | getBatch {tokens : List BatchToken} {options : BatchOptions} :
      batchOptions tokens = .ok options →
      Plan topology settling now (.getBatch tokens)
        [.json (.batch (Window.ending now Window.length) options) fun _ => true]
  | reset {legs : List Leg} : Showing settling (fun s => !s.isOn .analyzer) legs →
      Plan topology settling now .reset
        (.switch .analyzer false .cluster :: .switch .analyzer false .node :: legs)

end Program

section Keeps

variable (server : Server) (c : Client)

theorem Client.keeps_switch (f : Feature) (on : Bool) (scope : Scope)
    (t : Transcript Request Reply) :
    Keeps c.address server (c.switch f on scope) t [.switch f on scope] :=
  .of_single (c.single_switch server f on scope) fun reply => by
    cases reply.body? <;> rfl

theorem Client.keeps_resetBoth (t : Transcript Request Reply) :
    Keeps c.address server c.resetBoth t
      [.switch .analyzer false .cluster, .switch .analyzer false .node] :=
  (c.keeps_switch server .analyzer false .cluster t).seq fun _ t₁ _ =>
    c.keeps_switch server .analyzer false .node t₁

theorem Client.keeps_readState (scope : Scope) (t : Transcript Request Reply) :
    Keeps c.address server (c.readState scope) t [.read scope fun _ => true] :=
  .of_single (c.single_readState server scope) fun _ => Option.any_true

theorem Client.keeps_getText (l : Listing) (t : Transcript Request Reply) :
    Keeps c.address server (Session.getText (l.endpoint.url c.address)) t
      [.text l.endpoint fun _ => true] :=
  .of_single (c.single_getText server l) fun _ => Option.any_true

theorem Client.keeps_describe (t : Transcript Request Reply) :
    Keeps c.address server c.describe t
      [.json .root fun _ => true, .text .nodes fun _ => true, .text .plugins fun _ => true] := by
  have hroot : Keeps c.address server (Session.getJson (Endpoint.root.url c.address)) t
      [.json .root fun _ => true] :=
    .of_single (Session.single_getJson server _) fun _ => Option.any_true
  refine hroot.seq fun root t₁ _ => (c.keeps_getText server .nodes t₁).seq fun nodes t₂ _ => ?_
  exact (c.keeps_getText server .plugins t₂).seq_quiet fun plugins => ⟨_, .pure _⟩

theorem isSome_ite {α : Type} (b : Bool) (a : α) : (if b then some a else none).isSome = b := by
  cases b <;> rfl

theorem Client.keeps_listingCheck (l : Listing) (t : Transcript Request Reply) :
    Keeps c.address server (c.listingCheck l) t
      [.text l.endpoint (l.showsAll c.topology.nodes)] :=
  .of_single ((c.single_getText server l).seq (c.gives_checkListing l)) fun reply => by
    simp only [Option.isSome_bind, isSome_ite]

theorem Client.keeps_verify (t : Transcript Request Reply) :
    Keeps c.address server c.verify t
      [.json .root c.topology.fits, .text .nodes (Listing.nodes.showsAll c.topology.nodes),
        .text .plugins (Listing.plugins.showsAll c.topology.nodes)] := by
  have hroot : Keeps c.address server c.rootCheck t [.json .root c.topology.fits] :=
    .of_single ((Session.single_getJson server _).seq c.gives_checkRoot) fun reply => by
      simp only [Option.isSome_bind, isSome_ite]
  rw [verify_eq]
  refine hroot.seq fun version t₁ _ => (c.keeps_listingCheck server .nodes t₁).seq fun _ t₂ _ => ?_
  exact (c.keeps_listingCheck server .plugins t₂).seq_quiet fun _ => ⟨_, .tell _⟩

/-- Polling goes along one of its plans: the reads that are not accepted are as many as the loop
goes round. -/
theorem Settling.Polls.follows {scope : Scope} {accept : State → Bool}
    {interval timeout started : Nat} {t t₁ : Transcript Request Reply} {r : Except Failure State}
    (h : Polls server (c.readState scope).run accept interval timeout started t r t₁) :
    ∃ n xs, t₁.exchanges = t.exchanges ++ xs ∧
      Follows c.address (List.replicate n (.read scope fun state => !accept state) ++
        [.read scope accept]) xs r.isOk := by
  have hread {t t₁ : Transcript Request Reply} {r : Except Failure State}
      (hr : run server (c.readState scope).run t = (r, t₁)) (isGood : State → Bool) :
      Follows c.address [.read scope isGood] (made server (c.readState scope).run t)
        (r.toOption.any isGood) ∧
      t₁.exchanges = t.exchanges ++ made server (c.readState scope).run t := by
    have hf := (c.single_readState server scope).follows isGood t
    have hx := exchanges_run server (c.readState scope).run t
    rw [hr] at hf hx
    exact ⟨hf, hx⟩
  induction h with
  | failed hr =>
    obtain ⟨hf, hx⟩ := hread hr accept
    exact ⟨0, _, hx, hf⟩
  | @accepted t t₁ state hr ha =>
    obtain ⟨hf, hx⟩ := hread hr accept
    have hs : (Except.ok state : Except Failure State).toOption.any accept = true := ha
    rw [hs] at hf
    exact ⟨0, _, hx, hf⟩
  | @expired t t₁ state hr ha hw =>
    obtain ⟨hf, hx⟩ := hread hr accept
    have hs : (Except.ok state : Except Failure State).toOption.any accept = false := ha
    rw [hs] at hf
    exact ⟨0, _, hx, hf⟩
  | @again t t₁ t₂ state r hr ha hw _ ih =>
    -- The read goes along the leg of reads that are not accepted, the loop behind it along the
    -- rest.
    obtain ⟨hf, hx⟩ := hread hr fun state => !accept state
    have hs : (Except.ok state : Except Failure State).toOption.any (fun state => !accept state) =
        true := by
      change (!accept state) = true
      rw [ha, Bool.not_false]
    rw [hs] at hf
    obtain ⟨n, xs, hx₂, hf₂⟩ := ih
    refine ⟨n + 1, made server (c.readState scope).run t ++ xs, ?_, ?_⟩
    · rw [hx₂, ← List.append_assoc, ← hx]
      rfl
    · rw [List.replicate_succ, List.cons_append]
      exact hf.append hf₂

theorem Client.waits_awaitState (scope : Scope) {settling : Settling} (hrests : settling.Rests)
    (accept : State → Bool) (t : Transcript Request Reply) :
    Settling.Waits server (c.readState scope).run accept t
      ((c.awaitState scope settling accept).run.run server t).1
      ((c.awaitState scope settling accept).run.run server t).2 settling :=
  Settling.await_waits (c.single_readState server scope).clock hrests t

theorem Client.keeps_awaitState (scope : Scope) {settling : Settling} (hrests : settling.Rests)
    (accept : State → Bool) (t : Transcript Request Reply) :
    ∃ legs, settling.Awaiting scope accept legs ∧
      Keeps c.address server (c.awaitState scope settling accept) t legs := by
  cases settling with
  | immediate => exact ⟨_, .immediate, c.keeps_readState server scope t⟩
  | after delay =>
    have hrun : run server (c.awaitState scope (.after delay) accept).run t =
        run server (c.readState scope).run (t.rested (Settling.restFor delay)) :=
      run_seq server _ _ t
    have hk := c.keeps_readState server scope (t.rested (Settling.restFor delay))
    rw [Keeps, made] at hk
    refine ⟨_, .after, ?_⟩
    rw [Keeps, made, hrun]
    exact hk
  | polling interval timeout =>
    obtain ⟨n, xs, hx, hf⟩ :=
      Settling.Polls.follows server c (c.waits_awaitState server scope hrests accept t)
    refine ⟨_, .polling n, ?_⟩
    rw [Keeps, made_eq_of_exchanges server hx]
    exact hf

namespace Program

theorem keeps_session {α : Type} {a : Address} {s : Session α} {t : Transcript Request Reply}
    {legs : List Leg} (h : Keeps a server s t legs) (context : Option Context) :
    Keeps a server (Action.session context s) t legs := by
  have hmade : made server (Action.session context s).run t = made server s.run t :=
    made_map server _ s.run t
  rw [Keeps] at h ⊢
  rw [hmade, Action.session, ExceptT.run_mk, run_map]
  cases hr : (s.run.run server t).1 <;>
    · rw [hr] at h
      exact h

theorem showSettled_eq (settling : Settling) (accept : State → Bool) :
    showSettled c settling accept = (do
      let cluster ← Action.session none (c.awaitState .cluster settling accept)
      let node ← Action.session none (c.awaitState .node settling.again accept)
      Action.print cluster.render
      Action.print node.render) := by
  cases settling <;> rfl

theorem keeps_showSettled {settling : Settling} (hrests : settling.Rests) (accept : State → Bool)
    (t : Transcript Request Reply) :
    ∃ legs, Showing settling accept legs ∧
      Keeps c.address server (showSettled c settling accept) t legs := by
  obtain ⟨cluster, hcluster, hk⟩ := c.keeps_awaitState server .cluster hrests accept t
  rw [showSettled_eq]
  have hnode (t₁ : Transcript Request Reply) : ∃ legs, settling.again.Awaiting .node accept legs ∧
      ∀ cluster : State, Keeps c.address server (do
        let node ← Action.session none (c.awaitState .node settling.again accept)
        Action.print cluster.render
        Action.print node.render) t₁ legs := by
    obtain ⟨legs, hlegs, hk₁⟩ := c.keeps_awaitState server .node hrests.again accept t₁
    refine ⟨legs, hlegs, fun state => (keeps_session server hk₁ none).seq_quiet fun _ => ?_⟩
    exact ⟨_, (Gives.tell _).seq fun _ => Gives.tell _⟩
  obtain ⟨node, hplan, hboth⟩ := (keeps_session server hk none).exists_behind hnode
  exact ⟨_, .both hcluster hplan, hboth⟩

theorem showsEnabled_analyzer : showsEnabled .analyzer = fun s => s.isOn .analyzer :=
  funext fun s => by simp [showsEnabled]

theorem showsEnabled_batch :
    showsEnabled .batch = fun s => s.isOn .batch || !s.isOn .analyzer :=
  funext fun s => by simp [showsEnabled]

theorem keeps_perform {settling : Settling} (hrests : settling.Rests) (now : Int)
    {command : Command}
    (hoptions : ¬∃ tokens fault, command = .getBatch tokens ∧ batchOptions tokens = .error fault)
    (t : Transcript Request Reply) :
    ∃ legs, Plan c.topology settling now command legs ∧
      Keeps c.address server (perform c settling now command) t legs := by
  have hprint (text : String) : Gives (Action.print text) (some ()) := Gives.tell _
  have hshow (accept : State → Bool) (t₁ : Transcript Request Reply) :
      ∃ legs, Showing settling accept legs ∧
        ∀ _ : Unit, Keeps c.address server (showSettled c settling accept) t₁ legs := by
    obtain ⟨legs, hplan, hk⟩ := keeps_showSettled server c hrests accept t₁
    exact ⟨legs, hplan, fun _ => hk⟩
  have hfetch {e : Endpoint} {s : Session Json} (h : s.Single server (c.asking e) Reply.json?)
      (context : Context) :
      Keeps c.address server (do Action.print (← Action.session (some context) s).pretty) t
        [.json e fun _ => true] :=
    (keeps_session server (.of_single h fun _ => Option.any_true) _).seq_quiet fun _ =>
      ⟨_, hprint _⟩
  cases command with
  | verify =>
    refine ⟨_, .verify, (keeps_session server (c.keeps_describe server t) _).seq
      fun text t₁ _ => ?_⟩
    refine Keeps.behind (hprint text) fun _ t₂ => ?_
    exact (keeps_session server (c.keeps_verify server t₂) _).seq_quiet fun _ => ⟨_, hprint _⟩
  | getState =>
    have hread (scope : Scope) (t : Transcript Request Reply) :=
      keeps_session server (c.keeps_readState server scope t) none
    refine ⟨_, .getState, (hread .cluster t).seq fun cluster t₁ _ => ?_⟩
    refine Keeps.behind (hprint cluster.render) fun _ t₂ => ?_
    exact (hread .node t₂).seq_quiet fun node => ⟨_, hprint _⟩
  | enableMetrics =>
    have hk := keeps_session server (c.keeps_switch server .analyzer true .cluster t)
      (some (.enabling .analyzer))
    obtain ⟨legs, hplan, hall⟩ := hk.exists_behind (hshow (showsEnabled .analyzer))
    rw [showsEnabled_analyzer] at hplan
    exact ⟨_, .enableMetrics hplan, hall⟩
  | enableBatch =>
    have hk := keeps_session server (c.keeps_switch server .batch true .cluster t)
      (some (.enabling .batch))
    obtain ⟨legs, hplan, hall⟩ := hk.exists_behind (hshow (showsEnabled .batch))
    rw [showsEnabled_batch] at hplan
    exact ⟨_, .enableBatch hplan, hall⟩
  | getMetrics => exact ⟨_, .getMetrics, hfetch (c.single_metrics server) .fetching⟩
  | getBatch tokens =>
    cases ho : batchOptions tokens with
    | error fault => exact absurd ⟨tokens, fault, rfl, ho⟩ hoptions
    | ok options =>
      refine ⟨_, .getBatch ho, ?_⟩
      simp only [perform, ho]
      exact hfetch (c.single_batchMetrics server _ options) .fetchingBatch
  | reset =>
    have hk := keeps_session server (c.keeps_resetBoth server t) (some .resetting)
    obtain ⟨legs, hplan, hall⟩ := hk.exists_behind (hshow showsReset)
    exact ⟨_, .reset hplan, hall⟩

end Program

end Keeps

theorem CommandLine.Settings.rests_of_settling {s : Settings} {settling : Settling}
    (h : s.settling = .ok settling) : settling.Rests := by
  rw [Settings.settling] at h
  split_ifs at h with hpoll hidle
  · cases h
    trivial
  · cases h
    exact Nat.pos_of_ne_zero hidle

end AnalyzerAdmin
