import AnalyzerAdmin.Proofs.Display
import AnalyzerAdmin.Proofs.Settled

/-!
# What a polled command reports

A command that changes the cluster makes its switches, and then polls the cluster and the node with
one notion of a settled state. What it prints are the two states at its end, so a run that succeeds
reports settled states only; a cluster that stays stale ends the run with nothing printed.
-/

namespace AnalyzerAdmin

open Dialogue CommandLine

instance (c : Client) (scope : Scope) (x : Exchange Request Reply) : Decidable (c.Asks scope x) :=
  inferInstanceAs (Decidable ((c.asking (.state scope)).request = .ok x.query))

namespace Program

variable {server : Server} {c : Client} {command : Command}

/-- The states that a command which changes the cluster waits for. -/
def Settled : Command → State → Prop
  | .enableMetrics, s => s.isOn .analyzer = true
  | .enableBatch, s => s.isOn .batch = true ∨ s.isOn .analyzer = false
  | .reset, s => s.isOn .analyzer = false
  | _, _ => False

def switches : Command → List Leg
  | .enableMetrics => [.switch .analyzer true .cluster]
  | .enableBatch => [.switch .batch true .cluster]
  | .reset => [.switch .analyzer false .cluster, .switch .analyzer false .node]
  | _ => []

theorem accept_iff_settled {w : Write} (h : write? c command = some w) (s : State) :
    w.accept s = true ↔ Settled command s := by
  cases command with
  | enableMetrics =>
    cases h
    simp [showsEnabled, Settled]
  | enableBatch =>
    cases h
    simp [showsEnabled, Settled]
  | reset =>
    cases h
    simp [showsReset, Settled]
  | _ => cases h

theorem accept_eq_settled {w : Write} (h : write? c command = some w) :
    (fun s => w.accept s = true) = Settled command :=
  funext fun s => propext (accept_iff_settled h s)

theorem keeps_switches (server : Server) {w : Write} (h : write? c command = some w)
    (t : Transcript Request Reply) : Keeps c.address server w.session t (switches command) := by
  cases command with
  | enableMetrics =>
    cases h
    exact c.keeps_switch server .analyzer true .cluster t
  | enableBatch =>
    cases h
    exact c.keeps_switch server .batch true .cluster t
  | reset =>
    cases h
    exact c.keeps_resetBoth server t
  | _ => cases h

theorem silent_write {w : Write} (h : write? c command = some w) : Silent server w.session := by
  cases command with
  | enableMetrics =>
    cases h
    exact c.silent_switch .analyzer true .cluster
  | enableBatch =>
    cases h
    exact c.silent_switch .batch true .cluster
  | reset =>
    cases h
    exact (c.silent_switch .analyzer false .cluster).seq fun _ =>
      c.silent_switch .analyzer false .node
  | _ => cases h

theorem not_asks_of_switches {writes : List (Exchange Request Reply)} {isDone : Bool}
    (h : Follows c.address (switches command) writes isDone) (scope : Scope) :
    ∀ x ∈ writes, ¬c.Asks scope x := by
  intro x hx hasks
  have hmem : Except.ok x.query ∈
      (switches command).map fun leg => leg.endpoint.request c.address :=
    h.queries_initial.subset (List.mem_map_of_mem hx)
  obtain ⟨leg, hleg, hrequest⟩ := List.mem_map.mp hmem
  have hpost : leg.endpoint.method = .post := by
    have hall : ∀ leg ∈ switches command, leg.endpoint.method = .post := by
      cases command <;> simp [switches, Leg.switch, Endpoint.method]
    exact hall leg hleg
  have hwrite : x.query.method = .post := (Errand.method_of_request hrequest).trans hpost
  have hread : x.query.method = .get := Errand.method_of_request hasks
  rw [hwrite] at hread
  cases hread

theorem run_write {w : Write} (hw : write? c command = some w) {t t₁ : Transcript Request Reply}
    {r : Except Failure Unit} (hr : w.session.run.run server t = (r, t₁)) :
    t₁.clock = t.clock ∧ Event.output t₁.events = Event.output t.events ∧
      ∃ writes, t₁.exchanges = t.exchanges ++ writes ∧
        Follows c.address (switches command) writes r.isOk := by
  have hsilent : Silent server w.session := silent_write hw
  have houtput := hsilent t
  obtain ⟨hclock, writes, hwrites, hfollows, -⟩ :=
    (still_write hw).exchanges (keeps_switches server hw t) hr
  rw [hr] at houtput
  exact ⟨hclock, houtput, writes, hwrites, hfollows⟩

section Polled

variable {accept : State → Bool} {interval timeout : Nat} {t t₁ : Transcript Request Reply}

theorem Shows.exists_exchanges {r : Except Abort Unit}
    (h : Shows server c (.polling interval timeout) accept t r t₁) :
    ∃ reads, t₁.exchanges = t.exchanges ++ reads := by
  cases h with
  | clusterFailed hcluster => exact Settling.Polls.exists_exchanges hcluster
  | nodeFailed hcluster hnode | shown hcluster hnode =>
    obtain ⟨clusterReads, hclusterReads⟩ := Settling.Polls.exists_exchanges hcluster
    obtain ⟨nodeReads, hnodeReads⟩ := Settling.Polls.exists_exchanges hnode
    refine ⟨clusterReads ++ nodeReads, ?_⟩
    rw [← List.append_assoc, ← hclusterReads]
    exact hnodeReads

theorem Shows.expires {r : Except Abort Unit} {reads : List (Exchange Request Reply)}
    (h : Shows server c (.polling interval timeout) accept t r t₁)
    (hreads : t₁.exchanges = t.exchanges ++ reads) {x : Exchange Request Reply}
    (hx : c.Asks .cluster x)
    (hstale : ∀ x ∈ reads, c.Asks .cluster x →
      ∃ stale, x.answer.state? .cluster = some stale ∧ ¬accept stale = true) :
    ∃ time last, r = .error (.failed none (.notConverged (time - t.clock) last)) ∧
      c.Expires .cluster (fun s => accept s = true) (t.clock + timeout) reads time last ∧
      Event.output t₁.events = Event.output t.events := by
  -- A cluster that settles has shown a state that is accepted.
  have hfalse {t₁ : Transcript Request Reply} {cluster : State}
      {later : List (Exchange Request Reply)}
      (hcluster : Settling.Waits server (c.readState .cluster).run accept t (.ok cluster) t₁
        (.polling interval timeout)) (hlater : t₁.exchanges ++ later = t.exchanges ++ reads) :
      False := by
    obtain ⟨early, hearly, before, last, rfl, -, ⟨hasks, hstate⟩, haccept⟩ :=
      Settling.Polls.settlesOn hcluster
    rw [hearly, List.append_assoc] at hlater
    have hmem : last ∈ reads := by
      rw [← List.append_cancel_left hlater]
      simp
    obtain ⟨stale, hs, hrejected⟩ := hstale last hmem hasks
    rw [hs] at hstate
    cases hstate
    exact hrejected haccept
  cases h with
  | clusterFailed hcluster =>
    obtain ⟨reads', hreads', hasks, hend⟩ :=
      Settling.Polls.expires hcluster hx (Nat.le_refl t.clock)
    obtain rfl : reads' = reads := List.append_cancel_left (hreads'.symm.trans hreads)
    obtain ⟨time, last, hresult, hexpires⟩ := hend fun y hy => hstale y hy (hasks y hy)
    cases hresult
    exact ⟨time, last, rfl, hexpires, Settling.Polls.output hcluster⟩
  | nodeFailed hcluster hnode =>
    obtain ⟨later, hlater⟩ := Settling.Polls.exists_exchanges hnode
    exact absurd (hlater.symm.trans hreads) (hfalse hcluster)
  | shown hcluster hnode =>
    obtain ⟨later, hlater⟩ := Settling.Polls.exists_exchanges hnode
    exact absurd (hlater.symm.trans hreads) (hfalse hcluster)

theorem Performs.expires {now : Int} {w : Write} {r : Except Abort Unit}
    (hw : write? c command = some w) (hempty : t.exchanges = []) (hzero : t.clock = 0)
    (hblank : Event.output t.events = [])
    (h : Performs server c (.polling interval timeout) now command t r t₁)
    (hasked : ∃ x ∈ t₁.exchanges, c.Asks .cluster x)
    (hstale : ∀ x ∈ t₁.exchanges, c.Asks .cluster x →
      ∃ stale, x.answer.state? .cluster = some stale ∧ ¬Settled command stale) :
    ∃ writes reads waited last,
      r = .error (.failed none (.notConverged waited last)) ∧
      t₁.exchanges = writes ++ reads ∧ Follows c.address (switches command) writes true ∧
      c.Expires .cluster (Settled command) timeout reads waited last ∧
      Event.output t₁.events = [] := by
  obtain ⟨x, hx, hasks⟩ := hasked
  cases h with
  | plain hnone _ =>
    rw [hw] at hnone
    cases hnone
  | unwritten hw' hr =>
    obtain ⟨-, -, writes, hwrites, hfollows⟩ := run_write hw' hr
    rw [hempty, List.nil_append] at hwrites
    rw [hwrites] at hx
    exact absurd hasks (not_asks_of_switches hfollows .cluster x hx)
  | @written w' _ t' _ _ hw' hr hshows =>
    obtain ⟨hclock, houtput, writes, hwrites, hfollows⟩ := run_write hw' hr
    rw [hempty, List.nil_append] at hwrites
    rw [hzero] at hclock
    have hxs : ∃ reads, t₁.exchanges = t'.exchanges ++ reads := hshows.exists_exchanges
    obtain ⟨reads, hreads⟩ := hxs
    have hstale' : ∀ y ∈ reads, c.Asks .cluster y →
        ∃ stale, y.answer.state? .cluster = some stale ∧ ¬w'.accept stale = true := by
      intro y hy hasks
      rw [hreads] at hstale
      obtain ⟨stale, hs, hrejected⟩ := hstale y (List.mem_append_right _ hy) hasks
      exact ⟨stale, hs, by rwa [accept_iff_settled hw']⟩
    obtain ⟨time, last, hresult, hexpires, hprinted⟩ := hshows.expires hreads hasks hstale'
    rw [hclock, Nat.sub_zero] at hresult
    rw [hclock, Nat.zero_add, accept_eq_settled hw'] at hexpires
    rw [hwrites] at hreads
    exact ⟨writes, reads, time, last, hresult, hreads, hfollows, hexpires,
      (hprinted.trans houtput).trans hblank⟩

end Polled

section Runs

variable {args : List String} {invocation : Invocation}

end Runs

end Program

end AnalyzerAdmin
