import AnalyzerAdmin.Proofs.Ending

/-!
# What polling settles on

Sessions print nothing. Polling that gives a state gives the first accepted one of its reads
(`SettlesOn`); polling of which every read, up to the first at the deadline, reports a state that is
not accepted (`Expires`) gives up there.
-/

namespace AnalyzerAdmin

open Dialogue CommandLine

def Silent {ε α : Type} (server : Server) (s : ExceptT ε (Dialogue Request Reply) α) : Prop :=
  ∀ t, Event.output (s.run.run server t).2.events = Event.output t.events

theorem Event.output_append_entry (events : List Event) (e : Log.Entry) :
    Event.output (events ++ [.entry e]) = Event.output events := by
  rw [Event.output, Event.output, List.filterMap_append]
  exact List.append_nil _

namespace Silent

variable {ε α β : Type} {server : Server}

theorem pure (a : α) : Silent server (pure a : ExceptT ε (Dialogue Request Reply) α) :=
  fun _ => rfl

theorem throw (e : ε) : Silent server (throw e : ExceptT ε (Dialogue Request Reply) α) :=
  fun _ => rfl

theorem log (level : Log.Level) (message : String) (values : List (String × String)) :
    Silent server (Session.log level message values) :=
  fun t => Event.output_append_entry t.events ⟨level, message, values⟩

theorem ofExcept (r : Except Failure α) : Silent server (Session.ofExcept r) :=
  fun _ => rfl

theorem seq {s : ExceptT ε (Dialogue Request Reply) α}
    {f : α → ExceptT ε (Dialogue Request Reply) β} (h : Silent server s)
    (hf : ∀ a, Silent server (f a)) : Silent server (s >>= f) := by
  intro t
  have hs := h t
  rcases hr : s.run.run server t with ⟨failure | a, t₁⟩
  · rw [hr] at hs
    rw [run_seq_error server f hr, hs]
  · rw [hr] at hs
    rw [run_seq_ok server f hr, hf a, hs]

theorem request (method : Method) (url : String) (body : Option String) :
    Silent server (Session.request method url body) :=
  (ofExcept _).seq fun _ => seq (fun _ => rfl) fun _ => ofExcept _

theorem getText (url : String) : Silent server (Session.getText url) := by
  refine (log _ _ _).seq fun _ => (request _ _ _).seq ?_
  rintro ⟨body, complete⟩
  cases complete with
  | true => exact pure _
  | false => exact throw _

theorem getJson (url : String) : Silent server (Session.getJson url) :=
  (getText url).seq fun _ => ofExcept _

end Silent

theorem Errand.method_of_request {e : Errand} {q : Request} (h : e.request = .ok q) :
    q.method = e.method := by
  obtain ⟨target, -, rfl⟩ := Session.checkUrl_of_request_ok h
  rfl

namespace Client

variable {server : Server} {c : Client} {scope : Scope}

theorem silent_readState (c : Client) (scope : Scope) : Silent server (c.readState scope) :=
  (Silent.getJson _).seq fun _ => (Silent.ofExcept _).seq fun _ =>
    (Silent.log _ _ _).seq fun _ => Silent.pure _

theorem silent_switch (c : Client) (f : Feature) (on : Bool) (scope : Scope) :
    Silent server (c.switch f on scope) :=
  (Silent.log _ _ _).seq fun _ => (Silent.request _ _ _).seq fun _ => Silent.log _ _ _

def Asks (c : Client) (scope : Scope) (x : Exchange Request Reply) : Prop :=
  (c.asking (.state scope)).request = .ok x.query

def Reports (c : Client) (scope : Scope) (x : Exchange Request Reply) (state : State) : Prop :=
  c.Asks scope x ∧ x.answer.state? scope = some state

/-- Reads of a scope up to the first that reports a good state, which is this one. -/
def SettlesOn (c : Client) (scope : Scope) (IsGood : State → Prop)
    (reads : List (Exchange Request Reply)) (state : State) : Prop :=
  ∃ early last, reads = early ++ [last] ∧
    (∀ x ∈ early, ∃ stale, c.Reports scope x stale ∧ ¬IsGood stale) ∧
    c.Reports scope last state ∧ IsGood state

/-- Reads of a scope up to the first at a deadline, all of states that are not good. The time and
the state are those of the last. -/
def Expires (c : Client) (scope : Scope) (IsGood : State → Prop) (deadline : Nat)
    (reads : List (Exchange Request Reply)) (time : Nat) (state : State) : Prop :=
  ∃ early last, reads = early ++ [last] ∧ (∀ x ∈ early, x.time < deadline) ∧
    deadline ≤ last.time ∧ last.time = time ∧
    (∀ x ∈ reads, ∃ stale, c.Reports scope x stale ∧ ¬IsGood stale) ∧ c.Reports scope last state

theorem SettlesOn.first {IsGood : State → Prop} {x : Exchange Request Reply} {state : State}
    (hx : c.Reports scope x state) (hgood : IsGood state) : c.SettlesOn scope IsGood [x] state :=
  ⟨[], x, rfl, fun _ hy => absurd hy List.not_mem_nil, hx, hgood⟩

theorem SettlesOn.later {IsGood : State → Prop} {x : Exchange Request Reply}
    {xs : List (Exchange Request Reply)} {stale state : State} (hx : c.Reports scope x stale)
    (hstale : ¬IsGood stale) (h : c.SettlesOn scope IsGood xs state) :
    c.SettlesOn scope IsGood (x :: xs) state := by
  obtain ⟨early, last, rfl, hearly, hlast⟩ := h
  exact ⟨x :: early, last, rfl, List.forall_mem_cons.mpr ⟨⟨stale, hx, hstale⟩, hearly⟩, hlast⟩

theorem Expires.first {IsGood : State → Prop} {deadline : Nat} {x : Exchange Request Reply}
    {stale : State} (hx : c.Reports scope x stale) (hstale : ¬IsGood stale)
    (htime : deadline ≤ x.time) : c.Expires scope IsGood deadline [x] x.time stale :=
  ⟨[], x, rfl, fun _ hy => absurd hy List.not_mem_nil, htime, rfl,
    List.forall_mem_singleton.mpr ⟨stale, hx, hstale⟩, hx⟩

theorem Expires.later {IsGood : State → Prop} {deadline time : Nat} {x : Exchange Request Reply}
    {xs : List (Exchange Request Reply)} {stale state : State} (hx : c.Reports scope x stale)
    (hstale : ¬IsGood stale) (htime : x.time < deadline)
    (h : c.Expires scope IsGood deadline xs time state) :
    c.Expires scope IsGood deadline (x :: xs) time state := by
  obtain ⟨early, last, rfl, hearly, hdeadline, htime', hall, hlast⟩ := h
  exact ⟨x :: early, last, rfl, List.forall_mem_cons.mpr ⟨htime, hearly⟩, hdeadline, htime',
    List.forall_mem_cons.mpr ⟨⟨stale, hx, hstale⟩, hall⟩, hlast⟩

theorem Expires.asks {IsGood : State → Prop} {deadline time : Nat}
    {reads : List (Exchange Request Reply)} {state : State}
    (h : c.Expires scope IsGood deadline reads time state) : ∀ x ∈ reads, c.Asks scope x := by
  obtain ⟨-, -, -, -, -, -, hall, -⟩ := h
  intro x hx
  obtain ⟨stale, hreports, -⟩ := hall x hx
  exact hreports.1

theorem run_readState {t t₁ : Transcript Request Reply} {r : Except Failure State} {q : Request}
    (hq : (c.asking (.state scope)).request = .ok q)
    (hr : (c.readState scope).run.run server t = (r, t₁)) :
    t₁.exchanges = t.exchanges ++ [⟨q, server t.exchanges q, t.clock⟩] ∧
      r.toOption = (server t.exchanges q).state? scope := by
  have hxs := exchanges_run server (c.readState scope).run t
  obtain ⟨hmade, hresult⟩ := (c.single_readState server scope).asked hq t
  rw [hr] at hxs hresult
  rw [hmade] at hxs
  exact ⟨hxs, hresult⟩

theorem request_of_run_readState {t t₁ : Transcript Request Reply} {state : State}
    (hr : (c.readState scope).run.run server t = (.ok state, t₁)) :
    ∃ q, (c.asking (.state scope)).request = .ok q := by
  cases hq : (c.asking (.state scope)).request with
  | ok q => exact ⟨q, rfl⟩
  | error fault =>
    have hnone := ((c.single_readState server scope).unmade hq t).2
    rw [hr] at hnone
    cases hnone

theorem reports_of_run_readState {t t₁ : Transcript Request Reply} {state : State}
    (hr : (c.readState scope).run.run server t = (.ok state, t₁)) :
    ∃ x, t₁.exchanges = t.exchanges ++ [x] ∧ x.time = t.clock ∧ c.Reports scope x state := by
  obtain ⟨q, hq⟩ := request_of_run_readState hr
  obtain ⟨hxs, hresult⟩ := run_readState hq hr
  exact ⟨_, hxs, rfl, hq, hresult.symm⟩

end Client

namespace Settling

variable {server : Server} {c : Client} {scope : Scope} {accept : State → Bool}
  {interval timeout started : Nat} {t t₁ : Transcript Request Reply}

theorem Polls.output {r : Except Failure State}
    (h : Polls server (c.readState scope).run accept interval timeout started t r t₁) :
    Event.output t₁.events = Event.output t.events := by
  have hread {t t₁ : Transcript Request Reply} {r : Except Failure State}
      (hr : (c.readState scope).run.run server t = (r, t₁)) :
      Event.output t₁.events = Event.output t.events := by
    have hs : Silent server (c.readState scope) := c.silent_readState scope
    have ht := hs t
    rwa [hr] at ht
  induction h with
  | failed hr => exact hread hr
  | accepted hr _ => exact hread hr
  | expired hr _ _ => exact (Event.output_append_entry _ _).trans (hread hr)
  | again hr _ _ _ ih => exact ih.trans ((Event.output_append_entry _ _).trans (hread hr))

theorem Polls.exists_exchanges {r : Except Failure State}
    (h : Polls server (c.readState scope).run accept interval timeout started t r t₁) :
    ∃ reads, t₁.exchanges = t.exchanges ++ reads := by
  have hread {t t₁ : Transcript Request Reply} {r : Except Failure State}
      (hr : (c.readState scope).run.run server t = (r, t₁)) :
      ∃ reads, t₁.exchanges = t.exchanges ++ reads := by
    have hxs := exchanges_run server (c.readState scope).run t
    rw [hr] at hxs
    exact ⟨_, hxs⟩
  induction h with
  | failed hr => exact hread hr
  | accepted hr _ => exact hread hr
  | expired hr _ _ =>
    obtain ⟨reads, hreads⟩ := hread hr
    exact ⟨reads, hreads⟩
  | again hr _ _ _ ih =>
    obtain ⟨first, hfirst⟩ := hread hr
    obtain ⟨reads, hreads⟩ := ih
    refine ⟨first ++ reads, ?_⟩
    rw [hreads, ← List.append_assoc, ← hfirst]
    rfl

theorem Polls.settlesOn {state : State}
    (h : Polls server (c.readState scope).run accept interval timeout started t (.ok state) t₁) :
    ∃ reads, t₁.exchanges = t.exchanges ++ reads ∧
      c.SettlesOn scope (fun s => accept s = true) reads state := by
  generalize hresult : Except.ok state = r at h
  induction h with
  | failed _ => cases hresult
  | expired _ _ _ => cases hresult
  | accepted hr ha =>
    cases hresult
    obtain ⟨x, hx, -, hreports⟩ := Client.reports_of_run_readState hr
    exact ⟨[x], hx, .first hreports ha⟩
  | again hr ha _ _ ih =>
    obtain ⟨x, hx, -, hreports⟩ := Client.reports_of_run_readState hr
    obtain ⟨reads, hreads, hsettles⟩ := ih hresult
    refine ⟨x :: reads, ?_, hsettles.later hreports (by rw [ha]; exact Bool.false_ne_true)⟩
    rw [hreads, List.append_cons, ← hx]
    rfl

theorem Polls.expires {q : Request} {r : Except Failure State}
    (h : Polls server (c.readState scope).run accept interval timeout started t r t₁)
    (hq : (c.asking (.state scope)).request = .ok q) (hstarted : started ≤ t.clock) :
    ∃ reads, t₁.exchanges = t.exchanges ++ reads ∧ (∀ x ∈ reads, c.Asks scope x) ∧
      ((∀ x ∈ reads, ∃ stale, x.answer.state? scope = some stale ∧ ¬accept stale = true) →
        ∃ time state, r = .error (.notConverged (time - started) state) ∧
          c.Expires scope (fun s => accept s = true) (started + timeout) reads time state) := by
  have hread {t t₁ : Transcript Request Reply} {r : Except Failure State}
      (hr : (c.readState scope).run.run server t = (r, t₁)) :
      ∃ x, t₁.exchanges = t.exchanges ++ [x] ∧ x.time = t.clock ∧ t₁.clock = t.clock ∧
        c.Asks scope x ∧ r.toOption = x.answer.state? scope := by
    obtain ⟨hxs, hresult⟩ := Client.run_readState hq hr
    have hs : Still server (c.readState scope) := c.still_readState scope
    have hclock := hs t
    rw [hr] at hclock
    exact ⟨_, hxs, rfl, hclock, hq, hresult⟩
  -- A read that fails, or whose state is accepted, is not stale; the others go on or expire.
  induction h with
  | failed hr =>
    obtain ⟨x, hx, -, -, hasks, hnone⟩ := hread hr
    refine ⟨[x], hx, List.forall_mem_singleton.mpr hasks, fun hstale => ?_⟩
    obtain ⟨stale, hs, -⟩ := hstale x List.mem_cons_self
    rw [hs] at hnone
    cases hnone
  | accepted hr ha =>
    obtain ⟨x, hx, -, -, hasks, hsome⟩ := hread hr
    refine ⟨[x], hx, List.forall_mem_singleton.mpr hasks, fun hstale => ?_⟩
    obtain ⟨stale, hs, hrejected⟩ := hstale x List.mem_cons_self
    rw [hs] at hsome
    cases hsome
    exact absurd ha hrejected
  | @expired t t₁ state hr ha hw =>
    obtain ⟨x, hx, htime, hclock, hasks, hsome⟩ := hread hr
    refine ⟨[x], hx, List.forall_mem_singleton.mpr hasks, fun hstale => ?_⟩
    rw [hclock, ← htime] at hw ⊢
    have hrejected : ¬accept state = true := by
      rw [ha]
      exact Bool.false_ne_true
    exact ⟨x.time, state, rfl, .first ⟨hasks, hsome.symm⟩ hrejected (by omega)⟩
  | @again t t₁ t₂ state r hr ha hw _ ih =>
    obtain ⟨x, hx, htime, hclock, hasks, hsome⟩ := hread hr
    have hlater : started ≤ t₁.clock + restFor interval := by omega
    obtain ⟨reads, hreads, hall, hend⟩ := ih hlater
    refine ⟨x :: reads, ?_, List.forall_mem_cons.mpr ⟨hasks, hall⟩, fun hstale => ?_⟩
    · rw [hreads, List.append_cons, ← hx]
      rfl
    · obtain ⟨⟨stale, hs, hrejected⟩, hothers⟩ := List.forall_mem_cons.mp hstale
      obtain ⟨time, last, hresult, hexpires⟩ := hend hothers
      exact ⟨time, last, hresult, hexpires.later ⟨hasks, hs⟩ hrejected (by omega)⟩

end Settling

end AnalyzerAdmin
