import AnalyzerAdmin.Proofs.Operations

/-!
# Rejected requests

A session is strict if a reply with a rejecting status ends it, with just this status as its
failure, and if it reports a status for no other reason. Requests are strict, sequences of strict
sessions are strict, and so every operation of a client is.
-/

namespace AnalyzerAdmin

open Dialogue

def Reply.status? : Reply → Option Nat
  | .answer status _ _ => some status
  | .failed _ => none

theorem Status.isRejection_iff (code : Nat) :
    Status.isRejection code = true ↔ 400 ≤ code ∧ code ≤ 599 := by
  simp only [isRejection, isClientError, isServerError, Bool.or_eq_true, Bool.and_eq_true,
    decide_eq_true_eq]
  omega

namespace Session

variable {α β : Type} (server : Server)

structure Strict (s : Session α) : Prop where
  stops : ∀ t {i : Nat} {x : Exchange Request Reply} {code : Nat},
    (made server s.run t)[i]? = some x → x.answer.status? = some code →
    Status.isRejection code = true →
    (made server s.run t).length = i + 1 ∧
      (s.run.run server t).1 = .error (.http (.rejected code x.query.url.render))
  reports : ∀ t {failure : Failure} {code : Nat}, (s.run.run server t).1 = .error failure →
    failure.status? = some code →
    ∃ x, (made server s.run t).getLast? = some x ∧ x.answer.status? = some code ∧
      Status.isRejection code = true

namespace Strict

theorem of_quiet {s : Session α} {o : Option α} (h : Gives s o)
    (hs : ∀ t failure, (s.run.run server t).1 = .error failure → failure.status? = none) :
    Strict server s where
  stops t i x code hx _ _ := by
    rw [h.made_eq_nil] at hx
    cases hx
  reports t failure code hr hf := by
    rw [hs t failure hr] at hf
    cases hf

theorem pure (a : α) : Strict server (pure a : Session α) :=
  of_quiet server (.pure a) fun _ _ h => by cases h

theorem log (level : Log.Level) (message : String) (values : List (String × String)) :
    Strict server (Session.log level message values) :=
  of_quiet server (.tell _) fun _ _ h => by cases h

theorem throw {failure : Failure} (h : failure.status? = none) :
    Strict server (throw failure : Session α) :=
  of_quiet server (.throw failure) fun _ _ hr => by
    cases hr
    exact h

theorem ofExcept {r : Except Failure α}
    (h : ∀ failure, r = .error failure → failure.status? = none) :
    Strict server (Session.ofExcept r) :=
  of_quiet server (gives_ofExcept r) fun _ failure hr => h failure hr

variable {server}

theorem seq {s : Session α} {f : α → Session β} (h : Strict server s)
    (hf : ∀ a, Strict server (f a)) : Strict server (s >>= f) where
  stops t i x code hx hstatus hcode := by
    rcases hr : s.run.run server t with ⟨failure | a, t₁⟩
    · rw [made_seq_error server f hr] at hx ⊢
      obtain ⟨hn, he⟩ := h.stops t hx hstatus hcode
      rw [hr] at he
      rw [run_seq_error server f hr]
      exact ⟨hn, by rw [Except.error.inj he]⟩
    · rw [made_seq_ok server f hr] at hx ⊢
      rw [run_seq_ok server f hr]
      -- No reply of the first part can have rejected, since there is a result.
      by_cases hi : i < (made server s.run t).length
      · rw [List.getElem?_append_left hi] at hx
        obtain ⟨-, he⟩ := h.stops t hx hstatus hcode
        rw [hr] at he
        cases he
      · have hle := Nat.le_of_not_lt hi
        rw [List.getElem?_append_right hle] at hx
        obtain ⟨hn, he⟩ := (hf a).stops t₁ hx hstatus hcode
        rw [List.length_append, hn]
        exact ⟨by omega, he⟩
  reports t failure code he hfailure := by
    rcases hr : s.run.run server t with ⟨failure' | a, t₁⟩
    · rw [run_seq_error server f hr] at he
      cases he
      rw [made_seq_error server f hr]
      exact h.reports t (by rw [hr]) hfailure
    · rw [run_seq_ok server f hr] at he
      obtain ⟨x, hx, hstatus⟩ := (hf a).reports t₁ he hfailure
      rw [made_seq_ok server f hr, List.getLast?_append, hx]
      exact ⟨x, rfl, hstatus⟩

theorem behind {d : Dialogue Request Reply β} {f : β → Session α}
    (hd : ∀ t, made server d t = []) (hf : ∀ b, Strict server (f b)) :
    Strict server (ExceptT.mk (d >>= fun b => (f b).run)) where
  stops t i x code hx hstatus hcode := by
    rw [ExceptT.run_mk, made_seq, hd, List.nil_append] at hx ⊢
    rw [run_seq]
    exact (hf _).stops _ hx hstatus hcode
  reports t failure code he hfailure := by
    rw [ExceptT.run_mk, run_seq] at he
    rw [ExceptT.run_mk, made_seq, hd, List.nil_append]
    exact (hf _).reports _ he hfailure

end Strict

theorem status?_checkUrl {text : String} {fault : HttpError} (h : checkUrl text = .error fault) :
    (Failure.http fault).status? = none := by
  rw [checkUrl] at h
  cases hu : Url.read text with
  | error urlFault =>
    rw [hu] at h
    cases h
    rfl
  | ok url =>
    rw [hu] at h
    simp only at h
    split_ifs at h <;>
      · cases h
        rfl

theorem strict_request (method : Method) (url : String) (body : Option String) :
    Strict server (request method url body) := by
  cases he : (⟨method, url, body⟩ : Errand).request with
  | error fault =>
    have hfault := status?_checkUrl (checkUrl_of_request_error he)
    constructor
    · intro t i x code hx
      rw [((single_request server ⟨method, url, body⟩).unmade he t).1] at hx
      cases hx
    · intro t failure code hr hstatus
      rw [run_request_unmade server he] at hr
      cases hr
      rw [hfault] at hstatus
      cases hstatus
  | ok q =>
    constructor
    · intro t i x code hx hstatus hcode
      rw [((single_request server ⟨method, url, body⟩).asked he t).1] at hx ⊢
      rw [run_request_made server he]
      cases i with
      | succ i => cases hx
      | zero =>
        cases hx
        refine ⟨rfl, ?_⟩
        simp only at hstatus ⊢
        cases hr : server t.exchanges q with
        | failed fault =>
          rw [hr] at hstatus
          cases hstatus
        | answer status octets complete =>
          rw [hr] at hstatus
          cases hstatus
          simp only [answer, if_pos hcode]
          rfl
    · intro t failure code hr hstatus
      rw [((single_request server ⟨method, url, body⟩).asked he t).1]
      rw [run_request_made server he] at hr
      refine ⟨_, rfl, ?_⟩
      simp only at hr ⊢
      cases ha : server t.exchanges q with
      | failed fault =>
        rw [ha] at hr
        cases hr
        cases hstatus
      | answer status octets complete =>
        rw [ha, answer] at hr
        split_ifs at hr with hcode
        · cases hr
          cases hstatus
          exact ⟨rfl, hcode⟩
        · cases hr
        · cases hr

theorem strict_getText (url : String) : Strict server (getText url) := by
  refine (Strict.log server _ _ _).seq fun _ => (strict_request server _ _ _).seq ?_
  rintro ⟨octets, complete⟩
  cases complete with
  | true => exact Strict.pure server _
  | false => exact Strict.throw server rfl

theorem strict_mapError {ε : Type} {g : ε → Failure} (hg : ∀ fault, (g fault).status? = none)
    (r : Except ε α) : Strict server (ofExcept (r.mapError g)) := by
  refine Strict.ofExcept server fun failure h => ?_
  cases r with
  | error fault =>
    cases h
    exact hg fault
  | ok a => cases h

theorem strict_getJson (url : String) : Strict server (getJson url) :=
  (strict_getText server url).seq fun _ => strict_mapError server (fun _ => rfl) _

end Session

namespace Client

open Session

variable (server : Server) (c : Client)

theorem strict_refuse {α : Type} (check : Mismatch) : Strict server (refuse check : Session α) :=
  (Strict.log server _ _ _).seq fun _ => Strict.throw server rfl

theorem strict_textAt (json : Json) (path : List String) :
    Strict server (Session.ofExcept (textAt json path)) := by
  refine Strict.ofExcept server fun failure h => ?_
  rw [textAt] at h
  split at h
  · cases h
    rfl
  · split at h <;> cases h
    rfl

theorem strict_checkRoot (root : Json) : Strict server (c.checkRoot root) := by
  refine (strict_textAt server _ _).seq fun version => ?_
  have hname : Strict server (do
      let name ← Session.ofExcept (textAt root ["name"])
      if !c.topology.expects name then refuse (.unexpectedNode name)
      return version) := by
    refine (strict_textAt server _ _).seq fun name => ?_
    split
    · exact (strict_refuse server _).seq fun _ => Strict.pure server _
    · exact Strict.pure server _
  split
  · exact (strict_refuse server _).seq fun _ => hname
  · exact hname

theorem strict_refuseFirst (isFine : String → Bool) (check : String → Mismatch)
    (nodes : List String) :
    Strict server (match nodes.find? fun node => !isFine node with
      | some node => refuse (check node)
      | none => return : Session Unit) := by
  split
  · exact strict_refuse server _
  · exact Strict.pure server _

theorem strict_checkNodes (listing : String) : Strict server (c.checkNodes listing) :=
  strict_refuseFirst server _ _ _

theorem strict_checkPlugins (listing : String) : Strict server (c.checkPlugins listing) :=
  strict_refuseFirst server _ _ _

theorem strict_describe : Strict server c.describe :=
  (strict_getJson server _).seq fun _ => (strict_getText server _).seq fun _ =>
    (strict_getText server _).seq fun _ => Strict.pure server _

theorem strict_verify : Strict server c.verify := by
  refine (strict_getJson server _).seq fun root => (c.strict_checkRoot server root).seq fun _ => ?_
  refine (strict_getText server _).seq fun nodes =>
    (c.strict_checkNodes server nodes).seq fun _ => ?_
  refine (strict_getText server _).seq fun plugins => ?_
  exact (c.strict_checkPlugins server plugins).seq fun _ => Strict.log server _ _ _

theorem strict_switch (f : Feature) (on : Bool) (scope : Scope) :
    Strict server (c.switch f on scope) :=
  (Strict.log server _ _ _).seq fun _ => (strict_request server _ _ _).seq fun _ =>
    Strict.log server _ _ _

theorem strict_readState (scope : Scope) : Strict server (c.readState scope) :=
  (strict_getJson server _).seq fun _ => (strict_mapError server (fun _ => rfl) _).seq fun _ =>
    (Strict.log server _ _ _).seq fun _ => Strict.pure server _

end Client

namespace Settling

open Session

variable {server : Server} {probe : Dialogue Request Reply (Except Failure State)}
  {accept : State → Bool}

theorem strict_giveUp (waited : Nat) (state : State) :
    Strict server (ExceptT.mk (giveUp waited state)) := by
  rw [giveUp]
  exact Strict.behind (f := fun _ => throw (.notConverged waited state)) (made_log server _ _ _)
    fun _ => Strict.throw server rfl

theorem readOnce_eq (started : Nat)
    (unsettled : Nat → State → Dialogue Request Reply (Except Failure State)) :
    (ExceptT.mk (readOnce probe accept started unsettled) : Session State) =
      (ExceptT.mk probe >>= fun state =>
        if accept state then pure state
        else ExceptT.mk (Dialogue.now >>= fun now => unsettled (now - started) state)) := by
  refine congrArg (Dialogue.bind probe) (funext fun r => ?_)
  cases r with
  | error failure => rfl
  | ok state =>
    by_cases ha : accept state = true
    · simp only [if_pos ha, ExceptT.bindCont]
      rfl
    · simp only [if_neg ha, ExceptT.bindCont]
      rfl

theorem strict_readOnce (hprobe : Strict server (ExceptT.mk probe)) (started : Nat)
    {unsettled : Nat → State → Dialogue Request Reply (Except Failure State)}
    (hu : ∀ waited state, Strict server (ExceptT.mk (unsettled waited state))) :
    Strict server (ExceptT.mk (readOnce probe accept started unsettled)) := by
  rw [readOnce_eq]
  refine hprobe.seq fun state => ?_
  by_cases ha : accept state = true
  · rw [if_pos ha]
    exact Strict.pure server state
  · rw [if_neg ha]
    exact Strict.behind (made_now server) fun now => hu (now - started) state

theorem strict_poll (hprobe : Strict server (ExceptT.mk probe))
    (interval timeout started more : Nat) :
    Strict server (ExceptT.mk (poll probe accept interval timeout started more)) := by
  induction more with
  | zero => exact strict_readOnce hprobe started strict_giveUp
  | succ more ih =>
    refine strict_readOnce hprobe started fun waited state => ?_
    by_cases hw : timeout ≤ waited
    · rw [if_pos hw]
      exact strict_giveUp waited state
    · rw [if_neg hw]
      refine Strict.behind (made_log server _ _ _) fun _ => ?_
      exact Strict.behind (made_rest server _) fun _ => ih

theorem strict_await (hprobe : Strict server (ExceptT.mk probe)) (settling : Settling) :
    Strict server (ExceptT.mk (settling.await probe accept)) := by
  cases settling with
  | immediate => exact hprobe
  | after delay => exact Strict.behind (made_rest server _) fun _ => hprobe
  | polling interval timeout =>
    exact Strict.behind (made_now server) fun started => strict_poll hprobe _ _ started _

end Settling

namespace Client

open Session

inductive Operation (c : Client) : {α : Type} → Session α → Prop
  | describe : Operation c c.describe
  | verify : Operation c c.verify
  | readState (scope : Scope) : Operation c (c.readState scope)
  | awaitState (scope : Scope) (settling : Settling) (accept : State → Bool) :
      Operation c (c.awaitState scope settling accept)
  | switch (f : Feature) (on : Bool) (scope : Scope) : Operation c (c.switch f on scope)
  | switchKey (key : String) (on : Bool) (scope : Scope) : Operation c (c.switchKey key on scope)
  | reset (scope : Scope) : Operation c (c.reset scope)
  | resetBoth : Operation c c.resetBoth
  | metrics : Operation c c.metrics
  | batchMetrics (window : Window) (options : BatchOptions) :
      Operation c (c.batchMetrics window options)

theorem Operation.strict {c : Client} {α : Type} {s : Session α} (h : c.Operation s)
    (server : Server) : Strict server s := by
  have hjson (url : String) (message : String) : Strict server (do
      let metrics ← Session.getJson url
      Session.log .debug message [("metrics", metrics.line)]
      return metrics) :=
    (strict_getJson server url).seq fun json =>
      (Strict.log server _ _ _).seq fun _ => Strict.pure server json
  cases h with
  | describe => exact c.strict_describe server
  | verify => exact c.strict_verify server
  | readState scope => exact c.strict_readState server scope
  | awaitState scope settling accept =>
    exact Settling.strict_await (c.strict_readState server scope) settling
  | switch f on scope => exact c.strict_switch server f on scope
  | switchKey key on scope =>
    refine Strict.seq (Strict.ofExcept server fun failure h => ?_) fun f =>
      c.strict_switch server f on scope
    rw [Feature.ofKey] at h
    split at h <;> cases h
    rfl
  | reset scope => exact c.strict_switch server .analyzer false scope
  | resetBoth =>
    exact (c.strict_switch server .analyzer false .cluster).seq fun _ =>
      c.strict_switch server .analyzer false .node
  | metrics => exact hjson _ _
  | batchMetrics window options => exact hjson _ _

theorem isOk_switch {server : Server} (c : Client) {f : Feature} {on : Bool} {scope : Scope}
    {t : Transcript Request Reply} {x : Exchange Request Reply} {code : Nat}
    (hx : x ∈ made server (c.switch f on scope).run t) (hstatus : x.answer.status? = some code) :
    ((c.switch f on scope).run.run server t).1.isOk = !Status.isRejection code := by
  have h := c.single_switch server f on scope
  cases he : (c.asking (.switch f on scope)).request with
  | error fault =>
    rw [(h.unmade he t).1] at hx
    cases hx
  | ok q =>
    obtain ⟨hmade, hresult⟩ := h.asked he t
    obtain rfl := List.mem_singleton.mp (hmade ▸ hx)
    have hok : ((c.switch f on scope).run.run server t).1.isOk =
        ((c.switch f on scope).run.run server t).1.toOption.isSome := by
      cases ((c.switch f on scope).run.run server t).1 <;> rfl
    rw [hok, hresult]
    simp only at hstatus ⊢
    cases ha : server t.exchanges q with
    | failed fault =>
      rw [ha] at hstatus
      cases hstatus
    | answer status octets complete =>
      rw [ha] at hstatus
      cases hstatus
      rw [Reply.body?]
      cases Status.isRejection code <;> rfl

/-- An operation fails with the status of a reply, at once, exactly if the status is from 400 to
599; and exactly then a switch is not done. The body of such a reply plays no part. -/
theorem rejection_iff (server : Server) (c : Client) (t : Transcript Request Reply) :
    (∀ {α : Type} {s : Session α} {i : Nat} {x : Exchange Request Reply} {code : Nat},
      c.Operation s → (made server s.run t)[i]? = some x → x.answer.status? = some code →
      (((made server s.run t).length = i + 1 ∧ ∃ failure, (s.run.run server t).1 = .error failure ∧
        failure.status? = some code ∧ failure.isTimeout = false) ↔ 400 ≤ code ∧ code ≤ 599) ∧
      (400 ≤ code ∧ code ≤ 599 →
        (s.run.run server t).1 = .error (.http (.rejected code x.query.url.render)))) ∧
    ∀ {f : Feature} {on : Bool} {scope : Scope} {x : Exchange Request Reply} {code : Nat},
      x ∈ made server (c.switch f on scope).run t → x.answer.status? = some code →
      (((c.switch f on scope).run.run server t).1.isOk = false ↔ 400 ≤ code ∧ code ≤ 599) := by
  constructor
  · intro α s i x code hop hx hstatus
    have hs := hop.strict server
    have hstop (h : 400 ≤ code ∧ code ≤ 599) :=
      hs.stops t hx hstatus ((Status.isRejection_iff code).mpr h)
    refine ⟨⟨?_, fun h => ?_⟩, fun h => (hstop h).2⟩
    · rintro ⟨-, failure, hr, hf, -⟩
      obtain ⟨y, -, -, hcode⟩ := hs.reports t hr hf
      exact (Status.isRejection_iff code).mp hcode
    · obtain ⟨hn, hr⟩ := hstop h
      exact ⟨hn, _, hr, rfl, rfl⟩
  · intro f on scope x code hx hstatus
    rw [c.isOk_switch hx hstatus, Bool.not_eq_false', Status.isRejection_iff]

theorem rejection_iff_resetBoth_503 :
    ((Client.resetBoth ⟨{ hostname := "[::1]" }, {}⟩).run.run
        (fun _ _ => .answer 503 [] true) {}).2.exchanges.length = 1 ∧
      (((Client.resetBoth ⟨{ hostname := "[::1]" }, {}⟩).run.run
        (fun _ _ => .answer 503 [] true) {}).1.isOk = false) := by
  have hmade : ((made (fun _ _ => .answer 503 [] true)
      (Client.resetBoth ⟨{ hostname := "[::1]" }, {}⟩).run {})[0]?.bind
        fun x => x.answer.status?) = some 503 := by
    decide +kernel
  obtain ⟨x, hx, hstatus⟩ := Option.bind_eq_some_iff.mp hmade
  obtain ⟨hn, failure, hr, -⟩ :=
    ((rejection_iff _ _ _).1 .resetBoth hx hstatus).1.mpr ⟨by decide, by decide⟩
  refine ⟨hn, ?_⟩
  rw [hr]
  rfl

/-- A switch that was answered with 304 is reported as done. -/
theorem switch_304_isOk :
    ((Client.switch ⟨{ hostname := "[::1]" }, {}⟩ .analyzer true .cluster).run.run
        (fun _ _ => .answer 304 [] true) {}).1.isOk = true ∧
      ((Client.switch ⟨{ hostname := "[::1]" }, {}⟩ .analyzer true .cluster).run.run
        (fun _ _ => .answer 304 [] true) {}).2.exchanges.map (fun x => x.answer.status?) =
        [some 304] := by
  decide +kernel

end Client

end AnalyzerAdmin
