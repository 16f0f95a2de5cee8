import AnalyzerAdmin.Proofs.CommandPlan
import AnalyzerAdmin.Proofs.Keyed
import AnalyzerAdmin.Proofs.PolledRun

/-!
# Sequences of switches

Switches by key, one after the other, whatever becomes of each. A switch with a known key makes one
request, if a request can be made at all, and its own reply alone decides its result (`Answers`). So
the requests of a sequence are those of its switches in order, and as no two switches have path and
body in common, the requests tell which switches were made (`toggles_recorded`).
-/

namespace AnalyzerAdmin

open Dialogue

@[ext] structure Toggle where
  key : String
  on : Bool
  scope : Scope
deriving DecidableEq, Repr

def Reply.accepts : Reply → Bool
  | .answer status _ _ => !Status.isRejection status
  | .failed _ => false

theorem Reply.isSome_body? (reply : Reply) : reply.body?.isSome = reply.accepts := by
  cases reply with
  | failed fault => rfl
  | answer status body complete =>
    rw [body?, accepts]
    cases Status.isRejection status <;> rfl

namespace Client

variable (c : Client) (server : Server)

/-- Switches one after the other. One that fails does not keep those behind it from being made. -/
def switchAll : List Toggle → Dialogue Request Reply (List (Except Failure Unit))
  | [] => return []
  | toggle :: toggles => do
    let result ← (c.switchKey toggle.key toggle.on toggle.scope).run
    let results ← switchAll toggles
    return result :: results

def request? (toggle : Toggle) : Option Request :=
  (Feature.ofKey? toggle.key).bind fun f =>
    (c.asking (.switch f toggle.on toggle.scope)).request.toOption

/-- What a switch comes to behind what was asked before: its result, and the exchanges it makes. -/
inductive Answers (past : List (Exchange Request Reply)) (toggle : Toggle) :
    Except Failure Unit → List (Exchange Request Reply) → Prop
  | unknown : Feature.ofKey? toggle.key = none →
      Answers past toggle (.error (.unknownFeature toggle.key)) []
  | unmade {f : Feature} {fault : HttpError} : Feature.ofKey? toggle.key = some f →
      (c.asking (.switch f toggle.on toggle.scope)).request = .error fault →
      Answers past toggle (.error (.http fault)) []
  | asked {f : Feature} {q : Request} {time : Nat} {result : Except Failure Unit} :
      Feature.ofKey? toggle.key = some f →
      (c.asking (.switch f toggle.on toggle.scope)).request = .ok q →
      result.isOk = (server past q).accepts →
      Answers past toggle result [⟨q, server past q, time⟩]

inductive AnswersAll : List (Exchange Request Reply) → List Toggle →
    List (Except Failure Unit) → List (Exchange Request Reply) → Prop
  | nil {past : List (Exchange Request Reply)} : AnswersAll past [] [] []
  | cons {past xs ys : List (Exchange Request Reply)} {toggle : Toggle} {toggles : List Toggle}
      {result : Except Failure Unit} {results : List (Except Failure Unit)} :
      c.Answers server past toggle result xs → AnswersAll (past ++ xs) toggles results ys →
      AnswersAll past (toggle :: toggles) (result :: results) (xs ++ ys)

variable {c server}

theorem run_switch_unmade {f : Feature} {on : Bool} {scope : Scope} {fault : HttpError}
    (h : (c.asking (.switch f on scope)).request = .error fault) (server : Server)
    (t : Transcript Request Reply) :
    ((c.switch f on scope).run.run server t).1 = .error (.http fault) ∧
      ((c.switch f on scope).run.run server t).2.exchanges = t.exchanges := by
  obtain ⟨t₁, hlog, ht₁⟩ : ∃ t₁ : Transcript Request Reply,
      (Session.log .debug "POST" [("url", c.address.url (switchPath f scope)),
        ("enable", String.ofList (Json.writtenWord on))]).run.run server t = (.ok (), t₁) ∧
      t₁.exchanges = t.exchanges :=
    ⟨_, rfl, rfl⟩
  rw [asking, Endpoint.errand_switch] at h
  have hrequest : (Session.request .post (c.address.url (switchPath f scope))
      (some (switchBody on))).run.run server t₁ = (.error (.http fault), t₁) :=
    Session.run_request_unmade server h t₁
  have hrun : (c.switch f on scope).run.run server t = (.error (.http fault), t₁) :=
    (run_seq_ok server _ hlog).trans (run_seq_error server _ hrequest)
  rw [hrun]
  exact ⟨rfl, ht₁⟩

theorem run_switch_made {f : Feature} {on : Bool} {scope : Scope} {q : Request}
    (h : (c.asking (.switch f on scope)).request = .ok q) (server : Server)
    (t : Transcript Request Reply) :
    ((c.switch f on scope).run.run server t).1.isOk = (server t.exchanges q).accepts ∧
      ((c.switch f on scope).run.run server t).2.exchanges =
        t.exchanges ++ [⟨q, server t.exchanges q, t.clock⟩] := by
  obtain ⟨hmade, hvalue⟩ := (c.single_switch server f on scope).asked h t
  have hexchanges := exchanges_run server (c.switch f on scope).run t
  rw [hmade] at hexchanges
  refine ⟨?_, hexchanges⟩
  rw [← Reply.isSome_body?]
  have hsome : ((c.switch f on scope).run.run server t).1.toOption.isSome =
      (server t.exchanges q).body?.isSome := by
    rw [hvalue]
    cases (server t.exchanges q).body? <;> rfl
  rw [← hsome]
  cases ((c.switch f on scope).run.run server t).1 <;> rfl

theorem answers_switchKey (c : Client) (server : Server) (toggle : Toggle)
    (t : Transcript Request Reply) :
    ∃ xs, ((c.switchKey toggle.key toggle.on toggle.scope).run.run server t).2.exchanges =
        t.exchanges ++ xs ∧
      c.Answers server t.exchanges toggle
        ((c.switchKey toggle.key toggle.on toggle.scope).run.run server t).1 xs := by
  cases hkey : Feature.ofKey? toggle.key with
  | none =>
    have hrun : (c.switchKey toggle.key toggle.on toggle.scope).run.run server t =
        (.error (.unknownFeature toggle.key), t) := by
      simp only [switchKey, Feature.ofKey, hkey]
      exact run_seq_error server _ rfl
    rw [hrun]
    exact ⟨[], (List.append_nil _).symm, .unknown hkey⟩
  | some f =>
    have hrun : (c.switchKey toggle.key toggle.on toggle.scope).run.run server t =
        (c.switch f toggle.on toggle.scope).run.run server t := by
      simp only [switchKey, Feature.ofKey, hkey]
      exact run_seq_ok server _ rfl
    rw [hrun]
    cases hrequest : (c.asking (.switch f toggle.on toggle.scope)).request with
    | error fault =>
      obtain ⟨hresult, hexchanges⟩ := run_switch_unmade hrequest server t
      rw [hresult, hexchanges]
      exact ⟨[], (List.append_nil _).symm, .unmade hkey hrequest⟩
    | ok q =>
      obtain ⟨hresult, hexchanges⟩ := run_switch_made hrequest server t
      exact ⟨_, hexchanges, .asked hkey hrequest hresult⟩

theorem answersAll_switchAll (c : Client) (server : Server) (toggles : List Toggle)
    (t : Transcript Request Reply) :
    ∃ xs, ((c.switchAll toggles).run server t).2.exchanges = t.exchanges ++ xs ∧
      c.AnswersAll server t.exchanges toggles ((c.switchAll toggles).run server t).1 xs := by
  induction toggles generalizing t with
  | nil => exact ⟨[], (List.append_nil _).symm, .nil⟩
  | cons toggle toggles ih =>
    obtain ⟨xs, hxs, hanswers⟩ := c.answers_switchKey server toggle t
    obtain ⟨ys, hys, hall⟩ := ih
      ((c.switchKey toggle.key toggle.on toggle.scope).run.run server t).2
    rw [hxs] at hys hall
    rw [switchAll, run_seq, run_seq, run_pure]
    exact ⟨xs ++ ys, hys.trans (List.append_assoc _ _ _), .cons hanswers hall⟩

theorem Answers.queries {past xs : List (Exchange Request Reply)} {toggle : Toggle}
    {result : Except Failure Unit} (h : c.Answers server past toggle result xs) :
    xs.map Exchange.query = (c.request? toggle).toList := by
  cases h with
  | unknown hkey => rw [request?, hkey]; rfl
  | unmade hkey hrequest => rw [request?, hkey, Option.bind_some, hrequest]; rfl
  | asked hkey hrequest _ => rw [request?, hkey, Option.bind_some, hrequest]; rfl

theorem AnswersAll.queries {past xs : List (Exchange Request Reply)} {toggles : List Toggle}
    {results : List (Except Failure Unit)} (h : c.AnswersAll server past toggles results xs) :
    xs.map Exchange.query = toggles.filterMap c.request? := by
  induction h with
  | nil => rfl
  | cons hanswers _ ih =>
    rw [List.map_append, hanswers.queries, ih, List.filterMap_cons]
    cases c.request? _ <;> rfl

end Client

section Recovery

theorem switchPath_injective {f g : Feature} {scope scope' : Scope}
    (h : switchPath f scope = switchPath g scope') : f = g ∧ scope = scope' := by
  revert h
  cases f <;> cases scope <;> cases g <;> cases scope' <;> decide

theorem switchBody_injective {on on' : Bool} (h : switchBody on = switchBody on') : on = on' := by
  revert h
  cases on <;> cases on' <;> decide

theorem filter_eq_of_filterMap_eq {α β : Type} {f : α → Option β} {as bs : List α}
    (hf : ∀ a b y, f a = some y → f b = some y → a = b) (h : as.filterMap f = bs.filterMap f) :
    as.filter (fun a => (f a).isSome) = bs.filter fun b => (f b).isSome := by
  induction as generalizing bs with
  | nil =>
    have hnone : ∀ b ∈ bs, f b = none := List.filterMap_eq_nil_iff.mp h.symm
    exact (List.filter_eq_nil_iff.mpr fun b hb => by simp [hnone b hb]).symm
  | cons a as ih =>
    cases ha : f a with
    | none =>
      rw [List.filterMap_cons_none ha] at h
      rw [List.filter_cons_of_neg (by simp [ha]), ih h]
    | some y =>
      rw [List.filterMap_cons_some ha] at h
      -- The first value of the other list comes from the same element, behind some without a value.
      obtain ⟨skipped, b, behind, rfl, hnone, hb, hbehind⟩ := List.filterMap_eq_cons_iff.mp h.symm
      have hskipped : skipped.filter (fun b => (f b).isSome) = [] :=
        List.filter_eq_nil_iff.mpr fun b hb => by simp [hnone b hb]
      rw [List.filter_append, hskipped, List.nil_append, List.filter_cons_of_pos (by simp [ha]),
        List.filter_cons_of_pos (by simp [hb]), ih hbehind.symm, hf a b y ha hb]

namespace Client

variable {c : Client}

theorem exists_of_request? {toggle : Toggle} {q : Request} (h : c.request? toggle = some q) :
    ∃ f, Feature.ofKey? toggle.key = some f ∧
      (c.asking (.switch f toggle.on toggle.scope)).request = .ok q := by
  rw [request?] at h
  obtain ⟨f, hkey, hrequest⟩ := Option.bind_eq_some_iff.mp h
  cases hr : (c.asking (.switch f toggle.on toggle.scope)).request with
  | error fault =>
    rw [hr] at hrequest
    cases hrequest
  | ok q' =>
    rw [hr] at hrequest
    cases hrequest
    exact ⟨f, hkey, hr⟩

theorem eq_of_line_eq (hfragment : '#' ∉ c.address.baseUrl.toList) {a b : Toggle}
    {y : Method × String × Option String} (ha : (c.request? a).map Request.line = some y)
    (hb : (c.request? b).map Request.line = some y) : a = b := by
  obtain ⟨p, hp, hline⟩ := Option.map_eq_some_iff.mp ha
  obtain ⟨q, hq, hline'⟩ := Option.map_eq_some_iff.mp hb
  obtain ⟨f, hkey, hrequest⟩ := exists_of_request? hp
  obtain ⟨g, hkey', hrequest'⟩ := exists_of_request? hq
  obtain ⟨hscheme, hhostname⟩ := (c.address.fragment_not_mem_base_iff _).mp hfragment
  obtain ⟨front, hfront⟩ := Address.exists_fronts hscheme hhostname
  rw [← hline', hfront.line hrequest, hfront.line hrequest'] at hline
  obtain ⟨-, hrest⟩ := Prod.mk.inj hline
  obtain ⟨htargets, hbodies⟩ := Prod.mk.inj hrest
  -- Both targets begin alike, so they end in the same path.
  have hpath : switchPath f a.scope = switchPath g b.scope := by
    rw [← Endpoint.path_switch f a.on, ← Endpoint.path_switch g b.on]
    exact String.append_right_inj _ |>.mp htargets
  have hbody : switchBody a.on = switchBody b.on := by
    rw [Endpoint.body_switch, Endpoint.body_switch] at hbodies
    exact Option.some.inj hbodies
  obtain ⟨rfl, hscope⟩ := switchPath_injective hpath
  have hon := switchBody_injective hbody
  have hkeys : a.key = b.key :=
    (Feature.ofKey?_eq_some.mp hkey).trans (Feature.ofKey?_eq_some.mp hkey').symm
  exact Toggle.ext hkeys hon hscope

/-- What a sequence of switches leaves behind. Each switch with a known key makes its request, if
one can be made, and no other switch makes any; the result of each follows from its own reply, and
the requests stand in the order of the switches. Path and body tell switches apart, so where the
base of the cluster has no fragment, the requests tell which switches were made. Turning off the
analyzer everywhere asks the cluster and then, if this worked, the node. -/
theorem toggles_recorded (c : Client) (server : Server) (toggles : List Toggle)
    (t : Transcript Request Reply) :
    (∃ xs, ((c.switchAll toggles).run server t).2.exchanges = t.exchanges ++ xs ∧
      c.AnswersAll server t.exchanges toggles ((c.switchAll toggles).run server t).1 xs ∧
      xs.map Exchange.query = toggles.filterMap c.request? ∧
      ∀ x ∈ xs, x.query.method = .post) ∧
    (∀ f on scope g on' scope',
      (switchPath f scope, switchBody on) = (switchPath g scope', switchBody on') →
      (f, on, scope) = (g, on', scope')) ∧
    ('#' ∉ c.address.baseUrl.toList → ∀ others server' t',
      (made server (c.switchAll toggles) t).map (fun x => x.query.line) =
        (made server' (c.switchAll others) t').map (fun x => x.query.line) →
      toggles.filter (fun toggle => (c.request? toggle).isSome) =
        others.filter fun toggle => (c.request? toggle).isSome) ∧
    ∃ xs, (c.resetBoth.run.run server t).2.exchanges = t.exchanges ++ xs ∧
      Follows c.address [.switch .analyzer false .cluster, .switch .analyzer false .node] xs
        (c.resetBoth.run.run server t).1.isOk := by
  have hlines (toggles : List Toggle) (server : Server) (t : Transcript Request Reply) :
      (made server (c.switchAll toggles) t).map (fun x => x.query.line) =
        toggles.filterMap fun toggle => (c.request? toggle).map Request.line := by
    obtain ⟨xs, hxs, hanswers⟩ := c.answersAll_switchAll server toggles t
    rw [made_eq_of_exchanges server hxs, ← List.map_filterMap, ← hanswers.queries, List.map_map]
    rfl
  refine ⟨?_, ?_, ?_, _, exchanges_run server _ t, c.keeps_resetBoth server t⟩
  · obtain ⟨xs, hxs, hanswers⟩ := c.answersAll_switchAll server toggles t
    refine ⟨xs, hxs, hanswers, hanswers.queries, fun x hx => ?_⟩
    have hmem : x.query ∈ toggles.filterMap c.request? := by
      rw [← hanswers.queries]
      exact List.mem_map_of_mem hx
    obtain ⟨toggle, -, hrequest⟩ := List.mem_filterMap.mp hmem
    obtain ⟨f, -, hq⟩ := exists_of_request? hrequest
    exact Errand.method_of_request hq
  · intro f on scope g on' scope' h
    obtain ⟨hpath, hbody⟩ := Prod.mk.inj h
    obtain ⟨rfl, rfl⟩ := switchPath_injective hpath
    rw [switchBody_injective hbody]
  · intro hfragment others server' t' h
    rw [hlines, hlines] at h
    have hfilter := filter_eq_of_filterMap_eq (fun a b y => eq_of_line_eq hfragment) h
    simpa only [Option.isSome_map] using hfilter

set_option maxRecDepth 100000 in
theorem toggles_recorded_rejected :
    '#' ∉ (Address.baseUrl { hostname := "[::1]" }).toList ∧
    [(⟨"pa", true, .cluster⟩ : Toggle), ⟨"PA", true, .cluster⟩, ⟨"rca", false, .node⟩].filter
        (fun toggle => (Client.request? ⟨{ hostname := "[::1]" }, {}⟩ toggle).isSome) =
      [(⟨"pa", true, .cluster⟩ : Toggle), ⟨"rca", false, .node⟩].filter
        fun toggle => (Client.request? ⟨{ hostname := "[::1]" }, {}⟩ toggle).isSome := by
  have hbase : '#' ∉ (Address.baseUrl { hostname := "[::1]" }).toList := by decide +kernel
  obtain ⟨-, -, hrecovers, -⟩ := toggles_recorded ⟨{ hostname := "[::1]" }, {}⟩
    (Server.scripted [.answer 200 [] true, .answer 404 [] true])
    [⟨"pa", true, .cluster⟩, ⟨"PA", true, .cluster⟩, ⟨"rca", false, .node⟩] {}
  refine ⟨hbase, hrecovers hbase [⟨"pa", true, .cluster⟩, ⟨"rca", false, .node⟩]
    Server.offline {} ?_⟩
  decide +kernel

set_option maxRecDepth 100000 in
/-- No request is made with a URL of another scheme, although the key is known. Behind the fragment
of a base, nothing tells switches apart. -/
theorem toggles_unrecorded :
    (made Server.offline (switchAll ⟨{ scheme := "ftp" }, {}⟩ [⟨"pa", true, .cluster⟩]) {}).length ≠
      ([(⟨"pa", true, .cluster⟩ : Toggle)].filter fun toggle =>
        (Feature.ofKey? toggle.key).isSome).length ∧
    ∀ toggle ∈ [(⟨"pa", true, .cluster⟩ : Toggle), ⟨"rca", true, .node⟩],
      (made Server.offline (switchAll ⟨{ hostname := "[::1]/#" }, {}⟩ [toggle]) {}).map
        (fun x => x.query.line) = [(.post, "/", some (switchBody true))] := by
  constructor
  · decide +kernel
  · decide +kernel

end Client

end Recovery

end AnalyzerAdmin
