import AnalyzerAdmin.Proofs.MetricsQuery
import AnalyzerAdmin.Proofs.Request
import Mathlib.Tactic.Choose

/-!
# Endpoints

All that a cluster is asked for, written out: the method, the URL and the body. Sessions put their
requests together from shared pieces, and each comes to one of these endpoints. A peer sees the
path of an endpoint behind a front that the address decides, and the path alone if the address is
bare (`exists_fronts`).
-/

namespace AnalyzerAdmin

inductive Endpoint
  | root
  | nodes
  | plugins
  | state (scope : Scope)
  | switch (f : Feature) (on : Bool) (scope : Scope)
  | metrics
  | batch (window : Window) (options : BatchOptions)

/-- What a peer sees of a request: its method, its target and its body. -/
def Request.line (r : Request) : Method × String × Option String := (r.method, r.url.target, r.body)

namespace Endpoint

def method : Endpoint → Method
  | .switch _ _ _ => .post
  | _ => .get

def body : Endpoint → Option String
  | .switch _ true _ => some "\x7b\"enabled\":true\x7d"
  | .switch _ false _ => some "\x7b\"enabled\":false\x7d"
  | _ => none

def port (a : Address) : Endpoint → UInt16
  | .metrics | .batch _ _ => a.metricsPort
  | _ => a.port

def path : Endpoint → String
  | .root => "/"
  | .nodes => "/_cat/nodes?v"
  | .plugins => "/_cat/plugins?v"
  | .state .cluster => "/_opendistro/_performanceanalyzer/cluster/config"
  | .state .node => "/_opendistro/_performanceanalyzer/config"
  | .switch .analyzer _ .cluster => "/_opendistro/_performanceanalyzer/cluster/config"
  | .switch .analyzer _ .node => "/_opendistro/_performanceanalyzer/config"
  | .switch .rootCause _ .cluster => "/_opendistro/_performanceanalyzer/rca/cluster/config"
  | .switch .rootCause _ .node => "/_opendistro/_performanceanalyzer/rca/config"
  | .switch .logging _ .cluster => "/_opendistro/_performanceanalyzer/logging/cluster/config"
  | .switch .logging _ .node => "/_opendistro/_performanceanalyzer/logging/config"
  | .switch .batch _ .cluster => "/_opendistro/_performanceanalyzer/batch/cluster/config"
  | .switch .batch _ .node => "/_opendistro/_performanceanalyzer/batch/config"
  | .metrics => "/_opendistro/_performanceanalyzer/metrics" ++
      "?metrics=Latency,CPU_Utilization&agg=avg,max&dim=ShardID&nodes=all"
  | .batch window options =>
    "/_opendistro/_performanceanalyzer/batch?metrics=Latency,CPU_Utilization" ++
      ("&starttime=" ++ window.start.toNat.repr) ++ ("&endtime=" ++ window.stop.toNat.repr) ++
      options.period.elim "" (fun n => "&period=" ++ n.toNat.repr) ++
      options.maxDatapoints.elim "" fun n => "&maxdatapoints=" ++ n.toNat.repr

def url (a : Address) (e : Endpoint) : String :=
  a.scheme ++ "://" ++ a.hostname ++ ":" ++ (e.port a).toNat.repr ++ e.path

def errand (a : Address) (e : Endpoint) : Errand := ⟨e.method, e.url a, e.body⟩

def request (a : Address) (e : Endpoint) : Except HttpError Request := (e.errand a).request

def line (front : String) (e : Endpoint) : Method × String × Option String :=
  (e.method, front ++ e.path, e.body)

section Pieces

variable (a : Address)

theorem url_of_port (e : Endpoint) (h : e.port a = a.port) : e.url a = a.url e.path := by
  rw [url, h]
  rfl

theorem url_of_metricsPort (e : Endpoint) (h : e.port a = a.metricsPort) :
    e.url a = a.metricsUrl e.path := by
  rw [url, h]
  rfl

theorem path_state (scope : Scope) : (state scope).path = statePath scope := by
  cases scope <;> rfl

theorem errand_state (scope : Scope) :
    (state scope).errand a = ⟨.get, a.url (statePath scope), none⟩ := by
  rw [errand, url_of_port a _ rfl, path_state]
  rfl

theorem path_switch (f : Feature) (on : Bool) (scope : Scope) :
    (switch f on scope).path = switchPath f scope := by
  cases f <;> cases scope <;> rfl

theorem body_switch (f : Feature) (on : Bool) (scope : Scope) :
    (switch f on scope).body = some (switchBody on) := by
  cases on <;> rfl

theorem errand_switch (f : Feature) (on : Bool) (scope : Scope) :
    (switch f on scope).errand a =
      ⟨.post, a.url (switchPath f scope), some (switchBody on)⟩ := by
  rw [errand, url_of_port a _ rfl, path_switch, body_switch]
  rfl

theorem path_metrics : metrics.path = metricsPath := by decide

theorem errand_metrics : metrics.errand a = ⟨.get, a.metricsUrl metricsPath, none⟩ := by
  rw [errand, url_of_metricsPort a metrics rfl, path_metrics]
  rfl

theorem path_batch (window : Window) (options : BatchOptions) :
    (batch window options).path = batchPath window options := by
  have happend {s t u v : String} (hfront : s = t) (hback : u = v) : s ++ u = t ++ v := by
    rw [hfront, hback]
  have hfront : "/_opendistro/_performanceanalyzer/batch?metrics=Latency,CPU_Utilization" =
      analyzerPath ++ "/batch?metrics=Latency,CPU_Utilization" := by decide
  have hstart : "&starttime=" ++ window.start.toNat.repr = parameter "starttime" window.start := rfl
  have hstop : "&endtime=" ++ window.stop.toNat.repr = parameter "endtime" window.stop := rfl
  have hperiod : options.period.elim "" (fun n => "&period=" ++ n.toNat.repr) =
      optionalParameter "period" options.period := by
    cases options.period <;> rfl
  have hmax : options.maxDatapoints.elim "" (fun n => "&maxdatapoints=" ++ n.toNat.repr) =
      optionalParameter "maxdatapoints" options.maxDatapoints := by
    cases options.maxDatapoints <;> rfl
  -- Put together piece by piece: a rewrite would compare each piece with the whole text.
  exact happend (happend (happend (happend hfront hstart) hstop) hperiod) hmax

theorem errand_batch (window : Window) (options : BatchOptions) :
    (batch window options).errand a =
      ⟨.get, a.metricsUrl (batchPath window options), none⟩ := by
  rw [errand, url_of_metricsPort a _ rfl, path_batch]
  rfl

end Pieces

end Endpoint

def switchNames (f : Feature) (scope : Scope) : List (List Char) :=
  ["_opendistro".toList, "_performanceanalyzer".toList] ++
    (f.segment.map String.toList).toList ++
    match scope with
    | .cluster => ["cluster".toList, "config".toList]
    | .node => ["config".toList]

theorem switchPath_eq (f : Feature) (scope : Scope) :
    switchPath f scope = String.ofList (Path.written (switchNames f scope)) := by
  cases f <;> cases scope <;> decide

theorem plain_switchNames (f : Feature) (scope : Scope) : Path.Plain (switchNames f scope) := by
  cases f <;> cases scope <;> decide

namespace Endpoint

open AnalyzerAdmin.Path (Reference)

theorem exists_plain (e : Endpoint) :
    ∃ r : Reference, r.IsPlain ∧ e.path = String.ofList r.text := by
  have hquery {names : List (List Char)} {query : List Char} (hsome : names ≠ [])
      (hnames : Path.Plain names) (h : query.all Path.queryLetters.contains = true) :
      (⟨names, some query⟩ : Reference).IsPlain := by
    refine ⟨hsome, hnames, ?_⟩
    rintro _ ⟨⟩ c hc
    exact List.contains_iff_mem.mp (List.all_eq_true.mp h c hc)
  have hbare {names : List (List Char)} (hsome : names ≠ []) (hnames : Path.Plain names) :
      (⟨names, none⟩ : Reference).IsPlain :=
    ⟨hsome, hnames, fun query h => by cases h⟩
  have hswitch (f : Feature) (scope : Scope) :
      ∃ r : Reference, r.IsPlain ∧ switchPath f scope = String.ofList r.text := by
    refine ⟨⟨switchNames f scope, none⟩,
      hbare (by simp [switchNames]) (plain_switchNames f scope), ?_⟩
    rw [switchPath_eq, Reference.text]
    exact congrArg String.ofList (List.append_nil _).symm
  cases e with
  | root => exact ⟨⟨[[]], none⟩, hbare (by decide) (by decide), rfl⟩
  | nodes =>
    exact ⟨⟨["_cat".toList, "nodes".toList], some "v".toList⟩,
      hquery (by decide) (by decide) (by decide), rfl⟩
  | plugins =>
    exact ⟨⟨["_cat".toList, "plugins".toList], some "v".toList⟩,
      hquery (by decide) (by decide) (by decide), rfl⟩
  | state scope =>
    rw [path_state]
    exact hswitch .analyzer scope
  | switch f on scope =>
    rw [path_switch]
    exact hswitch f scope
  | metrics =>
    exact ⟨⟨["_opendistro".toList, "_performanceanalyzer".toList, "metrics".toList],
        some "metrics=Latency,CPU_Utilization&agg=avg,max&dim=ShardID&nodes=all".toList⟩,
      hquery (by decide) (by decide) (by decide), by decide⟩
  | batch window options =>
    rw [path_batch]
    exact ⟨_, plain_batchReference window options, batchPath_eq window options⟩

end Endpoint

theorem Address.fragment_not_mem_base_iff (a : Address) (port : UInt16) :
    '#' ∉ (a.base port).toList ↔ '#' ∉ a.scheme.toList ∧ '#' ∉ a.hostname.toList := by
  have hdigits := Decimal.not_mem_ofNat (c := '#') rfl port.toNat
  have hslashes : '#' ∉ "://".toList := by decide
  have hcolon : '#' ∉ ":".toList := by decide
  simp only [base, String.toList_append, String.toList_ofList, List.mem_append, not_or, hdigits,
    hslashes, hcolon, not_false_eq_true, and_true]

/-- Fronts of an address, one for each port: what a peer sees of any request is an endpoint behind
the front of its port. A bare address has none. -/
structure Address.Fronts (a : Address) (front : UInt16 → String) : Prop where
  line : ∀ {e : Endpoint} {q : Request}, e.request a = .ok q → q.line = e.line (front (e.port a))
  bare : a.IsBare → ∀ port, front port = ""

theorem Address.exists_fronts {a : Address} (hscheme : '#' ∉ a.scheme.toList)
    (hhostname : '#' ∉ a.hostname.toList) : ∃ front, a.Fronts front := by
  have hfragment (port : UInt16) : '#' ∉ (a.base port).toList :=
    (a.fragment_not_mem_base_iff port).mpr ⟨hscheme, hhostname⟩
  choose front hbare htarget using fun port => a.exists_target_append port (hfragment port)
  refine ⟨fun port => String.ofList (front port), fun {e q} h => ?_, fun h port => ?_⟩
  · obtain ⟨⟨url, credentials⟩, hurl, rfl⟩ := Session.checkUrl_of_request_ok h
    obtain ⟨path, hplain, hpath⟩ := e.exists_plain
    have hbase : (e.errand a).url = a.base (e.port a) ++ String.ofList path.text := by
      rw [← hpath]
      rfl
    rw [hbase] at hurl
    obtain ⟨hends, -⟩ := htarget (e.port a) path url credentials hplain hurl
    have hseen : url.target = String.ofList (front (e.port a)) ++ e.path := by
      rw [hpath, ← String.ofList_append, ← hends, String.ofList_toList]
    rw [Request.line, Endpoint.line, hseen]
    rfl
  · exact congrArg String.ofList (hbare port h)

end AnalyzerAdmin
