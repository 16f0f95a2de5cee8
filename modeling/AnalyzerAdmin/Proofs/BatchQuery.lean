import AnalyzerAdmin.Program
import AnalyzerAdmin.Proofs.BatchTokens
import AnalyzerAdmin.Proofs.MetricsQuery
import AnalyzerAdmin.Proofs.Outcome

/-!
# Asking for batch metrics

Batch metrics are asked for once. The query stands at the end of what is asked for, and as it tells
windows and options apart, so does the request (`batch_request_exact`).
-/

namespace AnalyzerAdmin

open Dialogue

namespace Client

variable {c : Client} {window window' : Window} {options options' : BatchOptions}

def fetching (c : Client) (window : Window) (options : BatchOptions) : Errand :=
  ⟨.get, c.address.metricsUrl (batchPath window options), none⟩

theorem comes_batchMetrics {server : Server} {before xs : List (Exchange Request Reply)}
    {time : Nat} {r : Except Failure Json}
    (h : (c.fetching window options).Brings server Reply.json before time xs r) :
    Session.Comes server (c.batchMetrics window options) before time xs r := by
  have hread := Session.comes_getJson h
  cases r with
  | error failure => exact hread.stop
  | ok metrics => exact hread.last ((Session.Comes.log _ _ _).behind (.ofExcept (.ok metrics)))

theorem checkUrl_of_fetching {q : Request} (h : (c.fetching window options).request = .ok q) :
    q.method = .get ∧ q.body = none ∧ Session.checkUrl (c.address.base c.address.metricsPort ++
      String.ofList (batchReference window options).text) = .ok (q.url, q.credentials) := by
  obtain ⟨⟨url, credentials⟩, hurl, rfl⟩ := Session.checkUrl_of_request_ok h
  rw [← batchPath_eq]
  exact ⟨rfl, rfl, hurl⟩

theorem exists_target_of_fetching (hfragment : '#' ∉ c.address.metricsBaseUrl.toList) :
    ∃ front, ∀ window options q, (c.fetching window options).request = .ok q →
      q.url.target.toList = front ++ (batchReference window options).text ∧
      ('?' ∉ c.address.metricsBaseUrl.toList →
        q.url.query = some (String.ofList (batchQuery window options))) := by
  obtain ⟨front, -, htarget⟩ := c.address.exists_target_append c.address.metricsPort hfragment
  refine ⟨front, fun window options q h => ?_⟩
  obtain ⟨-, -, hurl⟩ := checkUrl_of_fetching h
  exact htarget _ q.url q.credentials (plain_batchReference window options) hurl

/-- Batch metrics are asked for once, with a GET, or not at all if no request can be made; what is
asked for ends in a query that carries the window and the options, and so does the URL. So the URL
tells parameters apart, and where the base has no fragment, so does the request. In whatever order
accepted tokens stand, the same is done. -/
theorem batch_request_exact (c : Client) (server : Server) (window : Window)
    (options : BatchOptions) (t : Transcript Request Reply) :
    (c.fetching window options).Brings server Reply.json t.exchanges t.clock
      (made server (c.batchMetrics window options).run t)
      ((c.batchMetrics window options).run.run server t).1 ∧
    (∃ query,
      c.address.metricsUrl (batchPath window options) = c.address.metricsBaseUrl ++
        "/_opendistro/_performanceanalyzer/batch?" ++ query ∧
      '?' ∉ query.toList ∧ Carries (queryParameters query) window options ∧
      ∀ q, (c.fetching window options).request = .ok q →
        q.method = .get ∧ q.body = none ∧
        ('#' ∉ c.address.metricsBaseUrl.toList →
          (∃ front, q.url.target = front ++ "/_opendistro/_performanceanalyzer/batch?" ++ query) ∧
          ('?' ∉ c.address.metricsBaseUrl.toList → q.url.query = some query))) ∧
    (∀ window' options',
      c.address.metricsUrl (batchPath window options) =
        c.address.metricsUrl (batchPath window' options') →
      window = window' ∧ options = options') ∧
    ('#' ∉ c.address.metricsBaseUrl.toList → ∀ window' options' q q',
      (c.fetching window options).request = .ok q →
      (c.fetching window' options').request = .ok q' → q.url.target = q'.url.target →
      window = window' ∧ options = options') ∧
    ∀ tokens others options, tokens.Perm others → CommandLine.batchOptions tokens = .ok options →
      CommandLine.batchOptions others = .ok options ∧ ∀ settling now,
        Program.perform c settling now (.getBatch tokens) =
          Program.perform c settling now (.getBatch others) := by
  obtain ⟨xs, r, hbrings⟩ :=
    (c.fetching window options).exists_brings server Reply.json t.exchanges t.clock
  obtain ⟨hmade, hresult⟩ := (comes_batchMetrics hbrings).made_eq
  refine ⟨by rwa [hmade, hresult], ⟨String.ofList (batchQuery window options), ?_, ?_,
    carries_batchQuery window options, fun q hq => ?_⟩, fun window' options' h => ?_,
    fun hfragment window' options' q q' hq hq' h => ?_,
    fun tokens others options hperm hok => ?_⟩
  · rw [Address.metricsUrl, batchPath_eq, text_batchReference, String.append_assoc]
  · rw [String.toList_ofList]
    intro hmem
    have hletter := (plain_batchReference window options).query _ rfl '?' hmem
    exact absurd hletter (by decide)
  · obtain ⟨hmethod, hbody, -⟩ := checkUrl_of_fetching hq
    refine ⟨hmethod, hbody, fun hfragment => ?_⟩
    obtain ⟨front, htarget⟩ := exists_target_of_fetching hfragment
    obtain ⟨hends, hwhole⟩ := htarget window options q hq
    refine ⟨⟨String.ofList front, ?_⟩, hwhole⟩
    rw [String.append_assoc, ← text_batchReference, ← String.ofList_append, ← hends,
      String.ofList_toList]
  · rw [Address.metricsUrl, Address.metricsUrl, batchPath_eq, batchPath_eq] at h
    have htexts := congrArg String.toList h
    rw [String.toList_append, String.toList_append] at htexts
    have hsame := List.append_cancel_left htexts
    rw [String.toList_ofList, String.toList_ofList] at hsame
    exact batchReference_injective hsame
  · obtain ⟨front, htarget⟩ := exists_target_of_fetching hfragment
    have hsame := (htarget window options q hq).1
    rw [h, (htarget window' options' q' hq').1] at hsame
    obtain ⟨rfl, rfl⟩ := batchReference_injective (List.append_cancel_left hsame)
    exact ⟨rfl, rfl⟩
  · have hothers := CommandLine.batchOptions_of_perm hperm hok
    refine ⟨hothers, fun settling now => ?_⟩
    simp only [Program.perform, hok, hothers]

theorem batch_request_exact_all_time :
    (∃ q query, (fetching ⟨{ hostname := "[::1]" }, {}⟩ ⟨0, 18446744073709551615⟩
        ⟨some 0, none⟩).request = .ok q ∧ q.url.query = some query ∧
      Carries (queryParameters query) ⟨0, 18446744073709551615⟩ ⟨some 0, none⟩) ∧
    CommandLine.batchOptions [.maxDatapoints 2, .period 0] = .ok ⟨some 0, some 2⟩ := by
  obtain ⟨-, ⟨query, -, -, hcarries, hasked⟩, -, -, htokens⟩ :=
    batch_request_exact ⟨{ hostname := "[::1]" }, {}⟩ Server.offline ⟨0, 18446744073709551615⟩
      ⟨some 0, none⟩ {}
  have hbase : '#' ∉ (Address.metricsBaseUrl { hostname := "[::1]" }).toList ∧
      '?' ∉ (Address.metricsBaseUrl { hostname := "[::1]" }).toList := by decide +kernel
  have hrequest : (fetching ⟨{ hostname := "[::1]" }, {}⟩ ⟨0, 18446744073709551615⟩
      ⟨some 0, none⟩).request.isOk = true := by decide +kernel
  constructor
  · cases hq : (fetching ⟨{ hostname := "[::1]" }, {}⟩ ⟨0, 18446744073709551615⟩
        ⟨some 0, none⟩).request with
    | error fault =>
      rw [hq] at hrequest
      cases hrequest
    | ok q =>
      obtain ⟨-, -, hclean⟩ := hasked q hq
      obtain ⟨-, hwhole⟩ := hclean hbase.1
      exact ⟨q, query, rfl, hwhole hbase.2, hcarries⟩
  · exact (htokens [.period 0, .maxDatapoints 2] _ _ (List.Perm.swap _ _ _) rfl).1

set_option maxRecDepth 100000 in
/-- No request is made with a URL of another scheme; behind the fragment of a base, no query is
sent; and a query that the base has comes before that of the path. -/
theorem batch_request_unforwarded :
    made Server.offline (batchMetrics ⟨{ scheme := "ftp" }, {}⟩ ⟨1, 2⟩ {}).run {} = [] ∧
    (made Server.offline (batchMetrics ⟨{ hostname := "[::1]/#" }, {}⟩ ⟨1, 2⟩ {}).run {}).map
      (fun x => x.query.url.target) = ["/"] ∧
    (made Server.offline (batchMetrics ⟨{ hostname := "[::1]/?starttime=7&" }, {}⟩ ⟨1, 2⟩ {}).run
        {}).map (fun x => x.query.url.query.bind fun query =>
          numberOf? (queryParameters query) "starttime") = [some 7] := by
  refine ⟨?_, ?_, ?_⟩
  · decide +kernel
  · decide +kernel
  · decide +kernel

end Client

end AnalyzerAdmin
