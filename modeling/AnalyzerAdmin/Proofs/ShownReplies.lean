import AnalyzerAdmin.Proofs.Indentation
import AnalyzerAdmin.Proofs.Printed

/-!
# Replies on the output

`verify`, `get_metrics` and `get_batch` print the value of the first reply, indented. What is
printed begins with this value, and the line behind it does not go on with a number, so without
floating-point numbers the reply is known from the output (`replies_survive_printing`).
-/

namespace AnalyzerAdmin

open Dialogue CommandLine

def firstJson? (xs : List (Exchange Request Reply)) : Option Json :=
  xs.head?.bind fun x => x.answer.json?

theorem Reply.exists_text {reply : Reply} {v : Json} (h : reply.json? = some v) :
    ∃ text, Json.read text = .ok v := by
  obtain ⟨text, -, hread⟩ := Option.bind_eq_some_iff.mp h
  refine ⟨text, ?_⟩
  cases hr : Json.read text with
  | error stop =>
    rw [hr] at hread
    cases hread
  | ok w =>
    rw [hr] at hread
    cases hread
    rfl

theorem Session.exists_getJson {server : Server} {url text : String} {v : Json}
    {t : Transcript Request Reply} (htext : ((getText url).run.run server t).1 = .ok text)
    (hread : Json.read text = .ok v) : ∃ t₁, (getJson url).run.run server t = (.ok v, t₁) := by
  rcases hr : (getText url).run.run server t with ⟨result, t₁⟩
  rw [hr] at htext
  obtain rfl : result = .ok text := htext
  refine ⟨t₁, ?_⟩
  rw [getJson, run_seq_ok server _ hr, hread]
  rfl

theorem firstJson?_of_text {xs : List (Exchange Request Reply)} {text : String} {v : Json}
    (htext : xs.head?.bind (fun x => x.answer.text?) = some text)
    (hread : Json.read text = .ok v) : firstJson? xs = some v := by
  obtain ⟨x, hx, hanswer⟩ := Option.bind_eq_some_iff.mp htext
  rw [firstJson?, hx, Option.bind_some, Reply.json?, hanswer, Option.bind_some, hread]
  rfl

namespace Session.Single

variable {server : Server} {e : Errand} {s : Session Json} {t t₁ : Transcript Request Reply}

theorem firstJson?_of_ok (h : s.Single server e Reply.json?) (hempty : t.exchanges = []) {v : Json}
    (hr : s.run.run server t = (.ok v, t₁)) : firstJson? t₁.exchanges = some v := by
  obtain ⟨x, hx, -, hjson⟩ := h.obtains hr
  rw [hx, hempty]
  exact hjson

theorem firstJson?_of_error (h : s.Single server e Reply.json?) (hempty : t.exchanges = [])
    {failure : Failure} (hr : s.run.run server t = (.error failure, t₁)) :
    firstJson? t₁.exchanges = none := by
  have hexchanges := exchanges_run server s.run t
  rw [hr, hempty, List.nil_append] at hexchanges
  rw [hexchanges]
  cases hq : e.request with
  | error fault =>
    rw [(h.unmade hq t).1]
    rfl
  | ok q =>
    obtain ⟨hmade, hvalue⟩ := h.asked hq t
    rw [hr] at hvalue
    rw [hmade]
    exact hvalue.symm

end Session.Single

namespace Program

def showsReply : Command → Bool
  | .verify | .getMetrics | .getBatch _ => true
  | _ => false

/-- What a command that shows its first reply comes to, by its exchanges and its output. Only
`verify` can have a reply and print nothing, or fail behind what it prints, or print more. -/
inductive Presents (command : Command) (xs : List (Exchange Request Reply)) (stdout : String) :
    Except Abort Unit → Prop
  | nothing {abort : Abort} : stdout = "" → (command ≠ .verify → firstJson? xs = none) →
      Presents command xs stdout (.error abort)
  | reply {v : Json} {rest : String} {r : Except Abort Unit} : firstJson? xs = some v →
      stdout = v.pretty ++ ("\n" ++ rest) → (command ≠ .verify → r = .ok () ∧ rest = "") →
      Presents command xs stdout r

variable {server : Server} {c : Client} {command : Command}

theorem lines_cons (text : String) (texts : List String) :
    lines (text :: texts) = text ++ ("\n" ++ lines texts) := by
  rw [lines, List.map_cons, String.join_cons, String.append_assoc]
  rfl

theorem presents_stage {e : Errand} {s : Session Json} (hsingle : s.Single server e Reply.json?)
    (hs : Silent server s) {t t₁ : Transcript Request Reply} {r : Except Abort Unit}
    (hempty : t.exchanges = []) (hblank : Event.output t.events = [])
    (h : Stage server s Json.pretty t r t₁) :
    Presents command t₁.exchanges (lines (Event.output t₁.events)) r := by
  have houtput := hs t
  rw [hblank] at houtput
  cases h with
  | failed hr =>
    rw [hr] at houtput
    rw [houtput]
    exact .nothing rfl fun _ => hsingle.firstJson?_of_error hempty hr
  | @printed t₂ v hr =>
    rw [hr] at houtput
    rw [Transcript.output_printed, houtput, List.nil_append, lines_cons]
    have hreply : firstJson? t₂.exchanges = some v := hsingle.firstJson?_of_ok hempty hr
    exact .reply hreply rfl fun _ => ⟨rfl, rfl⟩

theorem presents_description {reads : List (Exchange Request Reply)} {text : String}
    (hdescribes : c.Describes reads text) (rest : List (Exchange Request Reply))
    (texts : List String) (r : Except Abort Unit) :
    Presents .verify (reads ++ rest) (lines (text :: texts)) r := by
  obtain ⟨x, y, z, root, nodes, plugins, rfl, hroot, -, -, rfl⟩ := hdescribes
  have hlines : lines ((root.pretty ++ "\n\n" ++ nodes ++ "\n" ++ plugins) :: texts) =
      root.pretty ++ ("\n" ++ ("\n" ++ nodes ++ "\n" ++ plugins ++ "\n" ++ lines texts)) := by
    have hblank : "\n\n" = "\n" ++ "\n" := rfl
    simp only [lines_cons, hblank, String.append_assoc]
  exact .reply hroot.2 hlines fun h => absurd rfl h

theorem presents_verify {settling : Settling} {now : Int} {t t₁ : Transcript Request Reply}
    {r : Except Abort Unit} (hempty : t.exchanges = []) (hblank : Event.output t.events = [])
    (hr : (perform c settling now .verify).run.run server t = (r, t₁)) :
    Presents .verify t₁.exchanges (lines (Event.output t₁.events)) r := by
  rcases prints_verify hempty hblank hr with ⟨abort, rfl, ⟨hnothing, -⟩ | hleft⟩ | ⟨rfl, hverifies⟩
  · rw [hnothing]
    exact .nothing rfl fun h => absurd rfl h
  · obtain ⟨reads, rest, text, hxs, hdescribes, htexts, -⟩ := hleft
    rw [hxs, htexts]
    exact presents_description hdescribes rest [] _
  · obtain ⟨before, text, t₂, t₃, hnone, hfirst, hsecond, hxs, htexts⟩ := hverifies
    obtain ⟨reads, hreads, hdescribes⟩ := Client.describes_of_run hfirst
    have hexchanges := exchanges_run server c.verify.run (t₂.printed text)
    rw [hsecond, Transcript.printed, hreads, hnone, List.nil_append] at hexchanges
    rw [hxs, hexchanges, htexts]
    exact presents_description hdescribes _ [verifiedLine] _

theorem presents_perform {settling : Settling} {now : Int} (hshows : showsReply command = true)
    {t t₁ : Transcript Request Reply} {r : Except Abort Unit} (hempty : t.exchanges = [])
    (hblank : Event.output t.events = [])
    (hr : (perform c settling now command).run.run server t = (r, t₁)) :
    Presents command t₁.exchanges (lines (Event.output t₁.events)) r := by
  cases command with
  | verify => exact presents_verify hempty hblank hr
  | getMetrics =>
    have hstage := stage_getMetrics server c settling now t
    rw [hr] at hstage
    exact presents_stage (c.single_metrics server) c.silent_metrics hempty hblank hstage
  | getBatch tokens =>
    cases ho : batchOptions tokens with
    | error fault =>
      simp only [perform, ho] at hr
      cases hr
      rw [hempty, hblank]
      exact .nothing rfl fun _ => rfl
    | ok options =>
      have hstage := stage_getBatch server c settling now ho t
      rw [hr] at hstage
      exact presents_stage (c.single_batchMetrics server _ options)
        (c.silent_batchMetrics _ options) hempty hblank hstage
  | getState | enableMetrics | enableBatch | reset => cases hshows

section Runs

structure ReplyRun where
  args : List String
  filter : Log.Filter
  now : Int
  server : Server
  invocation : Invocation
  command : Command
  isRead : Invocation.read args = .ok invocation
  isGiven : invocation.command = some command
  shows : showsReply command = true

namespace ReplyRun

def outcome (r : ReplyRun) : Outcome := run r.args r.filter r.now r.server

def reply? (r : ReplyRun) : Option Json := firstJson? r.outcome.exchanges

theorem exists_presents (r : ReplyRun) :
    ∃ result, r.outcome.exit = (if result.isOk then 0 else 1) ∧
      Presents r.command r.outcome.exchanges r.outcome.stdout result := by
  obtain ⟨result, t, hrun, -, hends⟩ :=
    exists_performed r.isRead r.isGiven r.filter r.now r.server
  rw [outcome, hrun, ofTranscript_exit, ofTranscript_exchanges, ofTranscript_stdout]
  refine ⟨result, rfl, ?_⟩
  rcases hends with ⟨fault, rfl, hexchanges, houtput⟩ | ⟨settling, t₀, -, hempty, hblank, hr⟩
  · rw [hexchanges, houtput]
    exact .nothing rfl fun _ => rfl
  · exact presents_perform r.shows hempty hblank hr

variable {r : ReplyRun} {v : Json}

theorem stdout_ne_of_exit (h : r.outcome.exit = 0) : r.outcome.stdout ≠ "" := by
  obtain ⟨result, hexit, hpresents⟩ := r.exists_presents
  cases hpresents with
  | nothing =>
    rw [h] at hexit
    cases hexit
  | reply _ hstdout _ =>
    rw [hstdout]
    intro hempty
    have htail := (String.append_eq_empty_iff.mp hempty).2
    exact absurd (String.append_eq_empty_iff.mp htail).1 (by decide)

theorem stdout_of_metrics (hreply : r.reply? = some v) (h : r.command ≠ .verify) :
    r.outcome.exit = 0 ∧ r.outcome.stdout = v.pretty ++ "\n" := by
  obtain ⟨result, hexit, hpresents⟩ := r.exists_presents
  cases hpresents with
  | nothing _ hnone =>
    rw [reply?, hnone h] at hreply
    cases hreply
  | reply hsome hstdout honly =>
    obtain ⟨rfl, rfl⟩ := honly h
    rw [reply?, hsome] at hreply
    obtain rfl := Option.some.inj hreply
    exact ⟨hexit, hstdout⟩

theorem exists_reply (h : r.outcome.stdout ≠ "") :
    ∃ v rest, r.reply? = some v ∧ r.outcome.stdout = v.pretty ++ ("\n" ++ rest) := by
  obtain ⟨result, -, hpresents⟩ := r.exists_presents
  cases hpresents with
  | nothing hempty => exact absurd hempty h
  | reply hreply hstdout _ => exact ⟨_, _, hreply, hstdout⟩

theorem regular_of_reply (hreply : r.reply? = some v) (hv : v.Integral) :
    v.Regular Json.depthLimit := by
  obtain ⟨x, -, hx⟩ := Option.bind_eq_some_iff.mp hreply
  exact Json.regular_iff.mpr ⟨hv, Reply.exists_text hx⟩

theorem leading?_stdout (hreply : r.reply? = some v) (hv : v.Integral)
    (h : r.outcome.stdout ≠ "") : Json.leading? r.outcome.stdout = some v := by
  obtain ⟨w, rest, hw, hstdout⟩ := exists_reply h
  rw [hreply] at hw
  obtain rfl := Option.some.inj hw
  have hnewline : Json.Numeral.Ends ("\n" ++ rest).toList := by
    rw [String.toList_append]
    exact Json.Numeral.ends_cons (by decide) _
  rw [hstdout]
  exact Json.leading?_pretty_append (regular_of_reply hreply hv) hnewline

end ReplyRun

/-- A reply without floating-point numbers survives its printing. The values that come back from
their indented text are those of the shape that is read, so every reply does, and is printed again
as the same text. What a run prints of a reply tells which one it was: metrics are printed alone,
and the root information is found in front of what `verify` prints. -/
theorem replies_survive_printing {v : Json} (hv : v.Integral) :
    (v.Regular Json.depthLimit ↔ Json.read v.pretty = .ok v) ∧
      (∀ url server t t₁, (Session.getJson url).run.run server t = (.ok v, t₁) →
        v.Regular Json.depthLimit ∧ Json.read v.pretty = .ok v ∧
          ∀ w, Json.read v.pretty = .ok w → w.pretty = v.pretty) ∧
      ∀ r : ReplyRun, r.reply? = some v →
        (r.command ≠ .verify → r.outcome.exit = 0 ∧ r.outcome.stdout = v.pretty ++ "\n" ∧
          Json.read r.outcome.stdout = .ok v) ∧
        (r.outcome.exit = 0 → r.outcome.stdout ≠ "") ∧
        (r.outcome.stdout ≠ "" → Json.leading? r.outcome.stdout = some v ∧
          ∀ s : ReplyRun, s.outcome.stdout = r.outcome.stdout →
            ∃ w, s.reply? = some w ∧ (w.Integral → w = v)) := by
  have hregular : v.Regular Json.depthLimit ↔ ∃ text, Json.read text = .ok v := by
    rw [Json.regular_iff, and_iff_right hv]
  refine ⟨⟨Json.read_pretty, fun h => hregular.mpr ⟨_, h⟩⟩, fun url server t t₁ hr => ?_,
    fun r hreply => ⟨fun hcommand => ?_, ReplyRun.stdout_ne_of_exit, fun hstdout => ⟨?_, ?_⟩⟩⟩
  · obtain ⟨x, -, -, hx⟩ := (Session.single_getJson server url).obtains hr
    have hshape := hregular.mpr (Reply.exists_text hx)
    have hread := Json.read_pretty hshape
    refine ⟨hshape, hread, fun w hw => ?_⟩
    rw [hread] at hw
    rw [Except.ok.inj hw]
  · obtain ⟨hexit, hstdout⟩ := ReplyRun.stdout_of_metrics hreply hcommand
    have hblank : Json.IsBlank "\n".toList := by decide
    refine ⟨hexit, hstdout, ?_⟩
    rw [hstdout]
    exact Json.read_pretty_append (ReplyRun.regular_of_reply hreply hv) hblank
  · exact ReplyRun.leading?_stdout hreply hv hstdout
  · intro s hsame
    rw [← hsame] at hstdout
    obtain ⟨w, rest, hw, -⟩ := ReplyRun.exists_reply hstdout
    refine ⟨w, hw, fun hintegral => ?_⟩
    -- One output begins with one value.
    have hsecond := ReplyRun.leading?_stdout hw hintegral hstdout
    rw [hsame] at hstdout hsecond
    rw [ReplyRun.leading?_stdout hreply hv hstdout] at hsecond
    exact (Option.some.inj hsecond).symm

def bothLimits : Json :=
  .obj [("\"\x00", .arr [.int 18446744073709551615, .int (-9223372036854775808), .obj []]),
    ("😀", .arr [])]

theorem regular_bothLimits : bothLimits.Regular Json.depthLimit := by
  refine .obj (by decide) (List.forall_mem_cons.mpr ⟨.arr ?_, ?_⟩)
  · simp only [List.forall_mem_cons]
    exact ⟨.int (by decide) (by decide), .int (by decide) (by decide), .obj .nil nofun, nofun⟩
  · exact List.forall_mem_singleton.mpr (.arr nofun)

theorem replies_survive_printing_both_limits :
    bothLimits.pretty =
        "\x7b\n    \"\\\"\\u0000\": [\n        18446744073709551615,\n" ++
          "        -9223372036854775808,\n        \x7b\x7d\n    ],\n    \"😀\": []\n\x7d" ∧
      bothLimits.Integral ∧
      (∃ server t t₁, (Session.getJson "http://[::1]/").run.run server t = (.ok bothLimits, t₁)) ∧
      Json.read bothLimits.pretty = .ok bothLimits ∧
      ∃ r : ReplyRun, r.args = ["get_metrics", "--host", "[::1]"] ∧ r.reply? = some bothLimits ∧
        Json.leading? r.outcome.stdout = some bothLimits := by
  obtain ⟨hread, hreplies, hruns⟩ := replies_survive_printing regular_bothLimits.integral
  have hback := hread.mp regular_bothLimits
  let server : Server := Server.scripted [.answer 200 bothLimits.pretty.toUTF8.toList true]
  have hasked : ((Session.getText "http://[::1]/").run.run server {}).1 =
      .ok bothLimits.pretty := by decide +kernel
  obtain ⟨t₁, hreply⟩ := Session.exists_getJson hasked hback
  let r : ReplyRun := ⟨["get_metrics", "--host", "[::1]"], Log.Filter.standard, 0, server,
    ⟨{ host := some "[::1]" }, some .getMetrics⟩, .getMetrics, rfl, rfl, rfl⟩
  have htext : r.outcome.exchanges.head?.bind (fun x => x.answer.text?) =
      some bothLimits.pretty := by decide +kernel
  have hshown : r.reply? = some bothLimits := firstJson?_of_text htext hback
  obtain ⟨hmetrics, hprints, hfirst⟩ := hruns r hshown
  obtain ⟨hexit, -⟩ := hmetrics Command.noConfusion
  exact ⟨by decide +kernel, regular_bothLimits.integral, ⟨server, {}, t₁, hreply⟩,
    (hreplies _ server {} t₁ hreply).2.1, r, rfl, hshown, (hfirst (hprints hexit)).1⟩

end Runs

end Program

end AnalyzerAdmin
