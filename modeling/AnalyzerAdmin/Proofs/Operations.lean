import AnalyzerAdmin.Proofs.Endpoints
import Mathlib.Data.List.Infix

/-!
# Operations of one request

Reading a state, switching and fetching metrics are single. The checks of the topology ask nothing:
what they look at decides what they give. Verification is three questions, each with the check of
its answer (`verify_eq`).
-/

namespace AnalyzerAdmin

open Dialogue

def Json.version? (root : Json) : Option Json := (root.get? "version").bind (·.get? "number")

/-- What a cluster says of itself fits: its version, and the node that answered. -/
def Topology.fits (t : Topology) (root : Json) : Bool :=
  match root.version?, root.get? "name" with
  | some (.str version), some (.str name) => version = t.version && t.nodes.contains name
  | _, _ => false

inductive Listing
  | nodes
  | plugins

namespace Listing

def endpoint : Listing → Endpoint
  | .nodes => .nodes
  | .plugins => .plugins

def piece : Listing → String → String
  | .nodes, node => node
  | .plugins, node => node ++ " opendistro_performance_analyzer"

def mismatch : Listing → String → Mismatch
  | .nodes => .missingNode
  | .plugins => .missingPlugin

def Shows (l : Listing) (text node : String) : Prop := (l.piece node).toList <:+: text.toList

instance (l : Listing) (text node : String) : Decidable (l.Shows text node) :=
  inferInstanceAs (Decidable ((l.piece node).toList <:+: text.toList))

def showsAll (l : Listing) (nodes : List String) (text : String) : Bool :=
  nodes.all fun node => l.Shows text node

end Listing

theorem occursIn_iff {piece text : List Char} : occursIn piece text = true ↔ piece <:+: text := by
  induction text with
  | nil => rw [occursIn, List.isEmpty_iff, List.infix_nil]
  | cons c rest ih =>
    rw [occursIn, Bool.or_eq_true, List.isPrefixOf_iff_prefix, ih, List.infix_cons_iff]

theorem isListed_eq (l : Listing) (text node : String) :
    isListed text (l.piece node) = decide (l.Shows text node) := by
  rw [Bool.eq_iff_iff, decide_eq_true_iff]
  exact occursIn_iff

def asText (name : String) (value : Option Json) : Except Failure String :=
  match value with
  | none => .error (.body (.missingField name))
  | some json =>
    match json.str? with
    | some text => .ok text
    | none => .error (.body (.wrongType name .string))

theorem textAt_version (root : Json) :
    textAt root ["version", "number"] = asText "version.number" root.version? := rfl

theorem textAt_name (root : Json) : textAt root ["name"] = asText "name" (root.get? "name") := rfl

theorem fits_eq (t : Topology) (root : Json) :
    t.fits root = ((asText "version.number" root.version?).toOption.any (· = t.version) &&
      (asText "name" (root.get? "name")).toOption.any t.expects) := by
  rw [Topology.fits]
  rcases root.version? with _ | (_ | _ | _ | _ | version | _ | _)
  case some.str =>
    rcases root.get? "name" with _ | (_ | _ | _ | _ | name | _ | _)
    case some.str => rfl
    all_goals exact (Bool.and_false _).symm
  all_goals rfl

namespace Client

variable (server : Server) (c : Client)

def asking (e : Endpoint) : Errand := e.errand c.address

theorem asking_listing (l : Listing) :
    c.asking l.endpoint = ⟨.get, l.endpoint.url c.address, none⟩ := by
  cases l <;> rfl

theorem single_readState (scope : Scope) :
    Session.Single server (c.asking (.state scope)) (·.state? scope) (c.readState scope) := by
  rw [asking, Endpoint.errand_state, readState]
  apply (Session.single_getJson server _).seq
  intro body
  simpa using (Session.gives_mapError Failure.body (State.ofBody scope body)).seq
    fun state => Session.gives_log_seq (Gives.pure state) _ _ _

theorem single_switch (f : Feature) (on : Bool) (scope : Scope) :
    Session.Single server (c.asking (.switch f on scope))
      (fun reply => reply.body?.bind fun _ => some ()) (c.switch f on scope) := by
  rw [asking, Endpoint.errand_switch, switch]
  apply Session.Single.behind (Gives.tell _)
  exact (Session.single_request server
    ⟨.post, c.address.url (switchPath f scope), some (switchBody on)⟩).seq fun _ => Gives.tell _

theorem single_metrics :
    Session.Single server (c.asking .metrics) Reply.json? c.metrics := by
  rw [asking, Endpoint.errand_metrics, metrics]
  simpa using (Session.single_getJson server _).seq
    fun json => Session.gives_log_seq (Gives.pure json) _ _ _

theorem single_batchMetrics (window : Window) (options : BatchOptions) :
    Session.Single server (c.asking (.batch window options)) Reply.json?
      (c.batchMetrics window options) := by
  rw [asking, Endpoint.errand_batch, batchMetrics]
  simpa using (Session.single_getJson server _).seq
    fun json => Session.gives_log_seq (Gives.pure json) _ _ _

theorem single_getText (l : Listing) :
    Session.Single server (c.asking l.endpoint) Reply.text?
      (Session.getText (l.endpoint.url c.address)) := by
  rw [asking_listing]
  exact Session.single_getText server _

theorem gives_refuse {α : Type} (check : Mismatch) : Gives (refuse check : Session α) none :=
  Session.gives_log_seq (Gives.throw _) _ _ _

theorem gives_unless {α : Type} {s : Session α} {o : Option α} (h : Gives s o) (isBad : Prop)
    [Decidable isBad] (check : Mismatch) :
    Gives (do
      if isBad then refuse check
      s) (if isBad then none else o) := by
  by_cases hb : isBad
  · simp only [if_pos hb]
    exact (gives_refuse (α := Unit) check).seq fun _ => h
  · simp only [if_neg hb]
    exact h

theorem gives_checkRoot (root : Json) :
    Gives (c.checkRoot root) (if c.topology.fits root then some c.topology.version else none) := by
  have hname (version : String) := (Session.gives_ofExcept (textAt root ["name"])).seq fun name =>
    gives_unless (Gives.pure version) ((!c.topology.expects name) = true) (.unexpectedNode name)
  have hroot := (Session.gives_ofExcept (textAt root ["version", "number"])).seq fun version =>
    gives_unless (hname version) (version ≠ c.topology.version)
      (.version c.topology.version version)
  have hv : (if c.topology.fits root then some c.topology.version else none) =
      (textAt root ["version", "number"]).toOption.bind fun version =>
        if version ≠ c.topology.version then none
        else (textAt root ["name"]).toOption.bind fun name =>
          if (!c.topology.expects name) = true then none else some version := by
    rw [fits_eq, textAt_version, textAt_name]
    cases (asText "version.number" root.version?).toOption with
    | none => simp
    | some version =>
      by_cases he : version = c.topology.version
      · cases (asText "name" (root.get? "name")).toOption with
        | none => simp [he]
        | some name => cases hx : c.topology.expects name <;> simp [he, hx]
      · simp [he]
  rw [hv]
  exact hroot

theorem gives_refuseFirst (isFine : String → Bool) (check : String → Mismatch)
    (nodes : List String) :
    Gives (match nodes.find? fun node => !isFine node with
      | some node => refuse (check node)
      | none => return : Session Unit) (if nodes.all isFine then some () else none) := by
  cases h : nodes.find? fun node => !isFine node with
  | some node =>
    have hl : nodes.all isFine = false := by
      rw [List.all_eq_false]
      exact ⟨node, List.mem_of_find?_eq_some h, by simpa using List.find?_some h⟩
    rw [hl]
    exact gives_refuse _
  | none =>
    have hl : nodes.all isFine = true := by simpa using h
    rw [hl]
    exact .pure ()

def checkListing (l : Listing) (text : String) : Session Unit :=
  match c.topology.nodes.find? fun node => !isListed text (l.piece node) with
  | some node => refuse (l.mismatch node)
  | none => return

theorem checkNodes_eq (text : String) : c.checkNodes text = c.checkListing .nodes text := rfl

theorem checkPlugins_eq (text : String) : c.checkPlugins text = c.checkListing .plugins text := by
  have hpiece (node : String) : node ++ " " ++ pluginName = Listing.plugins.piece node :=
    String.append_assoc
  simp only [checkPlugins, hpiece]
  rfl

theorem gives_checkListing (l : Listing) (text : String) :
    Gives (c.checkListing l text)
      (if l.showsAll c.topology.nodes text then some () else none) := by
  have hall : l.showsAll c.topology.nodes text =
      c.topology.nodes.all fun node => isListed text (l.piece node) := by
    simp only [Listing.showsAll, isListed_eq]
  rw [hall]
  exact gives_refuseFirst _ _ _

def rootCheck : Session String := Session.getJson (Endpoint.root.url c.address) >>= c.checkRoot

def listingCheck (l : Listing) : Session Unit :=
  Session.getText (l.endpoint.url c.address) >>= c.checkListing l

theorem verify_eq :
    c.verify = (c.rootCheck >>= fun version => c.listingCheck .nodes >>= fun _ =>
      c.listingCheck .plugins >>= fun _ => Session.log .info "cluster config verified"
        [("version", Text.quoted version), ("nodes", Text.quotedList c.topology.nodes)]) := by
  simp only [verify, rootCheck, listingCheck, bind_assoc, checkNodes_eq, checkPlugins_eq]
  rfl

end Client

end AnalyzerAdmin
