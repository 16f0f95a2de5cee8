import AnalyzerAdmin.Proofs.Sides
import AnalyzerAdmin.Proofs.Verification

/-!
# The nodes that a command line names

The expected nodes of a command line are those that are named behind its command, if any are, and
else those that are named before it. So all that are named are expected exactly if they are named on
one side, and a verification that succeeds has then found each of them.
-/

namespace AnalyzerAdmin

open Dialogue

namespace Client

variable {c : Client} {server : Server} {t : Transcript Request Reply}

/-- A verification has read both listings, and each shows all of the nodes. -/
def HasShown (c : Client) (server : Server) (t : Transcript Request Reply) (nodes : List String) :
    Prop :=
  ∃ xs ys zs listing plugins, made server c.verify.run t = xs ++ (ys ++ zs) ∧
    (c.asking .nodes).Brings server Reply.text (t.exchanges ++ xs) t.clock ys (.ok listing) ∧
    (c.asking .plugins).Brings server Reply.text (t.exchanges ++ xs ++ ys) t.clock zs
      (.ok plugins) ∧
    ∀ node ∈ nodes, Listing.nodes.Shows listing node ∧ Listing.plugins.Shows plugins node

theorem hasShown_of_verify (h : (c.verify.run.run server t).1 = .ok ()) :
    c.HasShown server t c.topology.nodes := by
  obtain ⟨made, r, hverdict⟩ := c.exists_verdict server t.exchanges t.clock
  obtain ⟨hmade, hresult⟩ := made_of_verdict hverdict
  rw [h] at hresult
  subst hresult
  cases hverdict with
  | verified hroot hnodes hplugins =>
    obtain ⟨listing, hlisting, hnodes⟩ := hnodes
    obtain ⟨plugins, hplugins, hinstalled⟩ := hplugins
    exact ⟨_, _, _, listing, plugins, hmade, hlisting, hplugins,
      fun node hnode => ⟨hnodes node hnode, hinstalled node hnode⟩⟩

theorem HasShown.subset {nodes others : List String} (h : c.HasShown server t nodes)
    (hsub : others ⊆ nodes) : c.HasShown server t others := by
  obtain ⟨xs, ys, zs, listing, plugins, hmade, hlisting, hplugins, hshown⟩ := h
  exact ⟨xs, ys, zs, listing, plugins, hmade, hlisting, hplugins,
    fun node hnode => hshown node (hsub hnode)⟩

end Client

namespace CommandLine

variable {s t : Settings} {o : Opt} {text : String} {groups : List Group}

def Settings.client (s : Settings) : Client := ⟨s.address, s.topology⟩

def named (groups : List Group) : List String := groups.filterMap (Group.text? .expectedNode)

theorem expectedNodes_of_give (h : s.give o text = .ok t) :
    t.expectedNodes = s.expectedNodes ++ if o = .expectedNode then [text] else [] := by
  have hassign : s.assign o text = .ok t := by
    unfold Settings.give at h
    split_ifs at h
    cases hassign : s.assign o text with
    | error fault =>
      rw [hassign] at h
      cases h
    | ok t' =>
      rw [hassign] at h
      exact congrArg Except.ok (Except.ok.inj h)
  cases o with
  | expectedNode =>
    cases hassign
    rfl
  | scheme | host | expectedVersion =>
    cases hassign
    exact (List.append_nil _).symm
  | port | metricsPort | timeout | settle | pollTimeout =>
    obtain ⟨value, -, rfl⟩ := map_ok hassign
    exact (List.append_nil _).symm

theorem expectedNodes_of_take {g : Group} (h : s.take g = .ok t) :
    t.expectedNodes = s.expectedNodes ++ named [g] := by
  cases g with
  | value o text isJoined =>
    rw [expectedNodes_of_give h, named]
    by_cases ho : o = .expectedNode
    · have htext : (Group.value o text isJoined).text? .expectedNode = some text := if_pos ho
      rw [if_pos ho, List.filterMap_cons_some htext, List.filterMap_nil]
    · have htext : (Group.value o text isJoined).text? .expectedNode = none := if_neg ho
      rw [if_neg ho, List.filterMap_cons_none htext, List.filterMap_nil]
  | poll =>
    unfold Settings.take Settings.givePoll at h
    split_ifs at h
    cases h
    exact (List.append_nil _).symm

theorem expectedNodes_of_groups (h : groups.foldlM Settings.take s = .ok t) :
    t.expectedNodes = s.expectedNodes ++ named groups := by
  induction groups generalizing s with
  | nil =>
    cases h
    exact (List.append_nil _).symm
  | cons g groups ih =>
    obtain ⟨s₁, htake, hgroups⟩ := bind_ok h
    rw [ih hgroups, expectedNodes_of_take htake, List.append_assoc, named, named, named,
      ← List.filterMap_append, List.singleton_append]

/-- Every command line that is read divides in one way, and its expected nodes are those that are
named behind the command, or else those before it, or else the default ones. These are all that are
named exactly if none are named before the command or none behind it; and then a verification that
succeeds has found each of them in both listings. -/
theorem expected_nodes_named {args : List String} {invocation : Invocation}
    (h : Invocation.read args = .ok invocation) :
    ∃ before behind, Divides args invocation.command before behind ∧
      (∀ before' behind', Divides args invocation.command before' behind' →
        before' = before ∧ behind' = behind) ∧
      invocation.settings.topology.nodes =
        (if named behind ≠ [] then named behind
          else if named before ≠ [] then named before
          else ["elasticsearch1", "elasticsearch2"]) ∧
      (invocation.settings.expectedNodes = [] ↔ named (before ++ behind) = []) ∧
      (invocation.settings.expectedNodes = named (before ++ behind) ↔
        named before = [] ∨ named behind = []) ∧
      ∀ (server : Server) (t : Transcript Request Reply), named before = [] ∨ named behind = [] →
        (invocation.settings.client.verify.run.run server t).1 = .ok () →
        invocation.settings.client.HasShown server t (named (before ++ behind)) := by
  obtain ⟨before, behind, outer, inner, hdivides, hbefore, hbehind, hsettings⟩ := exists_divides h
  have houter : outer.expectedNodes = named before := expectedNodes_of_groups hbefore
  have hinner : inner.expectedNodes = named behind := expectedNodes_of_groups hbehind
  have hnodes : invocation.settings.expectedNodes =
      if named behind = [] then named before else named behind := by
    rw [hsettings, ← houter, ← hinner]
    rfl
  have hall : named (before ++ behind) = named before ++ named behind := List.filterMap_append
  have hkept : invocation.settings.expectedNodes = named (before ++ behind) ↔
      named before = [] ∨ named behind = [] := by
    rw [hnodes, hall]
    split_ifs with hnone
    · simp [hnone]
    · simp [hnone]
  refine ⟨before, behind, hdivides, fun before' behind' h' => h'.unique hdivides rfl, ?_, ?_, hkept,
    fun server t hside hverify => ?_⟩
  · rw [Settings.topology, hnodes]
    split_ifs <;> simp_all
  · rw [hnodes, hall]
    split_ifs with hnone
    · simp [hnone]
    · simp [hnone]
  · refine (Client.hasShown_of_verify hverify).subset fun node hnode => ?_
    have hexpected := hkept.mpr hside
    have hne : invocation.settings.expectedNodes ≠ [] := by
      rw [hexpected]
      exact List.ne_nil_of_mem hnode
    change node ∈ invocation.settings.topology.nodes
    rwa [Settings.topology, if_neg hne, hexpected]

theorem expected_nodes_named_behind :
    ∃ invocation,
      Invocation.read ["verify", "--expected-node", "a", "--expected-node=b"] = .ok invocation ∧
      Divides ["verify", "--expected-node", "a", "--expected-node=b"] invocation.command []
        [.value .expectedNode "a" false, .value .expectedNode "b" true] ∧
      invocation.settings.expectedNodes = ["a", "b"] := by
  let invocation : Invocation := ⟨{ expectedNodes := ["a", "b"] }, some .verify⟩
  have hread : Invocation.read ["verify", "--expected-node", "a", "--expected-node=b"] =
      .ok invocation := by rfl
  have hbehind : Consists Command.verify.takesTokens
      (["--expected-node", "a"] ++ (["--expected-node=b"] ++ []))
      [.value .expectedNode "a" false, .value .expectedNode "b" true] :=
    .group (g := .value .expectedNode "a" false) (Word.of_clear (by decide))
      (.group (g := .value .expectedNode "b" true) trivial .nil)
  have hdivides : Divides ["verify", "--expected-node", "a", "--expected-node=b"]
      invocation.command [] [.value .expectedNode "a" false, .value .expectedNode "b" true] :=
    Divides.commanded .nil hbehind (.inl rfl)
  obtain ⟨before, behind, -, hunique, -, -, hkept, -⟩ := expected_nodes_named hread
  obtain ⟨rfl, rfl⟩ := hunique _ _ hdivides
  exact ⟨invocation, hread, hdivides, hkept.mpr (.inl rfl)⟩

/-- A node that is named before the command is not expected if another is named behind it. -/
theorem expected_node_dropped :
    ∃ invocation, Invocation.read ["--expected-node", "a", "verify", "--expected-node", "b"] =
        .ok invocation ∧
      Divides ["--expected-node", "a", "verify", "--expected-node", "b"] invocation.command
        [.value .expectedNode "a" false] [.value .expectedNode "b" false] ∧
      named ([.value .expectedNode "a" false] ++ [.value .expectedNode "b" false]) = ["a", "b"] ∧
      invocation.settings.topology.nodes = ["b"] := by
  have hgroup (takesTokens : Bool) (text : String) (htext : text.toList.head? ≠ some '-') :
      Consists takesTokens (["--expected-node", text] ++ []) [.value .expectedNode text false] :=
    .group (g := .value .expectedNode text false) (Word.of_clear htext) .nil
  refine ⟨⟨{ expectedNodes := ["b"] }, some .verify⟩, rfl, ?_, rfl, rfl⟩
  exact Divides.commanded (hgroup false "a" (by decide))
    (hgroup Command.verify.takesTokens "b" (by decide)) (.inl rfl)

end CommandLine

end AnalyzerAdmin
