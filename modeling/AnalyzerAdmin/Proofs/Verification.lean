import AnalyzerAdmin.Proofs.CommandPlan
import AnalyzerAdmin.Proofs.Defects
import AnalyzerAdmin.Proofs.Outcome

/-!
# What verification comes to

A cluster is verified exactly if its root information is as expected and two listings show every
expected node. Otherwise the check that fails first says why, a check of a listing for the first
node that is missing, and nothing is asked behind it.
-/

namespace AnalyzerAdmin

open Dialogue

inductive TextDefect (name : String) (value : Option Json) : Failure → Prop
  | missing : value = none → TextDefect name value (.body (.missingField name))
  | noText {json : Json} : value = some json → (∀ text, json ≠ .str text) →
      TextDefect name value (.body (.wrongType name .string))

namespace Topology

variable (t : Topology)

structure Accepts (root : Json) : Prop where
  version : root.version? = some (.str t.version)
  node : ∃ name ∈ t.nodes, root.get? "name" = some (.str name)

inductive Objects (root : Json) : Failure → Prop
  | noVersion {failure : Failure} : TextDefect "version.number" root.version? failure →
      Objects root failure
  | otherVersion {actual : String} : root.version? = some (.str actual) → actual ≠ t.version →
      Objects root (.mismatch (.version t.version actual))
  | noName {failure : Failure} : root.version? = some (.str t.version) →
      TextDefect "name" (root.get? "name") failure → Objects root failure
  | otherNode {name : String} : root.version? = some (.str t.version) →
      root.get? "name" = some (.str name) → name ∉ t.nodes →
      Objects root (.mismatch (.unexpectedNode name))

end Topology

theorem Listing.shows_iff {l : Listing} {text node : String} :
    l.Shows text node ↔ isListed text (l.piece node) = true := occursIn_iff.symm

section Text

variable {name : String} {value : Option Json}

theorem asText_of_defect {failure : Failure} (h : TextDefect name value failure) :
    asText name value = .error failure := by
  cases h with
  | missing hnone => simp only [asText, hnone]
  | noText hsome hother =>
    rename_i json
    have hstr : json.str? = none := by
      cases json with
      | str text => exact absurd rfl (hother text)
      | _ => rfl
    simp only [asText, hsome, hstr]

theorem exists_text_or_defect (name : String) (value : Option Json) :
    (∃ text, value = some (.str text)) ∨ ∃ failure, TextDefect name value failure := by
  cases value with
  | none => exact .inr ⟨_, .missing rfl⟩
  | some json =>
    by_cases htext : ∃ text, json = .str text
    · obtain ⟨text, rfl⟩ := htext
      exact .inl ⟨text, rfl⟩
    · exact .inr ⟨_, .noText rfl (not_exists.mp htext)⟩

end Text

theorem Topology.accepts_or_objects (t : Topology) (root : Json) :
    t.Accepts root ∨ ∃ failure, t.Objects root failure := by
  rcases exists_text_or_defect "version.number" root.version? with ⟨actual, hversion⟩ | ⟨_, h⟩
  · by_cases hactual : actual = t.version
    · subst hactual
      rcases exists_text_or_defect "name" (root.get? "name") with ⟨name, hname⟩ | ⟨_, h⟩
      · by_cases hmem : name ∈ t.nodes
        · exact .inl ⟨hversion, name, hmem, hname⟩
        · exact .inr ⟨_, .otherNode hversion hname hmem⟩
      · exact .inr ⟨_, .noName hversion h⟩
    · exact .inr ⟨_, .otherVersion hversion hactual⟩
  · exact .inr ⟨_, .noVersion h⟩

namespace Client

open Session

variable {server : Server} {c : Client} {before xs ys zs : List (Exchange Request Reply)}
  {time : Nat} {failure : Failure}

theorem comes_refuse {α : Type} (check : Mismatch) :
    Comes server (refuse check : Session α) before time [] (.error (.mismatch check)) :=
  (Comes.log _ _ _).behind (.ofExcept (.error (.mismatch check)))

def checkNode (c : Client) (root : Json) : Session String := do
  let name ← Session.ofExcept (asText "name" (root.get? "name"))
  if !c.topology.expects name then refuse (.unexpectedNode name)
  return c.topology.version

theorem checkRoot_of_version {root : Json} (h : root.version? = some (.str c.topology.version)) :
    c.checkRoot root = c.checkNode root := by
  rw [checkRoot, textAt_version, textAt_name, h]
  refine (pure_bind (m := Session) _ _).trans ?_
  rw [if_neg (not_not.mpr rfl)]
  rfl

theorem comes_checkRoot_of_accepts {root : Json} (h : c.topology.Accepts root) :
    Comes server (c.checkRoot root) before time [] (.ok c.topology.version) := by
  obtain ⟨hversion, name, hmem, hname⟩ := h
  have hexpects : c.topology.expects name = true := List.contains_iff_mem.mpr hmem
  rw [checkRoot_of_version hversion, checkNode, hname]
  refine (Comes.ofExcept (.ok name)).behind ?_
  rw [hexpects]
  exact .ofExcept (.ok c.topology.version)

theorem comes_checkRoot_of_objects {root : Json} (h : c.topology.Objects root failure) :
    Comes server (c.checkRoot root) before time [] (.error failure) := by
  cases h with
  | noVersion h =>
    rw [checkRoot, textAt_version, asText_of_defect h]
    exact (Comes.ofExcept _).stop
  | @otherVersion actual hversion hactual =>
    rw [checkRoot, textAt_version, hversion]
    refine (Comes.ofExcept (.ok actual)).behind ?_
    rw [if_pos hactual]
    exact (comes_refuse _).stop
  | noName hversion h =>
    rw [checkRoot_of_version hversion, checkNode, asText_of_defect h]
    exact (Comes.ofExcept _).stop
  | @otherNode name hversion hname hmem =>
    have hexpects : c.topology.expects name = false := by
      rw [← Bool.not_eq_true]
      exact mt List.contains_iff_mem.mp hmem
    rw [checkRoot_of_version hversion, checkNode, hname]
    refine (Comes.ofExcept (.ok name)).behind ?_
    rw [hexpects]
    exact (comes_refuse _).stop

section Checks

variable (c : Client) (server : Server) (before : List (Exchange Request Reply)) (time : Nat)
  (l : Listing)

def RootPasses (xs : List (Exchange Request Reply)) : Prop :=
  ∃ root, (c.asking .root).Brings server Reply.json before time xs (.ok root) ∧
    c.topology.Accepts root

inductive RootFails : List (Exchange Request Reply) → Failure → Prop
  | unread {xs : List (Exchange Request Reply)} {failure : Failure} :
      (c.asking .root).Brings server Reply.json before time xs (.error failure) →
      RootFails xs failure
  | refused {xs : List (Exchange Request Reply)} {root : Json} {failure : Failure} :
      (c.asking .root).Brings server Reply.json before time xs (.ok root) →
      c.topology.Objects root failure → RootFails xs failure

def ListingPasses (xs : List (Exchange Request Reply)) : Prop :=
  ∃ text, (c.asking l.endpoint).Brings server Reply.text before time xs (.ok text) ∧
    ∀ node ∈ c.topology.nodes, l.Shows text node

inductive ListingFails : List (Exchange Request Reply) → Failure → Prop
  | unread {xs : List (Exchange Request Reply)} {failure : Failure} :
      (c.asking l.endpoint).Brings server Reply.text before time xs (.error failure) →
      ListingFails xs failure
  | missing {xs : List (Exchange Request Reply)} {text node : String} :
      (c.asking l.endpoint).Brings server Reply.text before time xs (.ok text) →
      IsFirst (fun node => ¬l.Shows text node) c.topology.nodes node →
      ListingFails xs (.mismatch (l.mismatch node))

/-- What verification comes to behind some exchanges: the check that fails first ends it. -/
inductive Verdict : List (Exchange Request Reply) → Except Failure Unit → Prop
  | root {xs : List (Exchange Request Reply)} {failure : Failure} :
      c.RootFails server before time xs failure → Verdict xs (.error failure)
  | nodes {xs ys : List (Exchange Request Reply)} {failure : Failure} :
      c.RootPasses server before time xs →
      c.ListingFails server (before ++ xs) time .nodes ys failure →
      Verdict (xs ++ ys) (.error failure)
  | plugins {xs ys zs : List (Exchange Request Reply)} {failure : Failure} :
      c.RootPasses server before time xs →
      c.ListingPasses server (before ++ xs) time .nodes ys →
      c.ListingFails server (before ++ xs ++ ys) time .plugins zs failure →
      Verdict (xs ++ (ys ++ zs)) (.error failure)
  | verified {xs ys zs : List (Exchange Request Reply)} :
      c.RootPasses server before time xs →
      c.ListingPasses server (before ++ xs) time .nodes ys →
      c.ListingPasses server (before ++ xs ++ ys) time .plugins zs →
      Verdict (xs ++ (ys ++ zs)) (.ok ())

end Checks

theorem root_passes_or_fails (c : Client) (server : Server)
    (before : List (Exchange Request Reply)) (time : Nat) :
    (∃ xs, c.RootPasses server before time xs) ∨
      ∃ xs failure, c.RootFails server before time xs failure := by
  obtain ⟨xs, r, hbrings⟩ := (c.asking .root).exists_brings server Reply.json before time
  cases r with
  | error failure => exact .inr ⟨xs, failure, .unread hbrings⟩
  | ok root =>
    rcases c.topology.accepts_or_objects root with haccepts | ⟨failure, hobjects⟩
    · exact .inl ⟨xs, root, hbrings, haccepts⟩
    · exact .inr ⟨xs, failure, .refused hbrings hobjects⟩

theorem listing_passes_or_fails (c : Client) (server : Server)
    (before : List (Exchange Request Reply)) (time : Nat) (l : Listing) :
    (∃ xs, c.ListingPasses server before time l xs) ∨
      ∃ xs failure, c.ListingFails server before time l xs failure := by
  obtain ⟨xs, r, hbrings⟩ := (c.asking l.endpoint).exists_brings server Reply.text before time
  cases r with
  | error failure => exact .inr ⟨xs, failure, .unread hbrings⟩
  | ok text =>
    rcases exists_isFirst_or (fun node => ¬l.Shows text node) c.topology.nodes with ⟨node, h⟩ | hall
    · exact .inr ⟨xs, _, .missing hbrings h⟩
    · exact .inl ⟨xs, text, hbrings, fun node hnode => not_not.mp (hall node hnode)⟩

theorem exists_verdict (c : Client) (server : Server) (before : List (Exchange Request Reply))
    (time : Nat) : ∃ xs r, c.Verdict server before time xs r := by
  rcases c.root_passes_or_fails server before time with ⟨xs, hroot⟩ | ⟨xs, failure, h⟩
  · rcases c.listing_passes_or_fails server (before ++ xs) time .nodes with
      ⟨ys, hnodes⟩ | ⟨ys, failure, h⟩
    · rcases c.listing_passes_or_fails server (before ++ xs ++ ys) time .plugins with
        ⟨zs, hplugins⟩ | ⟨zs, failure, h⟩
      · exact ⟨_, _, .verified hroot hnodes hplugins⟩
      · exact ⟨_, _, .plugins hroot hnodes h⟩
    · exact ⟨_, _, .nodes hroot h⟩
  · exact ⟨_, _, .root h⟩

theorem comes_rootCheck_of_passes (h : c.RootPasses server before time xs) :
    Comes server c.rootCheck before time xs (.ok c.topology.version) := by
  obtain ⟨root, hbrings, haccepts⟩ := h
  exact (comes_getJson hbrings).last (comes_checkRoot_of_accepts haccepts)

theorem comes_rootCheck_of_fails (h : c.RootFails server before time xs failure) :
    Comes server c.rootCheck before time xs (.error failure) := by
  cases h with
  | unread hbrings => exact (comes_getJson hbrings).stop
  | refused hbrings hobjects =>
    exact (comes_getJson hbrings).last (comes_checkRoot_of_objects hobjects)

theorem comes_listingCheck_of_passes {l : Listing}
    (h : c.ListingPasses server before time l xs) :
    Comes server (c.listingCheck l) before time xs (.ok ()) := by
  obtain ⟨text, hbrings, hshows⟩ := h
  have hnone : (c.topology.nodes.find? fun node => !isListed text (l.piece node)) = none := by
    rw [List.find?_eq_none]
    intro node hnode
    simpa using Listing.shows_iff.mp (hshows node hnode)
  refine (comes_getText (asking_listing c l ▸ hbrings)).last ?_
  simp only [checkListing, hnone]
  exact .ofExcept (.ok ())

theorem comes_listingCheck_of_fails {l : Listing}
    (h : c.ListingFails server before time l xs failure) :
    Comes server (c.listingCheck l) before time xs (.error failure) := by
  cases h with
  | unread hbrings => exact (comes_getText (asking_listing c l ▸ hbrings)).stop
  | @missing text node hbrings hfirst =>
    obtain ⟨front, back, hnodes, hfront, hnode⟩ := hfirst
    have hsome :
        (c.topology.nodes.find? fun node => !isListed text (l.piece node)) = some node := by
      rw [List.find?_eq_some_iff_append]
      refine ⟨?_, front, back, hnodes, fun n hn => ?_⟩
      · simpa using mt Listing.shows_iff.mpr hnode
      · simpa using Listing.shows_iff.mp (not_not.mp (hfront n hn))
    refine (comes_getText (asking_listing c l ▸ hbrings)).last ?_
    simp only [checkListing, hsome]
    exact comes_refuse _

theorem comes_verify {r : Except Failure Unit} (h : c.Verdict server before time xs r) :
    Comes server c.verify before time xs r := by
  rw [verify_eq]
  cases h with
  | root h => exact (comes_rootCheck_of_fails h).stop
  | nodes hroot h =>
    exact (comes_rootCheck_of_passes hroot).seq (comes_listingCheck_of_fails h).stop
  | plugins hroot hnodes h =>
    refine (comes_rootCheck_of_passes hroot).seq ?_
    exact (comes_listingCheck_of_passes hnodes).seq (comes_listingCheck_of_fails h).stop
  | verified hroot hnodes hplugins =>
    refine (comes_rootCheck_of_passes hroot).seq ?_
    refine (comes_listingCheck_of_passes hnodes).seq ?_
    exact (comes_listingCheck_of_passes hplugins).last (.log _ _ _)

theorem made_of_verdict {t : Transcript Request Reply} {r : Except Failure Unit}
    (h : c.Verdict server t.exchanges t.clock xs r) :
    made server c.verify.run t = xs ∧ (c.verify.run.run server t).1 = r :=
  (comes_verify h).made_eq

/-- Whatever the server answers, verification makes the requests of its verdict and ends with the
verdict's result. So it succeeds exactly if the root information is as expected and both
listings show every expected node. What the server sees is an initial segment of three requests,
behind a front that is empty if the address is bare. -/
theorem verify_verdict (c : Client) (server : Server) (t : Transcript Request Reply) :
    (∀ xs r, made server c.verify.run t = xs ∧ (c.verify.run.run server t).1 = r ↔
        c.Verdict server t.exchanges t.clock xs r) ∧
      ((c.verify.run.run server t).1 = .ok () ↔
        ∃ xs ys zs, c.RootPasses server t.exchanges t.clock xs ∧
          c.ListingPasses server (t.exchanges ++ xs) t.clock .nodes ys ∧
          c.ListingPasses server (t.exchanges ++ xs ++ ys) t.clock .plugins zs) ∧
      ('#' ∉ c.address.scheme.toList → '#' ∉ c.address.hostname.toList → ∃ front : String,
        (c.address.IsBare → front = "") ∧
          (made server c.verify.run t).map (fun x => x.query.line) <+:
            [(.get, front ++ "/", none), (.get, front ++ "/_cat/nodes?v", none),
              (.get, front ++ "/_cat/plugins?v", none)]) := by
  have hverdict : ∀ xs r, made server c.verify.run t = xs ∧ (c.verify.run.run server t).1 = r ↔
      c.Verdict server t.exchanges t.clock xs r := by
    refine fun xs r => ⟨?_, made_of_verdict⟩
    rintro ⟨rfl, rfl⟩
    obtain ⟨xs, r, h⟩ := c.exists_verdict server t.exchanges t.clock
    obtain ⟨hmade, hresult⟩ := made_of_verdict h
    rwa [hmade, hresult]
  refine ⟨hverdict, ⟨fun hok => ?_, ?_⟩, fun hscheme hhostname => ?_⟩
  · have h := (hverdict _ _).mp ⟨rfl, hok⟩
    generalize made server c.verify.run t = xs at h
    cases h with
    | verified hroot hnodes hplugins => exact ⟨_, _, _, hroot, hnodes, hplugins⟩
  · rintro ⟨xs, ys, zs, hroot, hnodes, hplugins⟩
    exact (made_of_verdict (.verified hroot hnodes hplugins)).2
  · obtain ⟨front, hfront⟩ := Address.exists_fronts hscheme hhostname
    exact ⟨front c.address.port, fun hbare => hfront.bare hbare _,
      (c.keeps_verify server t).lines_initial hfront⟩

set_option maxRecDepth 100000 in
/-- The name of one node begins that of another: it is found among the nodes, which are not told
apart, but its plugin is not. -/
theorem verify_verdict_overlapping_names :
    ∃ xs, xs.map (fun x => x.query.line) = [(.get, "/", none), (.get, "/_cat/nodes?v", none),
        (.get, "/_cat/plugins?v", none)] ∧
      Client.Verdict ⟨{ hostname := "[::1]" }, ⟨"7.3.2", ["es1", "es10"]⟩⟩
        (.scripted [.answer 200
            "\x7b\"name\":\"es10\",\"version\":\x7b\"number\":\"7.3.2\"\x7d\x7d".toUTF8.toList true,
          .answer 200 "es10".toUTF8.toList true,
          .answer 200 "es10 opendistro_performance_analyzer".toUTF8.toList true])
        [] 0 xs (.error (.mismatch (.missingPlugin "es1"))) := by
  have hseen {topology : Topology} {server : Server}
      (hlength :
        (made server (Client.verify ⟨{ hostname := "[::1]" }, topology⟩).run {}).length = 3) :
      (made server (Client.verify ⟨{ hostname := "[::1]" }, topology⟩).run {}).map
        (fun x => x.query.line) = [(.get, "/", none), (.get, "/_cat/nodes?v", none),
          (.get, "/_cat/plugins?v", none)] := by
    have hscheme : '#' ∉ (Address.scheme { hostname := "[::1]" }).toList := by decide
    have hhostname : '#' ∉ (Address.hostname { hostname := "[::1]" }).toList := by decide
    have hbare : Address.IsBare { hostname := "[::1]" } := ⟨by decide, by simp⟩
    obtain ⟨front, hfront, hlines⟩ :=
      (verify_verdict ⟨{ hostname := "[::1]" }, topology⟩ server {}).2.2 hscheme hhostname
    obtain rfl := hfront hbare
    exact hlines.eq_of_length (by rw [List.length_map, hlength]; rfl)
  refine ⟨_, hseen ?_, ((verify_verdict _ _ {}).1 _ _).mp ⟨rfl, ?_⟩⟩
  · decide +kernel
  · decide +kernel

end Client

end AnalyzerAdmin
