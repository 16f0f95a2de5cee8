import AnalyzerAdmin.CommandLine.Invocation
import AnalyzerAdmin.Proofs.OptionValues
import Mathlib.Data.List.Forall2

/-!
# How command lines are spelled

A command line spells settings by groups of arguments, one group for each option that is given: with
its value behind it or joined to it, in any order, and on either side of the command. The reader
settles each group only behind it, so what it keeps is what a scan would settle to (`Scan.Settles`).
However settings are spelled, they are what is read (`spelled_read`).
-/

namespace AnalyzerAdmin.CommandLine

/-- An option with its value, joined to it by an equals sign or not, or the wish to poll. -/
inductive Group
  | value (o : Opt) (text : String) (isJoined : Bool)
  | poll
deriving DecidableEq, Repr

namespace Group

def args : Group → List String
  | .value o text true => ["--" ++ o.name ++ "=" ++ text]
  | .value o text false => ["--" ++ o.name, text]
  | .poll => ["--poll"]

def text? (o : Opt) : Group → Option String
  | .value o' text _ => if o' = o then some text else none
  | .poll => none

/-- Whether a group can be taken for nothing else. A value of its own does not start with a dash. -/
def IsClear : Group → Prop
  | .value _ text false => text.toList.head? ≠ some '-'
  | _ => True

end Group

section Words

theorem Word.of_option (o : Opt) : Word.of ("--" ++ o.name) = .long o.name none := by
  cases o <;> decide

theorem Word.of_joined (o : Opt) (text : String) :
    Word.of ("--" ++ o.name ++ "=" ++ text) = .long o.name (some text) := by
  have hname : ∀ c ∈ o.name.toList, decide (c ≠ '=') = true :=
    List.all_eq_true.mp (by cases o <;> decide)
  have hchars : ("--" ++ o.name ++ "=" ++ text).toList =
      '-' :: '-' :: (o.name.toList ++ '=' :: text.toList) := by
    simp only [String.toList_append, List.append_assoc]
    rfl
  have htake : (o.name.toList ++ '=' :: text.toList).takeWhile (· ≠ '=') = o.name.toList := by
    rw [List.takeWhile_append_of_pos hname, List.takeWhile_cons_of_neg (by decide),
      List.append_nil]
  have hdrop : (o.name.toList ++ '=' :: text.toList).dropWhile (· ≠ '=') = '=' :: text.toList := by
    rw [List.dropWhile_append_of_pos hname, List.dropWhile_cons_of_neg (by decide)]
  rw [Word.of, hchars]
  split
  · rename_i heq
    simp at heq
  · rename_i heq
    obtain rfl := (List.cons.inj (List.cons.inj heq).2).2
    simp only [htake, hdrop, String.ofList_toList]
  · rename_i hlong heq
    exact (hlong (List.cons.inj (List.cons.inj heq).2).1.symm).elim
  · rename_i hlong _
    exact (hlong _ rfl).elim

theorem Word.of_poll : Word.of "--poll" = .long "poll" none := by decide

theorem Word.of_clear {text : String} (h : text.toList.head? ≠ some '-') :
    Word.of text = .plain := by
  rw [Word.of]
  split <;> simp_all

theorem Opt.ofName?_name (o : Opt) : Opt.ofName? o.name = some o := by
  cases o <;> decide

theorem isCommandName_dash {text : String} (h : text.toList.head? = some '-') :
    isCommandName text = false := by
  rw [Bool.eq_false_iff]
  intro hname
  rw [isCommandName, Command.ofName?.eq_def] at hname
  split at hname
  case h_8 =>
    simp only [Option.isSome_none, Bool.or_false, decide_eq_true_eq] at hname
    rw [hname] at h
    exact absurd h (by decide)
  all_goals exact absurd h (by decide)

end Words

def Settings.take (s : Settings) : Group → Except Stop Settings
  | .value o text _ => s.give o text
  | .poll => s.givePoll

namespace Scan

def Settles (s : Scan) (settings : Settings) (tokens : List BatchToken) : Prop :=
  s.isTrailing = false ∧ s.awaitsValue = false ∧ s.settle = .ok ⟨settings, tokens, .nothing, false⟩

variable {side : Side} {s : Scan} {settings settings' : Settings} {tokens : List BatchToken}

theorem settles_of_nothing (settings : Settings) (tokens : List BatchToken) :
    Settles ⟨settings, tokens, .nothing, false⟩ settings tokens :=
  ⟨rfl, rfl, rfl⟩

theorem step_option (h : s.Settles settings tokens) (side : Side) (o : Opt) :
    s.step side ("--" ++ o.name) = .ok ⟨settings, tokens, .option o none, false⟩ := by
  obtain ⟨htrailing, -, hsettle⟩ := h
  rw [step, htrailing, Word.of_option]
  simp only [Bool.false_eq_true, if_false, long, Opt.ofName?_name, hsettle]
  rfl

theorem step_text {o : Opt} {text : String} (htext : text.toList.head? ≠ some '-') (side : Side) :
    step side ⟨settings, tokens, .option o none, false⟩ text =
      .ok ⟨settings, tokens, .option o (some text), false⟩ := by
  rw [step, Word.of_clear htext]
  rfl

theorem settles_of_give {o : Opt} {text : String} (h : settings.give o text = .ok settings') :
    Settles ⟨settings, tokens, .option o (some text), false⟩ settings' tokens := by
  refine ⟨rfl, rfl, ?_⟩
  simp only [settle, h]
  rfl

theorem step_joined (h : s.Settles settings tokens) {o : Opt} {text : String}
    (hgive : settings.give o text = .ok settings') (side : Side) :
    s.step side ("--" ++ o.name ++ "=" ++ text) = .ok ⟨settings', tokens, .nothing, false⟩ := by
  obtain ⟨htrailing, -, hsettle⟩ := h
  rw [step, htrailing, Word.of_joined]
  simp only [Bool.false_eq_true, if_false, long, Opt.ofName?_name, hsettle]
  change (settings.give o text).bind
    (fun settings => (.ok ⟨settings, tokens, .nothing, false⟩ : Except Stop Scan)) = _
  rw [hgive]
  rfl

theorem step_poll (h : s.Settles settings tokens) (hpoll : settings.givePoll = .ok settings')
    (side : Side) : s.step side "--poll" = .ok ⟨settings', tokens, .nothing, false⟩ := by
  obtain ⟨htrailing, -, hsettle⟩ := h
  have hname : Opt.ofName? "poll" = none := by decide
  rw [step, htrailing, Word.of_poll]
  simp only [Bool.false_eq_true, if_false, long, hname, hsettle]
  rw [if_neg (by simp)]
  change settings.givePoll.bind
    (fun settings => (.ok ⟨settings, tokens, .nothing, false⟩ : Except Stop Scan)) = _
  rw [hpoll]
  rfl

theorem before_cons {text : String} {s' : Scan}
    (hname : s.awaitsValue = true ∨ isCommandName text = false)
    (hstep : s.step .before text = .ok s') (rest : List String) :
    before s (text :: rest) = before s' rest := by
  have hcommand : ¬(!s.isTrailing && !s.awaitsValue && isCommandName text) = true := by
    rcases hname with hawaits | hname
    · simp [hawaits]
    · simp [hname]
  rw [before, if_neg hcommand, hstep]
  rfl

theorem behind_cons {takesTokens : Bool} {text : String} {s' : Scan}
    (hstep : s.step (.behind takesTokens) text = .ok s') (rest : List String) :
    behind takesTokens s (text :: rest) = behind takesTokens s' rest := by
  rw [behind, hstep]
  rfl

theorem settles_group (h : s.Settles settings tokens) {g : Group} (hclear : g.IsClear)
    (htake : settings.take g = .ok settings') :
    ∃ s' : Scan, s'.Settles settings' tokens ∧
      (∀ rest, before s (g.args ++ rest) = before s' rest) ∧
      ∀ takesTokens rest, behind takesTokens s (g.args ++ rest) = behind takesTokens s' rest := by
  have hdash (text : String) : isCommandName ("--" ++ text) = false := by
    apply isCommandName_dash
    rw [String.toList_append]
    rfl
  cases g with
  | value o text isJoined =>
    have hgive : settings.give o text = .ok settings' := htake
    cases isJoined with
    | true =>
      have hname : isCommandName ("--" ++ o.name ++ "=" ++ text) = false := by
        rw [String.append_assoc, String.append_assoc]
        exact hdash _
      refine ⟨_, settles_of_nothing settings' tokens, fun rest => ?_, fun takesTokens rest => ?_⟩
      · exact before_cons (.inr hname) (step_joined h hgive _) rest
      · exact behind_cons (step_joined h hgive _) rest
    | false =>
      have htext : text.toList.head? ≠ some '-' := hclear
      refine ⟨_, settles_of_give hgive, fun rest => ?_, fun takesTokens rest => ?_⟩
      · exact (before_cons (.inr (hdash _)) (step_option h _ o) (text :: rest)).trans
          (before_cons (.inl rfl) (step_text htext _) rest)
      · exact (behind_cons (step_option h _ o) (text :: rest)).trans
          (behind_cons (step_text htext _) rest)
  | poll =>
    have hpoll : settings.givePoll = .ok settings' := htake
    refine ⟨_, settles_of_nothing settings' tokens, fun rest => ?_, fun takesTokens rest => ?_⟩
    · exact before_cons (.inr (by decide)) (step_poll h hpoll _) rest
    · exact behind_cons (step_poll h hpoll _) rest

theorem settles_groups (h : s.Settles settings tokens) {groups : List Group}
    (hclear : ∀ g ∈ groups, g.IsClear)
    (htake : groups.foldlM Settings.take settings = .ok settings') :
    ∃ s' : Scan, s'.Settles settings' tokens ∧
      (∀ rest, before s (groups.flatMap Group.args ++ rest) = before s' rest) ∧
      ∀ takesTokens rest,
        behind takesTokens s (groups.flatMap Group.args ++ rest) = behind takesTokens s' rest := by
  induction groups generalizing s settings with
  | nil =>
    cases htake
    exact ⟨s, h, fun _ => rfl, fun _ _ => rfl⟩
  | cons g groups ih =>
    obtain ⟨hg, hgroups⟩ := List.forall_mem_cons.mp hclear
    rw [List.foldlM_cons] at htake
    cases hnext : settings.take g with
    | error stop =>
      rw [hnext] at htake
      cases htake
    | ok next =>
      rw [hnext] at htake
      obtain ⟨s₁, hs₁, hbefore, hbehind⟩ := settles_group h hg hnext
      obtain ⟨s₂, hs₂, hbefore₂, hbehind₂⟩ := ih hs₁ hgroups htake
      refine ⟨s₂, hs₂, fun rest => ?_, fun takesTokens rest => ?_⟩
      · rw [List.flatMap_cons, List.append_assoc, hbefore, hbefore₂]
      · rw [List.flatMap_cons, List.append_assoc, hbehind, hbehind₂]

theorem behind_tokens {texts : List String} (hclear : ∀ text ∈ texts, text.toList.head? ≠ some '-')
    (done rest : List String) :
    behind true ⟨settings, tokens, .tokens done, false⟩ (texts ++ rest) =
      behind true ⟨settings, tokens, .tokens (done ++ texts), false⟩ rest := by
  induction texts generalizing done with
  | nil => rw [List.append_nil, List.nil_append]
  | cons text texts ih =>
    obtain ⟨htext, htexts⟩ := List.forall_mem_cons.mp hclear
    have hstep : step (.behind true) ⟨settings, tokens, .tokens done, false⟩ text =
        .ok ⟨settings, tokens, .tokens (done ++ [text]), false⟩ := by
      rw [step, Word.of_clear htext]
      rfl
    rw [List.cons_append, behind_cons hstep, ih htexts, List.append_assoc, List.singleton_append]

theorem readTokens_of_forall₂ {texts : List String}
    (h : List.Forall₂ (fun text token => BatchToken.read text = .ok token) texts tokens) :
    readTokens texts = .ok tokens := by
  induction h with
  | nil => rfl
  | cons htoken _ ih =>
    rw [readTokens, htoken]
    simp only [ih]
    rfl

theorem head?_of_read_token {text : String} {token : BatchToken}
    (h : BatchToken.read text = .ok token) : text.toList.head? ≠ some '-' := by
  intro hdash
  obtain ⟨cs, hcs⟩ := List.head?_eq_some_iff.mp hdash
  have hname : text.toList.takeWhile (· ≠ '=') = '-' :: cs.takeWhile (· ≠ '=') := by
    rw [hcs, List.takeWhile_cons_of_pos (by decide)]
  have hother {name : String} (hhead : name.toList.head? ≠ some '-') :
      String.ofList ('-' :: cs.takeWhile (· ≠ '=')) ≠ name := by
    rintro rfl
    rw [String.toList_ofList] at hhead
    exact hhead rfl
  rw [BatchToken.read] at h
  simp only [hname] at h
  split at h
  · cases h
  · split at h
    · cases h
    · split at h
      · rename_i heq
        exact hother (by decide) heq
      · rename_i heq
        exact hother (by decide) heq
      · cases h

theorem clear_of_forall₂ {texts : List String}
    (h : List.Forall₂ (fun text token => BatchToken.read text = .ok token) texts tokens) :
    ∀ text ∈ texts, text.toList.head? ≠ some '-' := by
  induction h with
  | nil =>
    intro text hmem
    cases hmem
  | cons htoken _ ih => exact List.forall_mem_cons.mpr ⟨head?_of_read_token htoken, ih⟩

theorem settles_tokens {texts : List String}
    (h : List.Forall₂ (fun text token => BatchToken.read text = .ok token) texts tokens)
    (hfew : texts.length ≤ tokenLimit) :
    ∃ s : Scan, s.Settles {} tokens ∧
      ∀ rest, behind true {} (texts ++ rest) = behind true s rest := by
  cases h with
  | nil => exact ⟨{}, settles_of_nothing {} [], fun rest => rfl⟩
  | @cons text token texts tokens htoken htokens =>
    have hread := readTokens_of_forall₂ (.cons htoken htokens)
    refine ⟨⟨{}, [], .tokens (text :: texts), false⟩, ⟨rfl, rfl, ?_⟩, fun rest => ?_⟩
    · simp only [settle, hread, if_neg (Nat.not_lt_of_le hfew)]
      rfl
    · have hstep : step (.behind true) {} text = .ok ⟨{}, [], .tokens [text], false⟩ := by
        rw [step, Word.of_clear (head?_of_read_token htoken)]
        rfl
      rw [List.cons_append, behind_cons hstep, behind_tokens (clear_of_forall₂ htokens)]
      rfl

end Scan

theorem take_groups {s : Settings} {groups : List Group}
    (hrenders : ∀ o, ∀ text ∈ groups.filterMap (Group.text? o), Settings.Renders o text)
    (hsingle : ∀ o, o.isRepeatable = false →
      (s.texts o ++ groups.filterMap (Group.text? o)).length ≤ 1)
    (hpoll : s.poll.toNat + groups.count .poll ≤ 1) :
    ∃ t, groups.foldlM Settings.take s = .ok t ∧ t.poll.toNat = s.poll.toNat + groups.count .poll ∧
      ∀ o, t.texts o = s.texts o ++ groups.filterMap (Group.text? o) := by
  induction groups generalizing s with
  | nil => exact ⟨s, rfl, rfl, fun o => (List.append_nil _).symm⟩
  | cons g groups ih =>
    have htail : ∀ o, ∀ text ∈ groups.filterMap (Group.text? o), Settings.Renders o text := by
      intro o text hmem
      refine hrenders o text ?_
      obtain ⟨g', hg', htext⟩ := List.mem_filterMap.mp hmem
      exact List.mem_filterMap.mpr ⟨g', List.mem_cons_of_mem g hg', htext⟩
    -- What one group gives is put behind what was there, so the rest still has room.
    have hgroup {next : Settings} (hnext : s.take g = .ok next)
        (hcount : next.poll.toNat = s.poll.toNat + [g].count .poll)
        (htexts : ∀ o, next.texts o = s.texts o ++ [g].filterMap (Group.text? o)) :
        ∃ t, (g :: groups).foldlM Settings.take s = .ok t ∧
          t.poll.toNat = s.poll.toNat + (g :: groups).count .poll ∧
          ∀ o, t.texts o = s.texts o ++ (g :: groups).filterMap (Group.text? o) := by
      have hsplit (o : Opt) : (g :: groups).filterMap (Group.text? o) =
          [g].filterMap (Group.text? o) ++ groups.filterMap (Group.text? o) := by
        rw [← List.filterMap_append, List.singleton_append]
      have hsum : (g :: groups).count .poll = [g].count .poll + groups.count .poll := by
        rw [← List.count_append, List.singleton_append]
      obtain ⟨t, ht, htpoll, httexts⟩ := ih htail
        (fun o ho => by
          rw [htexts, List.append_assoc, ← hsplit]
          exact hsingle o ho)
        (by omega)
      refine ⟨t, ?_, by omega, fun o => ?_⟩
      · rw [List.foldlM_cons, hnext]
        exact ht
      · rw [httexts, htexts, List.append_assoc, ← hsplit]
    cases g with
    | value o text isJoined =>
      have htext : (Group.value o text isJoined).text? o = some text := if_pos rfl
      have hmem : text ∈ (Group.value o text isJoined :: groups).filterMap (Group.text? o) := by
        rw [List.filterMap_cons_some htext]
        exact List.mem_cons_self
      have hfree : s.texts o = [] ∨ o.isRepeatable = true := by
        cases ho : o.isRepeatable with
        | true => exact .inr rfl
        | false =>
          have hone := hsingle o ho
          rw [List.filterMap_cons_some htext, List.length_append, List.length_cons] at hone
          exact .inl (List.eq_nil_of_length_eq_zero (by omega))
      obtain ⟨next, hnext, hsame, htexts⟩ :=
        Settings.give_of_renders (hrenders o text hmem) hfree
      refine hgroup hnext (by rw [hsame]; rfl) fun o' => ?_
      rw [htexts]
      by_cases ho : o' = o
      · rw [if_pos ho, ho, List.filterMap_cons_some htext, List.filterMap_nil]
      · have hnone : (Group.value o text isJoined).text? o' = none := if_neg (Ne.symm ho)
        rw [if_neg ho, List.filterMap_cons_none hnone, List.filterMap_nil]
    | poll =>
      have hunset : s.poll = false := by
        rw [List.count_cons_self] at hpoll
        cases hset : s.poll with
        | false => rfl
        | true =>
          rw [hset, Bool.toNat_true] at hpoll
          omega
      obtain ⟨next, hnext, hset, htexts⟩ := Settings.givePoll_of_not hunset
      refine hgroup hnext (by rw [hset, hunset]; rfl) fun o => ?_
      rw [htexts]
      exact (List.append_nil _).symm

/-- Groups on either side of the command that give each option its texts. Values of an option that
may be repeated stand on one side. -/
structure Spells (s : Settings) (before behind : List Group) : Prop where
  clear : ∀ g ∈ before ++ behind, g.IsClear
  texts : ∀ o, (before ++ behind).filterMap (Group.text? o) = s.texts o
  poll : (before ++ behind).count .poll = s.poll.toNat
  oneSide : ∀ o, o.isRepeatable = true →
    before.filterMap (Group.text? o) = [] ∨ behind.filterMap (Group.text? o) = []

theorem Spells.exists_sides {s : Settings} {before behind : List Group}
    (h : Spells s before behind) :
    ∃ outer inner, before.foldlM Settings.take {} = .ok outer ∧
      behind.foldlM Settings.take {} = .ok inner ∧ outer.overriddenBy inner = s := by
  have hblank (o : Opt) : ({} : Settings).texts o = [] := by cases o <;> rfl
  have htexts (o : Opt) :
      before.filterMap (Group.text? o) ++ behind.filterMap (Group.text? o) = s.texts o := by
    rw [← List.filterMap_append]
    exact h.texts o
  have hcount : before.count .poll + behind.count .poll = s.poll.toNat := by
    rw [← List.count_append]
    exact h.poll
  have hone : s.poll.toNat ≤ 1 := Bool.toNat_le s.poll
  have hside (groups : List Group) (hgiven : ∀ o, groups.filterMap (Group.text? o) ⊆ s.texts o)
      (hfew : ∀ o, (groups.filterMap (Group.text? o)).length ≤ (s.texts o).length)
      (hpoll : groups.count .poll ≤ 1) :
      ∃ t, groups.foldlM Settings.take {} = .ok t ∧ t.poll.toNat = groups.count .poll ∧
        ∀ o, t.texts o = groups.filterMap (Group.text? o) := by
    have hrenders : ∀ o, ∀ text ∈ groups.filterMap (Group.text? o), Settings.Renders o text :=
      fun o text hmem => Settings.renders_of_mem_texts (hgiven o hmem)
    have hsingle : ∀ o, o.isRepeatable = false →
        (({} : Settings).texts o ++ groups.filterMap (Group.text? o)).length ≤ 1 := by
      intro o ho
      rw [hblank, List.nil_append]
      exact Nat.le_trans (hfew o) (s.length_texts_le ho)
    have hunset : ({} : Settings).poll.toNat + groups.count .poll ≤ 1 := by
      rwa [Bool.toNat_false, Nat.zero_add]
    obtain ⟨t, ht, htpoll, httexts⟩ := take_groups hrenders hsingle hunset
    rw [Bool.toNat_false, Nat.zero_add] at htpoll
    refine ⟨t, ht, htpoll, fun o => ?_⟩
    rw [httexts, hblank, List.nil_append]
  obtain ⟨outer, houter, houterPoll, houterTexts⟩ := hside before
    (fun o text hmem => by
      rw [← htexts]
      exact List.mem_append_left _ hmem)
    (fun o => by
      rw [← htexts, List.length_append]
      exact Nat.le_add_right _ _)
    (by omega)
  obtain ⟨inner, hinner, hinnerPoll, hinnerTexts⟩ := hside behind
    (fun o text hmem => by
      rw [← htexts]
      exact List.mem_append_right _ hmem)
    (fun o => by
      rw [← htexts, List.length_append]
      exact Nat.le_add_left _ _)
    (by omega)
  refine ⟨outer, inner, houter, hinner, Settings.ext_texts (fun o => ?_) ?_⟩
  · rw [Settings.texts_overriddenBy, houterTexts, hinnerTexts, ← htexts]
    split_ifs with hnone
    · rw [hnone, List.append_nil]
    · -- An option is given on one side only.
      have hfirst : before.filterMap (Group.text? o) = [] := by
        cases ho : o.isRepeatable with
        | true => exact (h.oneSide o ho).resolve_right hnone
        | false =>
          have hle := s.length_texts_le ho
          have hpos := List.length_pos_of_ne_nil hnone
          rw [← htexts, List.length_append] at hle
          exact List.eq_nil_of_length_eq_zero (by omega)
      rw [hfirst, List.nil_append]
  · have hor : ∀ a b c : Bool, a.toNat + b.toNat = c.toNat → (b || a) = c := by decide
    rw [← houterPoll, ← hinnerPoll] at hcount
    exact hor _ _ _ hcount

def Command.tokens : Command → List BatchToken
  | .getBatch tokens => tokens
  | _ => []

theorem Command.isCommandName_name (command : Command) : isCommandName command.name = true := by
  cases command <;> rfl

theorem Command.exists_ofName? (command : Command) :
    ∃ make, Command.ofName? command.name = some make ∧ make command.tokens = command := by
  cases command <;> exact ⟨_, rfl, rfl⟩

theorem Command.settles_tokens (command : Command) {texts : List String}
    (h : List.Forall₂ (fun text token => BatchToken.read text = .ok token) texts command.tokens)
    (hfew : texts.length ≤ tokenLimit) :
    ∃ s : Scan, s.Settles {} command.tokens ∧
      ∀ rest, Scan.behind (command.name = "get_batch") {} (texts ++ rest) =
        Scan.behind (command.name = "get_batch") s rest := by
  cases command with
  | getBatch tokens => exact Scan.settles_tokens h hfew
  | _ =>
    cases h
    exact ⟨{}, Scan.settles_of_nothing {} [], fun _ => rfl⟩

/-- Command lines mean what they spell. Wherever the options stand and however their values are
joined to them, what is read is the settings that they spell, with the command and its tokens; what
the settings leave open is as if nothing was said, and polling needs an interval. -/
theorem spelled_read {s : Settings} {before behind : List Group} {command : Command}
    {texts : List String} (h : Spells s before behind)
    (htokens :
      List.Forall₂ (fun text token => BatchToken.read text = .ok token) texts command.tokens)
    (hfew : texts.length ≤ 2) :
    Invocation.read (before.flatMap Group.args ++ command.name :: texts ++
      behind.flatMap Group.args) = .ok ⟨s, some command⟩ ∧
    s.address =
      { scheme := s.scheme.getD "http", hostname := s.host.getD "localhost"
        port := s.port.getD 9200, metricsPort := s.metricsPort.getD 9600
        timeout := s.timeout.getD 1000 } ∧
    s.topology =
      { version := s.expectedVersion.getD "7.3.2"
        nodes := if s.expectedNodes = [] then ["elasticsearch1", "elasticsearch2"]
          else s.expectedNodes } ∧
    (s.poll = false → s.settling = .ok (.after (s.settle.getD 100).toNat)) ∧
    (s.poll = true → 0 < (s.settle.getD 100).toNat →
      s.settling = .ok (.polling (s.settle.getD 100).toNat (s.pollTimeout.getD 5000).toNat)) ∧
    (s.poll = true → (s.settle.getD 100).toNat = 0 → s.settling = .error .idlePolling) := by
  refine ⟨?_, rfl, rfl, fun hpoll => ?_, fun hpoll hpos => ?_, fun hpoll hzero => ?_⟩
  · obtain ⟨outer, inner, houter, hinner, hboth⟩ := h.exists_sides
    obtain ⟨hbefore, hbehind⟩ := List.forall_mem_append.mp h.clear
    obtain ⟨s₁, ⟨htrailing, hawaits, hsettle⟩, hread, -⟩ :=
      Scan.settles_groups (Scan.settles_of_nothing {} []) hbefore houter
    obtain ⟨s₂, hs₂, htexts⟩ := command.settles_tokens htokens hfew
    obtain ⟨s₃, ⟨-, -, hsettle₃⟩, -, hread₃⟩ := Scan.settles_groups hs₂ hbehind hinner
    obtain ⟨make, hname, hmake⟩ := command.exists_ofName?
    have hfront : Scan.before {} (before.flatMap Group.args ++ command.name :: texts ++
        behind.flatMap Group.args) =
        .ok (s₁, some (command.name, texts ++ behind.flatMap Group.args)) := by
      rw [List.append_assoc, hread, List.cons_append, Scan.before, htrailing, hawaits,
        command.isCommandName_name]
      rfl
    have hback : Scan.behind (command.name = "get_batch") {}
        (texts ++ behind.flatMap Group.args) = .ok ⟨inner, command.tokens, .nothing, false⟩ := by
      have hend := hread₃ (command.name = "get_batch") []
      rw [List.append_nil] at hend
      rw [htexts, hend, Scan.behind, hsettle₃]
    have hok {α β : Type} (a : α) (f : α → Except Stop β) : (Except.ok a >>= f) = f a := rfl
    simp only [Invocation.read, hfront, hok, hname, hback, hsettle, hboth, hmake]
    rfl
  · simp only [Settings.settling, hpoll]
    rfl
  · simp only [Settings.settling, hpoll, Nat.ne_of_gt hpos]
    rfl
  · simp only [Settings.settling, hpoll, hzero]
    rfl

theorem spelled_read_both_sides :
    Invocation.read ["--host=node-1", "--poll", "--port", "65535", "get_batch", "period=5",
      "maxdatapoints=1", "--settle-ms=18446744073709551615", "--expected-node", "a",
      "--expected-node=b"] =
      .ok ⟨{ host := some "node-1", port := some 65535, expectedNodes := ["a", "b"]
             settle := some 18446744073709551615, poll := true },
        some (.getBatch [.period 5, .maxDatapoints 1])⟩ := by
  have hspells : Spells
      { host := some "node-1", port := some 65535, expectedNodes := ["a", "b"]
        settle := some 18446744073709551615, poll := true }
      [.value .host "node-1" true, .poll, .value .port "65535" false]
      [.value .settle "18446744073709551615" true, .value .expectedNode "a" false,
        .value .expectedNode "b" true] := by
    refine ⟨?_, ?_, by decide, ?_⟩
    · simp [Group.IsClear]
    · intro o
      cases o <;> decide
    · intro o ho
      exact .inl (by cases o <;> first | rfl | cases ho)
  have htokens : List.Forall₂ (fun text token => BatchToken.read text = .ok token)
      ["period=5", "maxdatapoints=1"]
      (Command.tokens (.getBatch [.period 5, .maxDatapoints 1])) :=
    .cons (by decide) (.cons (by decide) .nil)
  obtain ⟨hread, -⟩ := spelled_read hspells htokens (by decide)
  exact hread

end AnalyzerAdmin.CommandLine
