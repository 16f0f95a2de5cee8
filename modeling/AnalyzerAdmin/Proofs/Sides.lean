import AnalyzerAdmin.Proofs.Encoding
import AnalyzerAdmin.Proofs.Spelling

/-!
# What accepted command lines consist of

Every command line that is read falls into groups on either side of its command, in one way only
(`Divides.unique`), and its settings are what the groups give, side by side (`exists_divides`). The
reader keeps the last group until it is settled, so what is owed and what is due are carried through
the induction on the arguments.
-/

namespace AnalyzerAdmin.CommandLine

section Words

variable {text name value : String}

theorem Word.eq_of_separator (h : Word.of text = .separator) : text = "--" := by
  rw [Word.of] at h
  split at h
  · rename_i heq
    exact String.toList_inj.mp heq
  · simp only at h
    split at h <;> cases h
  · cases h
  · cases h

theorem Word.eq_of_long {value? : Option String} (h : Word.of text = .long name value?) :
    text = "--" ++ name ++ value?.elim "" ("=" ++ ·) := by
  rw [Word.of] at h
  split at h
  · cases h
  · rename_i cs hlong heq
    have hsplit := List.takeWhile_append_dropWhile (p := (· ≠ '=')) (l := cs)
    have hstop := List.head?_dropWhile_not (· ≠ '=') cs
    apply String.toList_inj.mp
    rw [heq, ← hsplit]
    simp only at h
    split at h
    · rename_i hdrop
      cases h
      rw [hdrop]
      simp [String.toList_append, String.toList_ofList]
    · rename_i c rest hdrop
      cases h
      rw [hdrop] at hstop ⊢
      have hc : c = '=' := by simpa using hstop
      simp [String.toList_append, String.toList_ofList, hc]
  · cases h
  · cases h

end Words

def Group.IsRead : Group → Prop
  | .value _ text false => Word.of text = .plain
  | _ => True

inductive Consists (takesTokens : Bool) : List String → List Group → Prop
  | nil : Consists takesTokens [] []
  | group {g : Group} {args : List String} {groups : List Group} : g.IsRead →
      Consists takesTokens args groups → Consists takesTokens (g.args ++ args) (g :: groups)
  | token {text : String} {args : List String} {groups : List Group} : takesTokens = true →
      Word.of text = .plain → Consists takesTokens args groups →
      Consists takesTokens (text :: args) groups

namespace Scan

variable {side : Side} {s t u : Scan} {text : String} {args : List String}

inductive Reads (side : Side) (s : Scan) : String → Scan → Prop
  | separator : Reads side s "--" { s with isTrailing := true }
  | name {t : Scan} (o : Opt) : s.settle = .ok t →
      Reads side s ("--" ++ o.name) { t with pending := .option o none }
  | joined {t : Scan} {settings : Settings} {o : Opt} {text : String} : s.settle = .ok t →
      t.settings.give o text = .ok settings →
      Reads side s ("--" ++ o.name ++ "=" ++ text) { t with settings }
  | poll {t : Scan} {settings : Settings} : s.settle = .ok t →
      t.settings.givePoll = .ok settings → Reads side s "--poll" { t with settings }
  | value {o : Opt} {text : String} : s.pending = .option o none → Word.of text = .plain →
      Reads side s text { s with pending := .option o (some text) }
  | nextToken {texts : List String} {text : String} : side = .behind true →
      s.pending = .tokens texts → Word.of text = .plain →
      Reads side s text { s with pending := .tokens (texts ++ [text]) }
  | firstToken {t : Scan} {text : String} : side = .behind true → s.settle = .ok t →
      Word.of text = .plain → Reads side s text { t with pending := .tokens [text] }

theorem reads_of_long {name : String} {value : Option String}
    (hword : Word.of text = .long name value) (h : s.long side name value = .ok t) :
    Reads side s text t := by
  have htext := Word.eq_of_long hword
  unfold long at h
  cases ho : Opt.ofName? name with
  | some o =>
    have hname : name = o.name := by simpa [eq_comm] using List.find?_some ho
    simp only [ho] at h
    obtain ⟨s₁, hsettle, h⟩ := bind_ok h
    subst hname
    cases value with
    | none =>
      cases h
      rw [htext]
      simpa using Reads.name o hsettle
    | some value =>
      obtain ⟨settings, hgive, h⟩ := bind_ok h
      cases h
      rw [htext]
      simpa [String.append_assoc] using Reads.joined hsettle hgive
  | none =>
    simp only [ho] at h
    split at h
    · cases h
    · cases value with
      | some value => cases h
      | none =>
        obtain ⟨s₁, hsettle, h⟩ := bind_ok h
        by_cases hpoll : name = "poll"
        · rw [if_pos hpoll] at h
          obtain ⟨settings, hgive, h⟩ := bind_ok h
          cases h
          rw [htext, hpoll]
          exact .poll hsettle hgive
        · rw [if_neg hpoll] at h
          cases h

theorem plain_cases (h : s.plain side text = .ok t) : side = .behind true ∧
    ((∃ texts, s.pending = .tokens texts ∧ t = { s with pending := .tokens (texts ++ [text]) }) ∨
      ∃ s₁, s.settle = .ok s₁ ∧ t = { s₁ with pending := .tokens [text] }) := by
  unfold plain at h
  split at h
  · split_ifs at h
  · cases h
  · refine ⟨rfl, ?_⟩
    split at h
    · rename_i texts hpending
      cases h
      exact .inl ⟨texts, hpending, rfl⟩
    · obtain ⟨s₁, hsettle, rfl⟩ := map_ok h
      exact .inr ⟨s₁, hsettle, rfl⟩

theorem short_ne_ok {c : Char} : s.short side c ≠ .ok t := by
  intro h
  unfold short at h
  split_ifs at h
  · obtain ⟨_, _, h⟩ := bind_ok h
    cases h
  · obtain ⟨_, _, h⟩ := bind_ok h
    cases h

theorem reads_of_step (h : s.step side text = .ok t) (htrailing : s.isTrailing = false) :
    Reads side s text t := by
  rw [step, if_neg (by rw [htrailing]; exact Bool.false_ne_true)] at h
  cases hword : Word.of text with
  | separator =>
    rw [hword] at h
    cases h
    rw [Word.eq_of_separator hword]
    exact .separator
  | long name value =>
    rw [hword] at h
    exact reads_of_long hword h
  | short c =>
    rw [hword] at h
    exact absurd h short_ne_ok
  | plain =>
    rw [hword] at h
    simp only at h
    split at h
    · rename_i o hpending
      cases h
      exact .value hpending hword
    · obtain ⟨hside, ⟨texts, hpending, rfl⟩ | ⟨s₁, hsettle, rfl⟩⟩ := plain_cases h
      · exact .nextToken hside hpending hword
      · exact .firstToken hside hsettle hword

def owed (s : Scan) : List String :=
  match s.pending with
  | .option o none => ["--" ++ o.name]
  | _ => []

def due (s : Scan) : List Group :=
  match s.pending with
  | .option o (some text) => [.value o text false]
  | _ => []

theorem settle_eq_ok (h : s.settle = .ok t) :
    s.owed = [] ∧ s.due.foldlM Settings.take s.settings = .ok t.settings ∧
      t.pending = .nothing ∧ t.isTrailing = s.isTrailing := by
  unfold settle at h
  unfold owed due
  split at h
  · rename_i hpending
    cases h
    rw [hpending]
    exact ⟨rfl, rfl, rfl, rfl⟩
  · cases h
  · rename_i o text hpending
    obtain ⟨settings, hgive, rfl⟩ := map_ok h
    rw [hpending]
    refine ⟨rfl, ?_, rfl, rfl⟩
    rw [List.foldlM_cons, Settings.take, hgive]
    rfl
  · rename_i texts hpending
    split_ifs at h
    obtain ⟨tokens, -, rfl⟩ := map_ok h
    rw [hpending]
    exact ⟨rfl, rfl, rfl, rfl⟩

theorem foldlM_due {settings : Settings}
    (h : s.due.foldlM Settings.take s.settings = .ok settings) (groups : List Group) :
    (s.due ++ groups).foldlM Settings.take s.settings = groups.foldlM Settings.take settings := by
  rw [List.foldlM_append, h]
  rfl

theorem trailing_of_steps (h : args.foldlM (step side) s = .ok t) (hsettle : t.settle = .ok u)
    (htrailing : s.isTrailing = true) :
    t.isTrailing = true ∧ s.owed = [] ∧
      s.due.foldlM Settings.take s.settings = .ok u.settings := by
  induction args generalizing s with
  | nil =>
    cases h
    obtain ⟨howed, hdue, -, -⟩ := settle_eq_ok hsettle
    exact ⟨htrailing, howed, hdue⟩
  | cons text args ih =>
    obtain ⟨s', hstep, h⟩ := bind_ok h
    rw [step, if_pos htrailing] at hstep
    obtain ⟨-, ⟨texts, hpending, rfl⟩ | ⟨s₁, hs₁, rfl⟩⟩ := plain_cases hstep
    · obtain ⟨ht, -, hdue⟩ := ih h htrailing
      refine ⟨ht, by rw [owed, hpending], ?_⟩
      rw [due, hpending]
      exact hdue
    · obtain ⟨howed, hdue₁, -, hkept⟩ := settle_eq_ok hs₁
      obtain ⟨ht, -, hdue⟩ := ih h (hkept.trans htrailing)
      exact ⟨ht, howed, hdue₁.trans hdue⟩

/-- Arguments that are read fall into groups up to a separator, and what they come to is what the
groups give behind what is due. -/
theorem consists_of_steps {takesTokens : Bool} (hside : side = .behind true → takesTokens = true)
    (h : args.foldlM (step side) s = .ok t) (hsettle : t.settle = .ok u)
    (htrailing : s.isTrailing = false) :
    ∃ front tail groups, s.owed ++ args = front ++ tail ∧ Consists takesTokens front groups ∧
      (s.due ++ groups).foldlM Settings.take s.settings = .ok u.settings ∧
      (tail = [] ∨ t.isTrailing = true ∧ ∃ rest, tail = "--" :: rest) := by
  induction args generalizing s with
  | nil =>
    cases h
    obtain ⟨howed, hdue, -, -⟩ := settle_eq_ok hsettle
    refine ⟨[], [], [], by rw [howed], .nil, ?_, .inl rfl⟩
    rwa [List.append_nil]
  | cons text args ih =>
    obtain ⟨s', hstep, h⟩ := bind_ok h
    cases reads_of_step hstep htrailing with
    | separator =>
      obtain ⟨ht, howed, hdue⟩ := trailing_of_steps h hsettle rfl
      have hs : s.owed = [] := howed
      refine ⟨[], "--" :: args, [], by rw [hs], .nil, ?_, .inr ⟨ht, args, rfl⟩⟩
      rwa [List.append_nil]
    | @name s₁ o hs₁ =>
      obtain ⟨howed, hdue, -, hkept⟩ := settle_eq_ok hs₁
      obtain ⟨front, tail, groups, hargs, hfront, hgroups, htail⟩ := ih h (hkept.trans htrailing)
      refine ⟨front, tail, groups, by rw [howed]; exact hargs, hfront, ?_, htail⟩
      rw [foldlM_due hdue]
      exact hgroups
    | @joined s₁ settings o text hs₁ hgive =>
      obtain ⟨howed, hdue, hnothing, hkept⟩ := settle_eq_ok hs₁
      obtain ⟨front, tail, groups, hargs, hfront, hgroups, htail⟩ := ih h (hkept.trans htrailing)
      simp only [owed, due, hnothing, List.nil_append] at hargs hgroups
      refine ⟨_, tail, .value o text true :: groups, ?_, .group trivial hfront, ?_, htail⟩
      · rw [howed, hargs]
        rfl
      · rw [foldlM_due hdue, List.foldlM_cons, Settings.take, hgive]
        exact hgroups
    | @poll s₁ settings hs₁ hgive =>
      obtain ⟨howed, hdue, hnothing, hkept⟩ := settle_eq_ok hs₁
      obtain ⟨front, tail, groups, hargs, hfront, hgroups, htail⟩ := ih h (hkept.trans htrailing)
      simp only [owed, due, hnothing, List.nil_append] at hargs hgroups
      refine ⟨_, tail, .poll :: groups, ?_, .group trivial hfront, ?_, htail⟩
      · rw [howed, hargs]
        rfl
      · rw [foldlM_due hdue, List.foldlM_cons, Settings.take, hgive]
        exact hgroups
    | @value o text hpending hword =>
      obtain ⟨front, tail, groups, hargs, hfront, hgroups, htail⟩ := ih h htrailing
      simp only [owed, due, List.nil_append] at hargs hgroups
      refine ⟨_, tail, .value o text false :: groups, ?_, .group hword hfront, ?_, htail⟩
      · rw [owed, hpending, hargs]
        rfl
      · rw [due, hpending]
        exact hgroups
    | @nextToken texts text hbehind hpending hword =>
      obtain ⟨front, tail, groups, hargs, hfront, hgroups, htail⟩ := ih h htrailing
      simp only [owed, due, List.nil_append] at hargs hgroups
      refine ⟨_, tail, groups, ?_, .token (hside hbehind) hword hfront, ?_, htail⟩
      · rw [owed, hpending, hargs]
        rfl
      · rw [due, hpending]
        exact hgroups
    | @firstToken s₁ text hbehind hs₁ hword =>
      obtain ⟨howed, hdue, -, hkept⟩ := settle_eq_ok hs₁
      obtain ⟨front, tail, groups, hargs, hfront, hgroups, htail⟩ := ih h (hkept.trans htrailing)
      simp only [owed, due, List.nil_append] at hargs hgroups
      refine ⟨_, tail, groups, ?_, .token (hside hbehind) hword hfront, ?_, htail⟩
      · rw [howed, hargs]
        rfl
      · rw [foldlM_due hdue]
        exact hgroups

theorem behind_eq_foldlM {takesTokens : Bool} (s : Scan) (args : List String) :
    behind takesTokens s args = (args.foldlM (step (.behind takesTokens)) s >>= settle) := by
  induction args generalizing s with
  | nil => rfl
  | cons text args ih =>
    rw [behind, List.foldlM_cons, bind_assoc]
    exact congrArg _ (funext ih)

theorem before_cases {next : Option (String × List String)} (h : before s args = .ok (t, next)) :
    ∃ front, front.foldlM (step .before) s = .ok t ∧
      (next = none ∧ args = front ∨ ∃ name rest, next = some (name, rest) ∧
        args = front ++ name :: rest ∧ t.isTrailing = false ∧ isCommandName name = true) := by
  induction args generalizing s with
  | nil =>
    cases h
    exact ⟨[], rfl, .inl ⟨rfl, rfl⟩⟩
  | cons text args ih =>
    rw [before] at h
    split_ifs at h with hcommand
    · cases h
      simp only [Bool.and_eq_true, Bool.not_eq_true'] at hcommand
      exact ⟨[], rfl, .inr ⟨text, args, rfl, rfl, hcommand.1.1, hcommand.2⟩⟩
    · obtain ⟨s', hstep, h⟩ := bind_ok h
      obtain ⟨front, hfront, hnext⟩ := ih h
      refine ⟨text :: front, ?_, ?_⟩
      · rw [List.foldlM_cons, hstep]
        exact hfront
      · rcases hnext with ⟨rfl, rfl⟩ | ⟨name, rest, rfl, rfl, hname⟩
        · exact .inl ⟨rfl, rfl⟩
        · exact .inr ⟨name, rest, rfl, rfl, hname⟩

end Scan

def Command.takesTokens (command : Command) : Bool := command.name = "get_batch"

def EndsOptions (tail : List String) : Prop := tail = [] ∨ ∃ rest, tail = "--" :: rest

/-- The groups of a command line before its command and behind it. -/
inductive Divides : List String → Option Command → List Group → List Group → Prop
  | idle {front tail : List String} {before : List Group} : Consists false front before →
      EndsOptions tail → Divides (front ++ tail) none before []
  | commanded {front back tail : List String} {before behind : List Group} {command : Command} :
      Consists false front before → Consists command.takesTokens back behind → EndsOptions tail →
      Divides (front ++ command.name :: (back ++ tail)) (some command) before behind

theorem Command.name_of_ofName? {name : String} {make : List BatchToken → Command}
    (h : Command.ofName? name = some make) (tokens : List BatchToken) :
    (make tokens).name = name := by
  rw [Command.ofName?.eq_def] at h
  split at h <;> cases h <;> rfl

section Unique

variable {takesTokens : Bool} {rest rest' : List String} {text : String}

def Stops (takesTokens : Bool) (rest : List String) : Prop :=
  ∀ text ∈ rest.head?, Word.of text = .separator ∨ takesTokens = false ∧ Word.of text = .plain

theorem EndsOptions.stops {tail : List String} (h : EndsOptions tail) : Stops takesTokens tail := by
  rintro text htext
  rcases h with rfl | ⟨rest, rfl⟩
  · cases htext
  · cases htext
    exact .inl (by decide)

theorem stops_command (command : Command) (rest : List String) :
    Stops false (command.name :: rest) := by
  rintro text htext
  cases htext
  refine .inr ⟨rfl, Word.of_clear fun hdash => ?_⟩
  have hname := command.isCommandName_name
  rw [isCommandName_dash hdash] at hname
  cases hname

def Group.word : Group → Word
  | .value o text true => .long o.name (some text)
  | .value o _ false => .long o.name none
  | .poll => .long "poll" none

def Group.apart : Group → List String
  | .value _ text false => [text]
  | _ => []

theorem Group.exists_args (g : Group) :
    ∃ text, Word.of text = g.word ∧ g.args = text :: g.apart := by
  cases g with
  | value o text isJoined =>
    cases isJoined with
    | true => exact ⟨_, Word.of_joined o text, rfl⟩
    | false => exact ⟨_, Word.of_option o, rfl⟩
  | poll => exact ⟨_, Word.of_poll, rfl⟩

theorem Group.exists_word (g : Group) : ∃ name value, g.word = .long name value := by
  cases g with
  | value o text isJoined => cases isJoined <;> exact ⟨_, _, rfl⟩
  | poll => exact ⟨_, _, rfl⟩

theorem Group.eq_of_args {g g' : Group} (h : g.args ++ rest = g'.args ++ rest') :
    g = g' ∧ rest = rest' := by
  obtain ⟨text, hword, hargs⟩ := g.exists_args
  obtain ⟨text', hword', hargs'⟩ := g'.exists_args
  rw [hargs, hargs', List.cons_append, List.cons_append] at h
  obtain ⟨rfl, htail⟩ := List.cons.inj h
  have hname {o o' : Opt} (hname : o.name = o'.name) : o = o' := by
    have ho := o.ofName?_name
    rw [hname, o'.ofName?_name] at ho
    exact (Option.some.inj ho).symm
  have hpoll (o : Opt) : o.name ≠ "poll" := by cases o <;> decide
  have hsame := hword.symm.trans hword'
  cases g with
  | value o value isJoined =>
    cases g' with
    | value o' value' isJoined' =>
      cases isJoined <;> cases isJoined' <;> obtain ⟨ho, hvalue⟩ := Word.long.inj hsame <;>
        obtain rfl := hname ho
      · obtain ⟨rfl, hrest⟩ := List.cons.inj htail
        exact ⟨rfl, hrest⟩
      · cases hvalue
      · cases hvalue
      · cases hvalue
        exact ⟨rfl, htail⟩
    | poll => cases isJoined <;> exact absurd (Word.long.inj hsame).1 (hpoll o)
  | poll =>
    cases g' with
    | value o' value' isJoined' =>
      cases isJoined' <;> exact absurd (Word.long.inj hsame).1.symm (hpoll o')
    | poll => exact ⟨rfl, htail⟩

theorem not_stops_group {g : Group} : ¬Stops takesTokens (g.args ++ rest) := by
  intro h
  obtain ⟨text, hword, hargs⟩ := g.exists_args
  obtain ⟨name, value, hlong⟩ := g.exists_word
  rw [hargs] at h
  rcases h text rfl with hword' | ⟨-, hword'⟩ <;>
  · rw [hword, hlong] at hword'
    cases hword'

theorem not_stops_token (htakes : takesTokens = true) (hword : Word.of text = .plain) :
    ¬Stops takesTokens (text :: rest) := by
  intro h
  rcases h text rfl with hword' | ⟨htakes', -⟩
  · rw [hword] at hword'
    cases hword'
  · rw [htakes] at htakes'
    cases htakes'

theorem group_ne_token {g : Group} (hword : Word.of text = .plain) :
    g.args ++ rest ≠ text :: rest' := by
  intro h
  obtain ⟨first, hfirst, hargs⟩ := g.exists_args
  obtain ⟨name, value, hlong⟩ := g.exists_word
  rw [hargs, List.cons_append] at h
  obtain ⟨rfl, -⟩ := List.cons.inj h
  rw [hword, hlong] at hfirst
  cases hfirst

theorem Consists.unique {args args' : List String} {groups groups' : List Group}
    (h : Consists takesTokens args groups) (h' : Consists takesTokens args' groups')
    (hrest : Stops takesTokens rest) (hrest' : Stops takesTokens rest')
    (heq : args ++ rest = args' ++ rest') : groups = groups' ∧ rest = rest' := by
  induction h generalizing args' groups' with
  | nil =>
    rw [List.nil_append] at heq
    subst heq
    cases h' with
    | nil => exact ⟨rfl, rfl⟩
    | group hread' hargs' =>
      rw [List.append_assoc] at hrest
      exact absurd hrest not_stops_group
    | token htakes hword hargs' => exact absurd hrest (not_stops_token htakes hword)
  | group hread hargs ih =>
    rw [List.append_assoc] at heq
    cases h' with
    | nil =>
      rw [List.nil_append] at heq
      rw [← heq] at hrest'
      exact absurd hrest' not_stops_group
    | group hread' hargs' =>
      rw [List.append_assoc] at heq
      obtain ⟨rfl, hargs₁⟩ := Group.eq_of_args heq
      obtain ⟨rfl, hends⟩ := ih hargs' hargs₁
      exact ⟨rfl, hends⟩
    | token htakes' hword' hargs' => exact absurd heq (group_ne_token hword')
  | token htakes hword hargs ih =>
    cases h' with
    | nil =>
      rw [List.nil_append] at heq
      rw [← heq] at hrest'
      exact absurd hrest' (not_stops_token htakes hword)
    | group hread' hargs' =>
      rw [List.append_assoc] at heq
      exact absurd heq.symm (group_ne_token hword)
    | token htakes' hword' hargs' => exact ih hargs' (List.cons.inj heq).2

theorem Divides.unique {args args' : List String} {command : Option Command}
    {before before' behind behind' : List Group} (h : Divides args command before behind)
    (h' : Divides args' command before' behind') (heq : args = args') :
    before = before' ∧ behind = behind' := by
  cases h with
  | idle hfront htail =>
    cases h' with
    | idle hfront' htail' =>
      exact ⟨(hfront.unique hfront' htail.stops htail'.stops heq).1, rfl⟩
  | @commanded _ _ _ _ _ command hfront hback htail =>
    cases h' with
    | commanded hfront' hback' htail' =>
      obtain ⟨rfl, hrest⟩ :=
        hfront.unique hfront' (stops_command command _) (stops_command command _) heq
      obtain ⟨rfl, -⟩ := hback.unique hback' htail.stops htail'.stops (List.cons.inj hrest).2
      exact ⟨rfl, rfl⟩

end Unique

theorem overriddenBy_empty (outer : Settings) : outer.overriddenBy {} = outer := by
  refine Settings.ext_texts (fun o => ?_) rfl
  rw [Settings.texts_overriddenBy, if_pos (by cases o <;> rfl)]

/-- Every command line that is read divides, and its settings are what the two sides give. -/
theorem exists_divides {args : List String} {invocation : Invocation}
    (h : Invocation.read args = .ok invocation) :
    ∃ before behind outer inner, Divides args invocation.command before behind ∧
      before.foldlM Settings.take {} = .ok outer ∧ behind.foldlM Settings.take {} = .ok inner ∧
      invocation.settings = outer.overriddenBy inner := by
  obtain ⟨⟨s, next⟩, hbefore, hread⟩ := bind_ok h
  obtain ⟨args, hsteps, ⟨rfl, rfl⟩ | ⟨name, rest, rfl, rfl, htrailing, -⟩⟩ :=
    Scan.before_cases hbefore
  · obtain ⟨u, hsettle, hread⟩ := bind_ok hread
    cases hread
    obtain ⟨front, tail, before, hargs, hfront, hbefore, htail⟩ :=
      Scan.consists_of_steps (fun hside => by cases hside) hsteps hsettle rfl
    have hdivides := Divides.idle hfront (htail.imp_right And.right)
    rw [← hargs] at hdivides
    exact ⟨before, [], u.settings, {}, hdivides, hbefore, rfl, (overriddenBy_empty _).symm⟩
  · cases hmake : Command.ofName? name with
    | none =>
      simp only [hmake] at hread
      cases hread
    | some make =>
      simp only [hmake] at hread
      obtain ⟨inner, hinner, hread⟩ := bind_ok hread
      obtain ⟨outer, houter, hread⟩ := bind_ok hread
      cases hread
      rw [Scan.behind_eq_foldlM] at hinner
      obtain ⟨t, hbehind, hsettle⟩ := bind_ok hinner
      obtain ⟨front, tail, before, hargs, hfront, hbefore, htail⟩ :=
        Scan.consists_of_steps (fun hside => by cases hside) hsteps houter rfl
      obtain ⟨back, tail', behind, hargs', hback, hbehind, htail'⟩ :=
        Scan.consists_of_steps (fun hside => Side.behind.inj hside) hbehind hsettle rfl
      -- No separator stands before a command.
      have hnone : tail = [] := by
        rcases htail with hnone | ⟨hs, -⟩
        · exact hnone
        · rw [htrailing] at hs
          cases hs
      have hname := Command.name_of_ofName? hmake inner.tokens
      refine ⟨before, behind, outer.settings, inner.settings, ?_, hbefore, hbehind, rfl⟩
      have htakes : (make inner.tokens).takesTokens = decide (name = "get_batch") := by
        rw [Command.takesTokens, hname]
      rw [← htakes] at hback
      have hdivides := Divides.commanded hfront hback (htail'.imp_right And.right)
      rw [← hargs', hname] at hdivides
      rw [hnone, List.append_nil] at hargs
      rw [← hargs] at hdivides
      exact hdivides

end AnalyzerAdmin.CommandLine
