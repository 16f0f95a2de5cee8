import AnalyzerAdmin.Proofs.Defects
import AnalyzerAdmin.Proofs.OptionValues
import Mathlib.Data.List.Induction
import Mathlib.Data.List.Perm.Basic

/-!
# What batch tokens come to

Tokens are taken exactly if no kind is given twice; the parameters are then what the tokens of each
kind give, in whatever order they stand. Otherwise the earliest token that repeats a kind is named:
what was added in front of it holds exactly the kinds that were seen there.
-/

namespace AnalyzerAdmin

namespace BatchToken

def period? : BatchToken → Option UInt64
  | .period n => some n
  | .maxDatapoints _ => none

def maxDatapoints? : BatchToken → Option UInt64
  | .period _ => none
  | .maxDatapoints n => some n

def kind : BatchToken → BatchOptions.Kind
  | .period _ => .period
  | .maxDatapoints _ => .maxDatapoints

theorem period?_eq_some_iff {token : BatchToken} {n : UInt64} :
    token.period? = some n ↔ token = .period n := by
  cases token <;> simp [period?]

theorem maxDatapoints?_eq_some_iff {token : BatchToken} {n : UInt64} :
    token.maxDatapoints? = some n ↔ token = .maxDatapoints n := by
  cases token <;> simp [maxDatapoints?]

end BatchToken

namespace BatchOptions

open CommandLine.Settings (eq_of_toList_eq)

variable {o r : BatchOptions} {tokens others : List BatchToken} {kind : Kind}

theorem not_toList_cons {α : Type} {a b : Option α} (ha : a.isSome = true) (x : α) (xs : List α) :
    b.toList ≠ a.toList ++ x :: xs := by
  intro h
  obtain ⟨y, rfl⟩ := Option.isSome_iff_exists.mp ha
  cases b with
  | none => cases h
  | some z => cases h

theorem addAll_eq_ok_iff : addAll o tokens = .ok r ↔
    r.period.toList = o.period.toList ++ tokens.filterMap BatchToken.period? ∧
      r.maxDatapoints.toList =
        o.maxDatapoints.toList ++ tokens.filterMap BatchToken.maxDatapoints? := by
  induction tokens generalizing o with
  | nil =>
    rw [addAll, List.filterMap_nil, List.filterMap_nil, List.append_nil, List.append_nil]
    constructor
    · intro h
      cases h
      exact ⟨rfl, rfl⟩
    · rintro ⟨hperiod, hmax⟩
      obtain ⟨period, maxDatapoints⟩ := o
      obtain rfl := eq_of_toList_eq hperiod
      obtain rfl := eq_of_toList_eq hmax
      rfl
  | cons token tokens ih =>
    cases token with
    | period n =>
      have hperiod : (BatchToken.period n :: tokens).filterMap BatchToken.period? =
          n :: tokens.filterMap BatchToken.period? := rfl
      have hmax : (BatchToken.period n :: tokens).filterMap BatchToken.maxDatapoints? =
          tokens.filterMap BatchToken.maxDatapoints? := rfl
      rw [addAll, hperiod, hmax]
      by_cases hsome : o.period.isSome = true
      · rw [if_pos hsome]
        exact ⟨(fun h => by cases h), fun h => absurd h.1 (not_toList_cons hsome n _)⟩
      · rw [if_neg hsome, ih, Option.not_isSome_iff_eq_none.mp hsome]
        rfl
    | maxDatapoints n =>
      have hperiod : (BatchToken.maxDatapoints n :: tokens).filterMap BatchToken.period? =
          tokens.filterMap BatchToken.period? := rfl
      have hmax : (BatchToken.maxDatapoints n :: tokens).filterMap BatchToken.maxDatapoints? =
          n :: tokens.filterMap BatchToken.maxDatapoints? := rfl
      rw [addAll, hperiod, hmax]
      by_cases hsome : o.maxDatapoints.isSome = true
      · rw [if_pos hsome]
        exact ⟨(fun h => by cases h), fun h => absurd h.2 (not_toList_cons hsome n _)⟩
      · rw [if_neg hsome, ih, Option.not_isSome_iff_eq_none.mp hsome]
        rfl

theorem ofTokens_eq_ok_iff : ofTokens tokens = .ok r ↔
    r.period.toList = tokens.filterMap BatchToken.period? ∧
      r.maxDatapoints.toList = tokens.filterMap BatchToken.maxDatapoints? :=
  addAll_eq_ok_iff

theorem eq_toList_of_perm {α : Type} {a : Option α} {xs : List α} (h : a.toList.Perm xs) :
    a.toList = xs := by
  cases a with
  | none => exact (List.nil_perm.mp h).symm
  | some x => exact (List.singleton_perm.mp h)

theorem ofTokens_of_perm (h : tokens.Perm others) (hok : ofTokens tokens = .ok r) :
    ofTokens others = .ok r := by
  obtain ⟨hperiod, hmax⟩ := ofTokens_eq_ok_iff.mp hok
  refine ofTokens_eq_ok_iff.mpr ⟨eq_toList_of_perm ?_, eq_toList_of_perm ?_⟩
  · rw [hperiod]
    exact h.filterMap _
  · rw [hmax]
    exact h.filterMap _

def value (o : BatchOptions) : Kind → Option UInt64
  | .period => o.period
  | .maxDatapoints => o.maxDatapoints

def RepeatsFirst (tokens : List BatchToken) (kind : Kind) : Prop :=
  ∃ front token back, tokens = front ++ token :: back ∧ token.kind = kind ∧
    kind ∈ front.map BatchToken.kind ∧ (front.map BatchToken.kind).Nodup

theorem repeatsFirst_or_nodup (tokens : List BatchToken) :
    (tokens.map BatchToken.kind).Nodup ∨ ∃ kind, RepeatsFirst tokens kind := by
  induction tokens using List.reverseRecOn with
  | nil => exact .inl List.nodup_nil
  | append_singleton tokens token ih =>
    rcases ih with hnodup | ⟨kind, front, t, back, rfl, hrepeats⟩
    · by_cases hmem : token.kind ∈ tokens.map BatchToken.kind
      · exact .inr ⟨token.kind, tokens, token, [], rfl, rfl, hmem, hnodup⟩
      · rw [List.map_append, List.map_singleton, ← List.concat_eq_append]
        exact .inl (hnodup.concat hmem)
    · exact .inr ⟨kind, front, t, back ++ [token], List.append_assoc _ _ _, hrepeats⟩

theorem count_kind (tokens : List BatchToken) :
    (tokens.map BatchToken.kind).count .period =
        (tokens.filterMap BatchToken.period?).length ∧
      (tokens.map BatchToken.kind).count .maxDatapoints =
        (tokens.filterMap BatchToken.maxDatapoints?).length := by
  induction tokens with
  | nil => exact ⟨rfl, rfl⟩
  | cons token tokens ih =>
    obtain ⟨hperiod, hmax⟩ := ih
    cases token with
    | period n => exact ⟨by simp [BatchToken.kind, BatchToken.period?, hperiod], hmax⟩
    | maxDatapoints n => exact ⟨hperiod, by simp [BatchToken.kind, BatchToken.maxDatapoints?, hmax]⟩

theorem exists_toList {α : Type} {xs : List α} (h : xs.length ≤ 1) :
    ∃ a : Option α, a.toList = xs := by
  refine ⟨xs.head?, ?_⟩
  cases xs with
  | nil => rfl
  | cons x xs =>
    rw [List.length_eq_zero_iff.mp (Nat.le_zero.mp (Nat.le_of_succ_le_succ h))]
    rfl

theorem exists_ofTokens (h : (tokens.map BatchToken.kind).Nodup) :
    ∃ r, ofTokens tokens = .ok r := by
  obtain ⟨hperiod, hmax⟩ := count_kind tokens
  have hcount := List.nodup_iff_count_le_one.mp h
  obtain ⟨period, hperiod⟩ := exists_toList (hperiod ▸ hcount .period)
  obtain ⟨maxDatapoints, hmax⟩ := exists_toList (hmax ▸ hcount .maxDatapoints)
  exact ⟨⟨period, maxDatapoints⟩, ofTokens_eq_ok_iff.mpr ⟨hperiod, hmax⟩⟩

theorem mem_iff_of_ofTokens (h : ofTokens tokens = .ok r) :
    (∀ n, r.period = some n ↔ .period n ∈ tokens) ∧
      ∀ n, r.maxDatapoints = some n ↔ .maxDatapoints n ∈ tokens := by
  obtain ⟨hperiod, hmax⟩ := ofTokens_eq_ok_iff.mp h
  constructor
  · intro n
    rw [← Option.mem_toList.trans Option.mem_def, hperiod, List.mem_filterMap]
    simp only [BatchToken.period?_eq_some_iff, exists_eq_right]
  · intro n
    rw [← Option.mem_toList.trans Option.mem_def, hmax, List.mem_filterMap]
    simp only [BatchToken.maxDatapoints?_eq_some_iff, exists_eq_right]

theorem isSome_value (h : ofTokens tokens = .ok r) (hmem : kind ∈ tokens.map BatchToken.kind) :
    (r.value kind).isSome = true := by
  obtain ⟨hperiod, hmax⟩ := mem_iff_of_ofTokens h
  obtain ⟨token, htoken, rfl⟩ := List.mem_map.mp hmem
  cases token with
  | period n => exact Option.isSome_iff_exists.mpr ⟨n, (hperiod n).mpr htoken⟩
  | maxDatapoints n => exact Option.isSome_iff_exists.mpr ⟨n, (hmax n).mpr htoken⟩

theorem addAll_append (o : BatchOptions) (tokens others : List BatchToken) :
    addAll o (tokens ++ others) = (addAll o tokens).bind fun r => addAll r others := by
  induction tokens generalizing o with
  | nil => rfl
  | cons token tokens ih =>
    cases token <;>
      · rw [List.cons_append, addAll, addAll]
        split_ifs
        · rfl
        · exact ih _

theorem addAll_cons_of_isSome {token : BatchToken} (h : (o.value token.kind).isSome = true) :
    addAll o (token :: tokens) = .error token.kind := by
  cases token <;> exact if_pos h

theorem ofTokens_of_repeatsFirst (h : RepeatsFirst tokens kind) :
    ofTokens tokens = .error kind := by
  obtain ⟨front, token, back, rfl, rfl, hmem, hnodup⟩ := h
  obtain ⟨r, hr⟩ := exists_ofTokens hnodup
  have hseen := isSome_value hr hmem
  rw [ofTokens] at hr ⊢
  rw [addAll_append, hr]
  exact addAll_cons_of_isSome hseen

end BatchOptions

namespace CommandLine

open BatchOptions

variable {tokens others : List BatchToken} {options : BatchOptions} {fault : UsageFault}

theorem batchOptions_eq_ok_iff :
    batchOptions tokens = .ok options ↔ ofTokens tokens = .ok options := by
  rw [batchOptions]
  cases ofTokens tokens with
  | error kind => exact ⟨nofun, nofun⟩
  | ok r => simp only [Except.mapError, Except.ok.injEq]

theorem batchOptions_of_perm (h : tokens.Perm others) (hok : batchOptions tokens = .ok options) :
    batchOptions others = .ok options :=
  batchOptions_eq_ok_iff.mpr (ofTokens_of_perm h (batchOptions_eq_ok_iff.mp hok))

theorem batchOptions_eq_error_iff : batchOptions tokens = .error fault ↔
    ∃ kind, fault = .repeatedToken kind ∧ ofTokens tokens = .error kind := by
  rw [batchOptions]
  cases ofTokens tokens with
  | ok r => exact ⟨nofun, nofun⟩
  | error kind =>
    constructor
    · intro h
      exact ⟨kind, (Except.error.inj h).symm, rfl⟩
    · rintro ⟨_, rfl, h⟩
      exact congrArg (Except.error ∘ UsageFault.repeatedToken) (Except.error.inj h)

/-- Tokens come to parameters exactly if no kind stands among them twice. The parameters are then
the values of the tokens, in whatever order these stand; otherwise the kind is named of the earliest
token that repeats the kind of another. -/
theorem batch_tokens_come_to (tokens : List BatchToken) :
    ((∃ options, batchOptions tokens = .ok options) ↔
        ∀ kind, (tokens.map BatchToken.kind).count kind ≤ 1) ∧
      (∀ options, batchOptions tokens = .ok options →
        (∀ n, options.period = some n ↔ .period n ∈ tokens) ∧
        (∀ n, options.maxDatapoints = some n ↔ .maxDatapoints n ∈ tokens) ∧
        ∀ others, tokens.Perm others → batchOptions others = .ok options) ∧
      ∀ fault, batchOptions tokens = .error fault ↔
        ∃ kind, fault = .repeatedToken kind ∧ RepeatsFirst tokens kind := by
  obtain ⟨hok, herror⟩ := exact_of_total exists_ofTokens
    (fun kind => ofTokens_of_repeatsFirst) (repeatsFirst_or_nodup tokens)
  refine ⟨?_, fun options h => ?_, fun fault => ?_⟩
  · simp only [batchOptions_eq_ok_iff, hok, List.nodup_iff_count_le_one]
  · obtain ⟨hperiod, hmax⟩ := mem_iff_of_ofTokens (batchOptions_eq_ok_iff.mp h)
    exact ⟨hperiod, hmax, fun others hperm => batchOptions_of_perm hperm h⟩
  · simp only [batchOptions_eq_error_iff, herror]

theorem batch_tokens_come_to_zero :
    batchOptions [.maxDatapoints 2, .period 0] = .ok ⟨some 0, some 2⟩ ∧
      batchOptions [.period 0, .maxDatapoints 2] = .ok ⟨some 0, some 2⟩ ∧
      batchOptions [.maxDatapoints 2, .period 0, .period 0, .maxDatapoints 3] =
        .error (.repeatedToken .period) ∧
      (UsageFault.repeatedToken .period).message = "period given more than once" := by
  have hok : batchOptions [.maxDatapoints 2, .period 0] = .ok ⟨some 0, some 2⟩ := rfl
  obtain ⟨-, -, hperm⟩ := (batch_tokens_come_to _).2.1 _ hok
  refine ⟨hok, hperm _ (.swap _ _ _), ?_, rfl⟩
  exact ((batch_tokens_come_to _).2.2 _).mpr ⟨.period, rfl,
    [.maxDatapoints 2, .period 0], .period 0, [.maxDatapoints 3], rfl, rfl, by decide, by decide⟩

end CommandLine

end AnalyzerAdmin
