import AnalyzerAdmin.Proofs.Polling
import Mathlib.Tactic.ByContra

/-!
# When a settling reads

A settling is played on a series of results, of which each read takes the next, and on a clock that
starts at zero. Polling reads at multiples of its rest, up to the first read that fails, that is
accepted, or that is made when the time has run out; this read decides what polling gives.
-/

namespace AnalyzerAdmin

open Dialogue

abbrev Readings := Nat → Except Failure State

namespace Readings

variable (r : Readings) (accept : State → Bool) (rest timeout : Nat)

def peer : Peer Unit (Except Failure State) := fun past _ => r past.length

def play (settling : Settling) :
    Except Failure State × Transcript Unit (Except Failure State) :=
  run r.peer (settling.await (question ()) accept) {}

def log (n : Nat) : List (Exchange Unit (Except Failure State)) :=
  (List.range n).map fun k => ⟨(), r k, k * rest⟩

/-- A read behind which polling does not go on. -/
def Ends (k : Nat) : Prop :=
  (∃ failure, r k = .error failure) ∨ (∃ state, r k = .ok state ∧ accept state = true) ∨
    timeout ≤ k * rest

def verdict (k : Nat) : Except Failure State :=
  match r k with
  | .error failure => .error failure
  | .ok state => if accept state then .ok state else .error (.notConverged (k * rest) state)

theorem length_log (n : Nat) : (r.log rest n).length = n := by
  rw [log, List.length_map, List.length_range]

theorem log_succ (n : Nat) : r.log rest (n + 1) = r.log rest n ++ [⟨(), r n, n * rest⟩] := by
  simp only [log, List.range_succ, List.map_append, List.map_cons, List.map_nil]

theorem run_question (t : Transcript Unit (Except Failure State)) :
    run r.peer (question ()) t =
      (r t.exchanges.length,
        { t with exchanges := t.exchanges ++ [⟨(), r t.exchanges.length, t.clock⟩] }) :=
  rfl

variable {r accept rest timeout}

theorem run_question_log {n : Nat} {t t₁ : Transcript Unit (Except Failure State)}
    {result : Except Failure State} (hlog : t.exchanges = r.log rest n)
    (hclock : t.clock = n * rest)
    (h : run r.peer (question ()) t = (result, t₁)) :
    result = r n ∧ t₁.exchanges = r.log rest (n + 1) ∧ t₁.clock = n * rest := by
  rw [run_question, hlog, length_log, hclock] at h
  cases h
  exact ⟨rfl, (r.log_succ rest n).symm, rfl⟩

theorem not_ends {n : Nat} {state : State} (hread : r n = .ok state)
    (hrejected : accept state = false) (hearly : n * rest < timeout) :
    ¬r.Ends accept rest timeout n := by
  rintro (⟨failure, hfailure⟩ | ⟨accepted, haccepted, haccept⟩ | hlate)
  · rw [hread] at hfailure
    cases hfailure
  · rw [hread] at haccepted
    cases haccepted
    rw [hrejected] at haccept
    cases haccept
  · omega

/-- The loop of reads, entered behind `n` of them, goes on to the first read that ends it. -/
theorem polls_log {interval n : Nat} {t t₁ : Transcript Unit (Except Failure State)}
    {result : Except Failure State}
    (h : Settling.Polls r.peer (question ()) accept interval timeout 0 t result t₁)
    (hlog : t.exchanges = r.log (Settling.restFor interval) n)
    (hclock : t.clock = n * Settling.restFor interval) :
    ∃ k, n ≤ k ∧ r.Ends accept (Settling.restFor interval) timeout k ∧
      (∀ m, n ≤ m → m < k → ¬r.Ends accept (Settling.restFor interval) timeout m) ∧
      result = r.verdict accept (Settling.restFor interval) k ∧
      t₁.exchanges = r.log (Settling.restFor interval) (k + 1) ∧
      t₁.clock = k * Settling.restFor interval := by
  have hnone (m : Nat) (hle : n ≤ m) (hlt : m < n) :
      ¬r.Ends accept (Settling.restFor interval) timeout m := by omega
  -- By induction on the loop, of which the first `n` reads are the log and the clock is their time.
  induction h generalizing n with
  | @failed t t₁ failure hr =>
    obtain ⟨hread, hexchanges, hclock₁⟩ := run_question_log hlog hclock hr
    have hverdict : r.verdict accept (Settling.restFor interval) n = .error failure := by
      simp only [verdict, ← hread]
    exact ⟨n, Nat.le_refl n, .inl ⟨failure, hread.symm⟩, hnone, hverdict.symm, hexchanges, hclock₁⟩
  | @accepted t t₁ state hr haccept =>
    obtain ⟨hread, hexchanges, hclock₁⟩ := run_question_log hlog hclock hr
    have hverdict : r.verdict accept (Settling.restFor interval) n = .ok state := by
      simp only [verdict, ← hread, haccept, if_true]
    exact ⟨n, Nat.le_refl n, .inr (.inl ⟨state, hread.symm, haccept⟩), hnone, hverdict.symm,
      hexchanges, hclock₁⟩
  | @expired t t₁ state hr hrejected hlate =>
    obtain ⟨hread, hexchanges, hclock₁⟩ := run_question_log hlog hclock hr
    rw [hclock₁, Nat.sub_zero] at hlate ⊢
    have hverdict : r.verdict accept (Settling.restFor interval) n =
        .error (.notConverged (n * Settling.restFor interval) state) := by
      simp only [verdict, ← hread, hrejected, Bool.false_eq_true, if_false]
    exact ⟨n, Nat.le_refl n, .inr (.inr hlate), hnone, hverdict.symm, hexchanges, hclock₁⟩
  | @again t t₁ t₂ state result hr hrejected hearly _ ih =>
    obtain ⟨hread, hexchanges, hclock₁⟩ := run_question_log hlog hclock hr
    rw [hclock₁, Nat.sub_zero] at hearly
    have hnext : t₁.clock + Settling.restFor interval = (n + 1) * Settling.restFor interval := by
      rw [hclock₁, Nat.succ_mul]
    obtain ⟨k, hle, hends, hbefore, hrun⟩ := ih hexchanges hnext (by omega)
    refine ⟨k, by omega, hends, fun m hnm hmk => ?_, hrun⟩
    by_cases hm : m = n
    · rw [hm]
      exact not_ends hread.symm hrejected hearly
    · exact hbefore m (by omega) hmk

theorem play_polling (r : Readings) (accept : State → Bool) {interval : Nat}
    (hinterval : 0 < interval) (timeout : Nat) :
    ∃ k, r.Ends accept (Settling.restFor interval) timeout k ∧
      (∀ m < k, ¬r.Ends accept (Settling.restFor interval) timeout m) ∧
      (r.play accept (.polling interval timeout)).1 =
        r.verdict accept (Settling.restFor interval) k ∧
      (r.play accept (.polling interval timeout)).2.exchanges =
        r.log (Settling.restFor interval) (k + 1) ∧
      (r.play accept (.polling interval timeout)).2.clock = k * Settling.restFor interval := by
  have hrests : (Settling.polling interval timeout).Rests := hinterval
  have hpolls : Settling.Waits r.peer (question ()) accept {}
      (r.play accept (.polling interval timeout)).1 (r.play accept (.polling interval timeout)).2
      (.polling interval timeout) :=
    Settling.await_waits (fun _ => rfl) hrests {}
  obtain ⟨k, -, hends, hbefore, hrun⟩ := polls_log hpolls rfl (Nat.zero_mul _).symm
  exact ⟨k, hends, fun m hm => hbefore m (Nat.zero_le m) hm, hrun⟩

theorem mem_log {n : Nat} {x : Exchange Unit (Except Failure State)} :
    x ∈ r.log rest n ↔ ∃ m < n, x = ⟨(), r m, m * rest⟩ := by
  simp only [log, List.mem_map, List.mem_range, eq_comm]

theorem verdict_of_accepted {k : Nat} {state : State} (hread : r k = .ok state)
    (haccept : accept state = true) : r.verdict accept rest k = .ok state := by
  simp only [verdict, hread, haccept, if_true]

theorem of_verdict_eq_notConverged {k waited : Nat} {last : State}
    (h : r.verdict accept rest k = .error (.notConverged waited last)) :
    r k = .error (.notConverged waited last) ∨
      r k = .ok last ∧ accept last = false ∧ waited = k * rest := by
  cases hread : r k with
  | error failure =>
    left
    simp only [verdict, hread] at h
    exact h
  | ok state =>
    right
    cases haccept : accept state with
    | true =>
      rw [verdict_of_accepted hread haccept] at h
      cases h
    | false =>
      simp only [verdict, hread, haccept, Bool.false_eq_true, if_false] at h
      cases h
      exact ⟨rfl, haccept, rfl⟩

theorem exists_rejected_of_not_ends {k : Nat} (h : ¬r.Ends accept rest timeout k) :
    (∃ state, r k = .ok state ∧ accept state = false) ∧ k * rest < timeout := by
  have hearly : k * rest < timeout := Nat.lt_of_not_le fun hlate => h (.inr (.inr hlate))
  refine ⟨?_, hearly⟩
  cases hread : r k with
  | error failure => exact absurd (.inl ⟨failure, hread⟩) h
  | ok state =>
    have hrejected : ¬accept state = true := fun haccept => h (.inr (.inl ⟨state, hread, haccept⟩))
    exact ⟨state, rfl, by simpa using hrejected⟩

theorem play_of_accepted {settling : Settling} (hrests : settling.Rests)
    {x : Exchange Unit (Except Failure State)} (hx : x ∈ (r.play accept settling).2.exchanges)
    {state : State} (hread : x.answer = .ok state) (haccept : accept state = true) :
    (r.play accept settling).1 = .ok state := by
  cases settling with
  | immediate =>
    obtain rfl := List.mem_singleton.mp hx
    exact hread
  | after delay =>
    obtain rfl := List.mem_singleton.mp hx
    exact hread
  | polling interval timeout =>
    obtain ⟨k, -, hbefore, hresult, hlog, -⟩ := r.play_polling accept hrests timeout
    rw [hlog, mem_log] at hx
    obtain ⟨m, hm, rfl⟩ := hx
    have hends : r.Ends accept (Settling.restFor interval) timeout m :=
      .inr (.inl ⟨state, hread, haccept⟩)
    have hlast : m = k := by
      by_contra hne
      exact hbefore m (by omega) hends
    rw [hresult, ← hlast]
    exact verdict_of_accepted hread haccept

theorem play_eq_notConverged {settling : Settling} (hrests : settling.Rests) {waited : Nat}
    {last : State} (h : (r.play accept settling).1 = .error (.notConverged waited last)) :
    (∃ x ∈ (r.play accept settling).2.exchanges, x.answer = .error (.notConverged waited last)) ∨
      ∃ interval timeout, settling = .polling interval timeout ∧ timeout ≤ waited ∧
        waited < timeout + Settling.restFor interval ∧
        (∀ x ∈ (r.play accept settling).2.exchanges,
          ∃ state, x.answer = .ok state ∧ accept state = false) ∧
        (r.play accept settling).2.exchanges.getLast? = some ⟨(), .ok last, waited⟩ := by
  cases settling with
  | immediate => exact .inl ⟨_, List.mem_singleton.mpr rfl, h⟩
  | after delay => exact .inl ⟨_, List.mem_singleton.mpr rfl, h⟩
  | polling interval timeout =>
    have hpos : 0 < Settling.restFor interval := Settling.restFor_pos hrests
    obtain ⟨k, hends, hbefore, hresult, hlog, -⟩ := r.play_polling accept hrests timeout
    rw [hresult] at h
    rw [hlog]
    rcases of_verdict_eq_notConverged h with hfailed | ⟨hread, hrejected, rfl⟩
    · exact .inl ⟨_, mem_log.mpr ⟨k, Nat.lt_succ_self k, rfl⟩, hfailed⟩
    · right
      have hlate : timeout ≤ k * Settling.restFor interval := by
        by_contra hearly
        exact not_ends hread hrejected (Nat.lt_of_not_le hearly) hends
      have hless : k * Settling.restFor interval < timeout + Settling.restFor interval := by
        cases k with
        | zero => omega
        | succ m =>
          obtain ⟨-, hm⟩ := exists_rejected_of_not_ends (hbefore m (Nat.lt_succ_self m))
          rw [Nat.succ_mul]
          omega
      refine ⟨interval, timeout, rfl, hlate, hless, fun x hx => ?_, ?_⟩
      · obtain ⟨m, hm, rfl⟩ := mem_log.mp hx
        by_cases hmk : m = k
        · rw [hmk]
          exact ⟨last, hread, hrejected⟩
        · exact (exists_rejected_of_not_ends (hbefore m (by omega))).1
      · rw [log_succ, List.getLast?_concat, hread]

/-- When a settling reads, and what it gives. At once or behind a delay there is one read, which is
given whether or not it is accepted. Polling reads at multiples of its rest up to the first read
that fails, is accepted, or comes when the time has run out, and gives the verdict on this read. So
no accepted read is lost, and only polling gives up, at its first read behind the timeout. -/
theorem play_reads (r : Readings) (accept : State → Bool) :
    r.play accept .immediate = (r 0, { exchanges := [⟨(), r 0, 0⟩], clock := 0 }) ∧
    (∀ delay, r.play accept (.after delay) =
      (r 0,
        { exchanges := [⟨(), r 0, Settling.restFor delay⟩], clock := Settling.restFor delay })) ∧
    (∀ interval timeout, 0 < interval → ∃ k,
      r.Ends accept (Settling.restFor interval) timeout k ∧
      (∀ m < k, ¬r.Ends accept (Settling.restFor interval) timeout m) ∧
      (r.play accept (.polling interval timeout)).1 =
        r.verdict accept (Settling.restFor interval) k ∧
      (r.play accept (.polling interval timeout)).2.exchanges =
        r.log (Settling.restFor interval) (k + 1) ∧
      (r.play accept (.polling interval timeout)).2.clock = k * Settling.restFor interval) ∧
    (∀ settling : Settling, settling.Rests →
      ∀ x ∈ (r.play accept settling).2.exchanges, ∀ state, x.answer = .ok state →
        accept state = true → (r.play accept settling).1 = .ok state) ∧
    (∀ settling : Settling, settling.Rests → ∀ waited last,
      (r.play accept settling).1 = .error (.notConverged waited last) →
      (∃ x ∈ (r.play accept settling).2.exchanges, x.answer = .error (.notConverged waited last)) ∨
        ∃ interval timeout, settling = .polling interval timeout ∧ timeout ≤ waited ∧
          waited < timeout + Settling.restFor interval ∧
          (∀ x ∈ (r.play accept settling).2.exchanges,
            ∃ state, x.answer = .ok state ∧ accept state = false) ∧
          (r.play accept settling).2.exchanges.getLast? = some ⟨(), .ok last, waited⟩) := by
  refine ⟨rfl, fun delay => ?_,
    fun interval timeout hinterval => r.play_polling accept hinterval timeout,
    fun settling hrests x hx state hread haccept => play_of_accepted hrests hx hread haccept,
    fun settling hrests waited last h => play_eq_notConverged hrests h⟩
  have hrun : r.play accept (.after delay) =
      run r.peer (question ()) { clock := 0 + Settling.restFor delay } := rfl
  rw [hrun, Nat.zero_add]
  rfl

theorem play_reads_stale :
    ((play (fun _ => .ok {}) (·.isOn .analyzer) (.polling 100 250)).2.exchanges.map (·.time) =
      [0, 100, 200, 300]) ∧
    (play (fun _ => .ok {}) (·.isOn .analyzer) (.polling 100 250)).1 =
      .error (.notConverged 300 {}) := by
  obtain ⟨k, hends, hbefore, hresult, hlog, -⟩ :=
    (play_reads (fun _ => .ok {}) (·.isOn .analyzer)).2.2.1 100 250 (by decide)
  have hrest : Settling.restFor 100 = 100 := by decide
  rw [hrest] at hends hbefore hresult hlog
  obtain rfl : k = 3 := by
    have hlate : 250 ≤ k * 100 := by
      rcases hends with ⟨failure, hfailure⟩ | ⟨state, hread, haccept⟩ | hlate
      · cases hfailure
      · cases hread
        cases haccept
      · exact hlate
    by_contra hne
    exact hbefore 3 (by omega) (.inr (.inr (by decide)))
  rw [hresult, hlog]
  exact ⟨rfl, rfl⟩

/-- Behind a delay that is longer than thirty years by a millisecond the read is not made at the end
of the delay. A read that itself gave up is given without polling. -/
theorem play_cut_short :
    (play (fun _ => .ok {}) (fun _ => true) (.after 946080000001)).2.exchanges.map (·.time) ≠
      [946080000001] ∧
    (play (fun _ => .error (.notConverged 0 {})) (fun _ => true) .immediate).1 =
      .error (.notConverged 0 {}) :=
  ⟨by decide, rfl⟩

end Readings

end AnalyzerAdmin
