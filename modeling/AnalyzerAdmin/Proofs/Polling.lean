import AnalyzerAdmin.Settling
import AnalyzerAdmin.Proofs.Dialogue

/-!
# Polling without a bound

`Polls` is the loop of reads as it is meant: it goes on for as long as reads are not accepted and
time is left, and nothing counts the reads. With a rest that is not zero each read brings the clock
closer to the timeout, so the loop ends; `poll`, which does count, never gets to the end of its
count before the loop has ended (`polls_poll`). The bounds on reads and time are those of the loop.
-/

namespace AnalyzerAdmin

open Dialogue

variable {Query Answer : Type}

namespace Transcript

def told (t : Transcript Query Answer) (level : Log.Level) (message : String)
    (values : List (String × String)) : Transcript Query Answer :=
  { t with events := t.events ++ [.entry ⟨level, message, values⟩] }

def rested (t : Transcript Query Answer) (time : Nat) : Transcript Query Answer :=
  { t with clock := t.clock + time }

end Transcript

namespace Settling

section Loop

variable (peer : Peer Query Answer) (probe : Dialogue Query Answer (Except Failure State))
  (accept : State → Bool) (interval timeout started : Nat)

inductive Polls : Transcript Query Answer → Except Failure State → Transcript Query Answer → Prop
  | failed {t t₁ : Transcript Query Answer} {failure : Failure} :
      run peer probe t = (.error failure, t₁) → Polls t (.error failure) t₁
  | accepted {t t₁ : Transcript Query Answer} {state : State} :
      run peer probe t = (.ok state, t₁) → accept state = true → Polls t (.ok state) t₁
  | expired {t t₁ : Transcript Query Answer} {state : State} :
      run peer probe t = (.ok state, t₁) → accept state = false → timeout ≤ t₁.clock - started →
      Polls t (.error (.notConverged (t₁.clock - started) state))
        (t₁.told .warn "state did not converge"
          [("waited", renderSpan (t₁.clock - started)), ("state", state.render)])
  | again {t t₁ t₂ : Transcript Query Answer} {state : State} {r : Except Failure State} :
      run peer probe t = (.ok state, t₁) → accept state = false → t₁.clock - started < timeout →
      Polls ((t₁.told .debug "state not settled yet" [("state", state.render)]).rested
        (restFor interval)) r t₂ →
      Polls t r t₂

/-- Waiting as a settling demands, with polling that nothing bounds. -/
def Waits (t : Transcript Query Answer) (r : Except Failure State)
    (t₁ : Transcript Query Answer) : Settling → Prop
  | .immediate => run peer probe t = (r, t₁)
  | .after delay => run peer probe (t.rested (restFor delay)) = (r, t₁)
  | .polling interval timeout => Polls peer probe accept interval timeout t.clock t r t₁

end Loop

def Rests : Settling → Prop
  | .polling interval _ => 0 < interval
  | _ => True

theorem restFor_pos {interval : Nat} (h : 0 < interval) : 0 < restFor interval := by
  rw [restFor, longestRest]
  omega

variable {peer : Peer Query Answer} {probe : Dialogue Query Answer (Except Failure State)}
  {accept : State → Bool} {interval timeout started : Nat}

theorem polls_readOnce {unsettled : Nat → State → Dialogue Query Answer (Except Failure State)}
    {t : Transcript Query Answer}
    (h : ∀ state t₁, run peer probe t = (.ok state, t₁) → accept state = false →
      Polls peer probe accept interval timeout started t
        (run peer (unsettled (t₁.clock - started) state) t₁).1
        (run peer (unsettled (t₁.clock - started) state) t₁).2) :
    Polls peer probe accept interval timeout started t
      (run peer (readOnce probe accept started unsettled) t).1
      (run peer (readOnce probe accept started unsettled) t).2 := by
  rw [readOnce, run_seq]
  rcases hr : run peer probe t with ⟨failure | state, t₁⟩
  · exact .failed hr
  · cases ha : accept state with
    | true =>
      simp only [ha, if_true]
      exact .accepted hr ha
    | false =>
      simp only [ha, Bool.false_eq_true, if_false]
      exact h state t₁ hr ha

/-- A count of reads that reaches the timeout is never used up. -/
theorem polls_poll (hclock : ∀ t, (run peer probe t).2.clock = t.clock) (more : Nat)
    {t : Transcript Query Answer} (hs : started ≤ t.clock)
    (hmore : timeout ≤ t.clock - started + more * restFor interval) :
    Polls peer probe accept interval timeout started t
      (run peer (poll probe accept interval timeout started more) t).1
      (run peer (poll probe accept interval timeout started more) t).2 := by
  -- The rests that are still counted reach what is left of the timeout.
  induction more generalizing t with
  | zero =>
    refine polls_readOnce fun state t₁ hr ha => .expired hr ha ?_
    have hc : t₁.clock = t.clock := by simpa only [hr] using hclock t
    omega
  | succ more ih =>
    refine polls_readOnce fun state t₁ hr ha => ?_
    have hc : t₁.clock = t.clock := by simpa only [hr] using hclock t
    by_cases hw : timeout ≤ t₁.clock - started
    · simp only [if_pos hw]
      exact .expired hr ha hw
    · simp only [if_neg hw]
      refine .again hr ha (Nat.lt_of_not_le hw) (ih ?_ ?_)
      · exact Nat.le_add_right_of_le (by omega : started ≤ t₁.clock)
      · rw [Nat.succ_mul] at hmore
        change timeout ≤ t₁.clock + restFor interval - started + more * restFor interval
        omega

def rests (rest time : Nat) : Nat := (time + rest - 1) / rest

theorem rests_step {rest : Nat} (hr : 0 < rest) {time : Nat} (ht : 0 < time) :
    rests rest (time - rest) + 1 ≤ rests rest time := by
  have hup : rests rest time = (time - 1) / rest + 1 := by
    rw [rests, ← Nat.add_div_right _ hr]
    congr 1
    omega
  have hdown : rests rest (time - rest) ≤ (time - 1) / rest := by
    rw [rests]
    by_cases h : rest ≤ time
    · exact Nat.div_le_div_right (by omega)
    · rw [Nat.div_eq_of_lt (by omega)]
      exact Nat.zero_le _
  omega

theorem le_rests_mul {rest : Nat} (hr : 0 < rest) (time : Nat) : time ≤ rests rest time * rest := by
  rw [rests]
  have h := Nat.div_add_mod (time + rest - 1) rest
  have hm := Nat.mod_lt (time + rest - 1) hr
  rw [Nat.mul_comm]
  omega

theorem await_waits (hclock : ∀ t, (run peer probe t).2.clock = t.clock) {settling : Settling}
    (hrests : settling.Rests) (t : Transcript Query Answer) :
    Waits peer probe accept t (run peer (settling.await probe accept) t).1
      (run peer (settling.await probe accept) t).2 settling := by
  cases settling with
  | immediate => rfl
  | after delay => rfl
  | polling interval timeout =>
    have hpos := restFor_pos hrests
    have hne : interval ≠ 0 := Nat.ne_of_gt hrests
    apply polls_poll hclock _ (Nat.le_refl _)
    rw [readsAfterFirst, if_neg hne, Nat.sub_self, Nat.zero_add]
    exact le_rests_mul hpos timeout

theorem Polls.bounds (hask : ∀ t, (made peer probe t).length ≤ 1)
    (hclock : ∀ t, (run peer probe t).2.clock = t.clock) (hrest : 0 < restFor interval)
    {t t₁ : Transcript Query Answer} {r : Except Failure State}
    (h : Polls peer probe accept interval timeout started t r t₁) (hs : started ≤ t.clock) :
    t₁.exchanges.length ≤
        t.exchanges.length + 1 + rests (restFor interval) (timeout - (t.clock - started)) ∧
      t₁.clock ≤ t.clock +
        rests (restFor interval) (timeout - (t.clock - started)) * restFor interval := by
  have hread {t t₁ : Transcript Query Answer} {r : Except Failure State}
      (hr : run peer probe t = (r, t₁)) :
      t₁.exchanges.length ≤ t.exchanges.length + 1 ∧ t₁.clock = t.clock := by
    have hx := exchanges_run peer probe t
    have hc := hclock t
    have hl := hask t
    rw [hr] at hx hc
    rw [hx, List.length_append]
    exact ⟨by omega, hc⟩
  induction h with
  | failed hr =>
    obtain ⟨hx, hc⟩ := hread hr
    exact ⟨by omega, by omega⟩
  | accepted hr _ =>
    obtain ⟨hx, hc⟩ := hread hr
    exact ⟨by omega, by omega⟩
  | expired hr _ _ =>
    obtain ⟨hx, hc⟩ := hread hr
    simp only [Transcript.told]
    exact ⟨by omega, by omega⟩
  | @again t t₂ t₃ state r hr _ hw _ ih =>
    obtain ⟨hx, hc⟩ := hread hr
    simp only [Transcript.told, Transcript.rested] at ih
    obtain ⟨ihx, ihc⟩ := ih (by omega)
    -- The rest that follows is one of those that reach the timeout.
    have hleft : 0 < timeout - (t.clock - started) := by omega
    have hstep := rests_step hrest hleft
    have heq : timeout - (t₂.clock + restFor interval - started) =
        timeout - (t.clock - started) - restFor interval := by omega
    rw [heq] at ihx ihc
    refine ⟨by omega, ?_⟩
    have hmul := Nat.mul_le_mul_right (restFor interval) hstep
    rw [Nat.succ_mul] at hmul
    omega

end Settling

end AnalyzerAdmin
