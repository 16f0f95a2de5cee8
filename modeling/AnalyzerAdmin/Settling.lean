import AnalyzerAdmin.Failure

/-!
# Waiting for a write to show

A switch is acknowledged before the new state can be read. A `Settling` says how to read then: at
once, after a delay, or again and again until a state is accepted or the time has run out. No rest
before a read is longer than thirty years.
-/

namespace AnalyzerAdmin

/-- How to read a state that was just changed. Times are milliseconds. -/
inductive Settling
  | immediate
  | after (delay : Nat)
  | polling (interval timeout : Nat)
deriving DecidableEq, Repr

namespace Settling

def standard : Settling := .after 100

def standardTimeout : Nat := 5000

def longestRest : Nat := 30 * 365 * 24 * 60 * 60 * 1000

def restFor (time : Nat) : Nat := min time longestRest

variable {Query Answer : Type}

def giveUp (waited : Nat) (state : State) : Dialogue Query Answer (Except Failure State) := do
  Dialogue.log .warn "state did not converge"
    [("waited", renderSpan waited), ("state", state.render)]
  return .error (.notConverged waited state)

/-- One read: its failure, or its state if that is accepted, or else what `unsettled` makes of
the time waited since `started` and the state. -/
def readOnce (probe : Dialogue Query Answer (Except Failure State)) (accept : State → Bool)
    (started : Nat) (unsettled : Nat → State → Dialogue Query Answer (Except Failure State)) :
    Dialogue Query Answer (Except Failure State) := do
  match ← probe with
  | .error failure => return .error failure
  | .ok state =>
    if accept state then return .ok state
    else unsettled ((← Dialogue.now) - started) state

def poll (probe : Dialogue Query Answer (Except Failure State)) (accept : State → Bool)
    (interval timeout started : Nat) : Nat → Dialogue Query Answer (Except Failure State)
  | 0 => readOnce probe accept started giveUp
  | more + 1 =>
    readOnce probe accept started fun waited state =>
      if timeout ≤ waited then giveUp waited state
      else do
        Dialogue.log .debug "state not settled yet" [("state", state.render)]
        Dialogue.rest (restFor interval)
        poll probe accept interval timeout started more

/-- How many reads may follow the first: each comes a rest after the one before, so this many
reach the timeout. Without an interval each read takes at least a nanosecond. -/
def readsAfterFirst (interval timeout : Nat) : Nat :=
  if interval = 0 then timeout * 1000000
  else (timeout + restFor interval - 1) / restFor interval

/-- Reads a state. Only polling asks whether a state is accepted; the other ways return whatever
they read first. -/
def await (settling : Settling) (probe : Dialogue Query Answer (Except Failure State))
    (accept : State → Bool) : Dialogue Query Answer (Except Failure State) :=
  match settling with
  | .immediate => probe
  | .after delay => do
    Dialogue.rest (restFor delay)
    probe
  | .polling interval timeout => do
    let started ← Dialogue.now
    poll probe accept interval timeout started (readsAfterFirst interval timeout)

end Settling

end AnalyzerAdmin
