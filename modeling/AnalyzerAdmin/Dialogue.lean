import AnalyzerAdmin.Log

/-!
# Dialogues

A course of action as a tree: it asks a peer and goes on as the answer demands, pauses, reads a
clock, and tells what it does. `run` plays a dialogue against a peer that is a function of what
was asked before, on a clock that moves only in pauses, and keeps the transcript.
-/

namespace AnalyzerAdmin

inductive Event
  | line (text : String)
  | entry (entry : Log.Entry)
deriving DecidableEq, Repr

/-- A dialogue with a peer that answers each `Query` with an `Answer`. Times are milliseconds. -/
inductive Dialogue (Query Answer α : Type)
  | done (result : α)
  | ask (query : Query) (next : Answer → Dialogue Query Answer α)
  | pause (time : Nat) (next : Dialogue Query Answer α)
  | readClock (next : Nat → Dialogue Query Answer α)
  | tell (event : Event) (next : Dialogue Query Answer α)

structure Exchange (Query Answer : Type) where
  query : Query
  answer : Answer
  time : Nat
deriving DecidableEq, Repr

abbrev Peer (Query Answer : Type) := List (Exchange Query Answer) → Query → Answer

structure Transcript (Query Answer : Type) where
  exchanges : List (Exchange Query Answer) := []
  clock : Nat := 0
  events : List Event := []
deriving DecidableEq, Repr

namespace Dialogue

variable {Query Answer α β : Type}

def bind : Dialogue Query Answer α → (α → Dialogue Query Answer β) → Dialogue Query Answer β
  | done a, f => f a
  | ask q next, f => ask q fun answer => bind (next answer) f
  | pause t next, f => pause t (bind next f)
  | readClock next, f => readClock fun now => bind (next now) f
  | tell e next, f => tell e (bind next f)

instance : Monad (Dialogue Query Answer) where
  pure := done
  bind := bind

def question (q : Query) : Dialogue Query Answer Answer := ask q done

def rest (time : Nat) : Dialogue Query Answer Unit := pause time (done ())

def now : Dialogue Query Answer Nat := readClock done

def print (text : String) : Dialogue Query Answer Unit := tell (.line text) (done ())

def log (level : Log.Level) (message : String) (values : List (String × String)) :
    Dialogue Query Answer Unit :=
  tell (.entry ⟨level, message, values⟩) (done ())

def run (peer : Peer Query Answer) :
    Dialogue Query Answer α → Transcript Query Answer → α × Transcript Query Answer
  | done a, t => (a, t)
  | ask q next, t =>
    let answer := peer t.exchanges q
    run peer (next answer) { t with exchanges := t.exchanges ++ [⟨q, answer, t.clock⟩] }
  | pause time next, t => run peer next { t with clock := t.clock + time }
  | readClock next, t => run peer (next t.clock) t
  | tell e next, t => run peer next { t with events := t.events ++ [e] }

theorem run_bind (peer : Peer Query Answer) (d : Dialogue Query Answer α)
    (f : α → Dialogue Query Answer β) (t : Transcript Query Answer) :
    run peer (d.bind f) t = run peer (f (run peer d t).1) (run peer d t).2 := by
  induction d generalizing t with
  | done a => rfl
  | ask q next ih => exact ih _ _
  | pause time next ih => exact ih _
  | readClock next ih => exact ih _ _
  | tell e next ih => exact ih _

end Dialogue

def Event.output (events : List Event) : List String :=
  events.filterMap fun
    | .line text => some text
    | .entry _ => none

def Event.entries (events : List Event) : List Log.Entry :=
  events.filterMap fun
    | .line _ => none
    | .entry e => some e

end AnalyzerAdmin
