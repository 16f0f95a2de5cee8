import AnalyzerAdmin.Client.Metrics
import AnalyzerAdmin.Client.Switch
import AnalyzerAdmin.Client.Topology
import AnalyzerAdmin.CommandLine.Manual

/-!
# The program

What each command does, as a dialogue with the cluster, and what a whole run writes and returns.
A command prints nothing before all that it prints has been read, except that `get_state` prints
the cluster's state before it asks the node and `verify` what it read before it checks it.
-/

namespace AnalyzerAdmin

open CommandLine

inductive Context
  | describing (base : String)
  | verifying
  | enabling (f : Feature)
  | resetting
  | fetching
  | fetchingBatch
deriving DecidableEq, Repr

def Context.message : Context → String
  | .describing base => "failed to read cluster config from " ++ base
  | .verifying => "cluster verification failed"
  | .enabling f => "failed to enable " ++ f.key
  | .resetting => "failed to reset state"
  | .fetching => "failed to fetch metrics"
  | .fetchingBatch => "failed to fetch batch metrics"

inductive Abort
  | usage (fault : UsageFault)
  | failed (context : Option Context) (failure : Failure)
deriving DecidableEq, Repr

namespace Abort

def chain : Abort → List String
  | .usage fault => [fault.message]
  | .failed none failure => failure.message :: failure.causes
  | .failed (some context) failure => context.message :: failure.message :: failure.causes

def indent (width : Nat) (text : String) : String :=
  String.ofList (text.toList.flatMap fun c =>
    if c = '\n' then '\n' :: List.replicate width ' ' else [c])

def numbered : Nat → List String → String
  | _, [] => ""
  | n, cause :: rest =>
    let number := Decimal.ofNat n
    let space := List.replicate (5 - number.length) ' '
    String.ofList (space ++ number) ++ ": " ++ indent 7 cause ++ "\n" ++ numbered (n + 1) rest

def report : List String → String
  | [] => ""
  | [message] => "Error: " ++ message ++ "\n"
  | [message, cause] => "Error: " ++ message ++ "\n\nCaused by:\n    " ++ indent 4 cause ++ "\n"
  | message :: causes => "Error: " ++ message ++ "\n\nCaused by:\n" ++ numbered 0 causes

end Abort

abbrev Action (α : Type) := ExceptT Abort (Dialogue Request Reply) α

namespace Action

variable {α : Type}

def session (context : Option Context) (s : Session α) : Action α :=
  ExceptT.mk ((·.mapError (.failed context)) <$> s.run)

def print (text : String) : Action Unit := ExceptT.lift (Dialogue.print text)

end Action

namespace Program

/-- Reads both states as a settling demands and prints them, the cluster's first. After a delay
for the cluster the node is read at once; polling starts anew. -/
def showSettled (c : Client) (settling : Settling) (accept : State → Bool) : Action Unit := do
  let cluster ← Action.session none (c.awaitState .cluster settling accept)
  let again := match settling with
    | .polling _ _ => settling
    | _ => .immediate
  let node ← Action.session none (c.awaitState .node again accept)
  Action.print cluster.render
  Action.print node.render

/-- Whether a state shows that a feature was turned on. Without the analyzer no other feature
stays on, so a state without it will not change any more. -/
def showsEnabled (f : Feature) (s : State) : Bool :=
  s.isOn f || (f ≠ .analyzer && !s.isOn .analyzer)

def showsReset (s : State) : Bool := !s.isOn .analyzer

def enable (c : Client) (settling : Settling) (f : Feature) : Action Unit := do
  Action.session (some (.enabling f)) (c.switch f true .cluster)
  showSettled c settling (showsEnabled f)

def perform (c : Client) (settling : Settling) (now : Int) : Command → Action Unit
  | .verify => do
    Action.print (← Action.session (some (.describing c.address.baseUrl)) c.describe)
    Action.session (some .verifying) c.verify
    Action.print "cluster config verified"
  | .getState => do
    Action.print (← Action.session none (c.readState .cluster)).render
    Action.print (← Action.session none (c.readState .node)).render
  | .enableMetrics => enable c settling .analyzer
  | .enableBatch => enable c settling .batch
  | .getMetrics => do
    Action.print (← Action.session (some .fetching) c.metrics).pretty
  | .getBatch tokens =>
    match batchOptions tokens with
    | .error fault => throw (.usage fault)
    | .ok options => do
      let window := Window.ending now Window.length
      Action.print
        (← Action.session (some .fetchingBatch) (c.batchMetrics window options)).pretty
  | .reset => do
    Action.session (some .resetting) c.resetBoth
    showSettled c settling showsReset

def describe : Command → String
  | .verify => "Verify"
  | .getState => "GetState"
  | .enableMetrics => "EnableMetrics"
  | .getMetrics => "GetMetrics"
  | .enableBatch => "EnableBatch"
  | .getBatch tokens =>
    "GetBatch(GetBatchArgs \x7b options: " ++
      Text.bracketed (tokens.map BatchToken.describe) ++ " \x7d)"
  | .reset => "Reset"

/-- What an invocation does. Without a command nothing is done, not even a check of the
settings. -/
def action (invocation : Invocation) (now : Int) : Action Unit :=
  match invocation.command with
  | none => return
  | some command =>
    match invocation.settings.settling with
    | .error fault => throw (.usage fault)
    | .ok settling => do
      let client : Client := ⟨invocation.settings.address, invocation.settings.topology⟩
      ExceptT.lift (Dialogue.log .info "running command"
        [("host", client.address.baseUrl), ("command", describe command)])
      perform client settling now command

structure Outcome where
  exit : Nat
  stdout : String
  stderr : String
  exchanges : List (Exchange Request Reply)
deriving DecidableEq, Repr

def lines (texts : List String) : String := String.join (texts.map (· ++ "\n"))

def Outcome.early (stop : Stop) : Outcome :=
  match stop with
  | .help => ⟨0, helpText, "", []⟩
  | .version => ⟨0, lines [versionText], "", []⟩
  | stop => ⟨2, "", stop.render, []⟩

def Outcome.ofTranscript (filter : Log.Filter) (result : Except Abort Unit)
    (t : Transcript Request Reply) : Outcome :=
  let shown := (Event.entries t.events).filter fun e => filter.allows e.level
  let log := lines (shown.map Log.Entry.render)
  let stdout := lines (Event.output t.events)
  match result with
  | .ok _ => ⟨0, stdout, log, t.exchanges⟩
  | .error abort => ⟨1, stdout, log ++ Abort.report abort.chain, t.exchanges⟩

def run (args : List String) (filter : Log.Filter) (now : Int) (server : Server) : Outcome :=
  match Invocation.read args with
  | .error stop => .early stop
  | .ok invocation =>
    let (result, t) := (action invocation now).run.run server {}
    .ofTranscript filter result t

end Program

end AnalyzerAdmin
