import AnalyzerAdmin.CommandLine.Settings

/-!
# Reading the command line

Arguments are read from left to right, first those before the command and then those behind it.
An option's value is settled only when the next option or the end is reached, so an argument that
means nothing is reported before a bad value that stands in front of it. Options may stand on
either side of the command; those behind it take precedence.
-/

namespace AnalyzerAdmin.CommandLine

inductive Command
  | verify
  | getState
  | enableMetrics
  | getMetrics
  | enableBatch
  | getBatch (tokens : List BatchToken)
  | reset
deriving DecidableEq, Repr

def Command.ofName? (name : String) : Option (List BatchToken → Command) :=
  match name with
  | "verify" => some fun _ => .verify
  | "get_state" => some fun _ => .getState
  | "enable_metrics" => some fun _ => .enableMetrics
  | "get_metrics" => some fun _ => .getMetrics
  | "enable_batch" => some fun _ => .enableBatch
  | "get_batch" => some .getBatch
  | "reset" => some fun _ => .reset
  | _ => none

def Command.name : Command → String
  | .verify => "verify"
  | .getState => "get_state"
  | .enableMetrics => "enable_metrics"
  | .getMetrics => "get_metrics"
  | .enableBatch => "enable_batch"
  | .getBatch _ => "get_batch"
  | .reset => "reset"

def helpName : String := "help"

def isCommandName (word : String) : Bool := word = helpName || (Command.ofName? word).isSome

inductive Word
  | separator
  | long (name : String) (value : Option String)
  | short (first : Char)
  | plain
deriving DecidableEq, Repr

def Word.of (text : String) : Word :=
  match text.toList with
  | ['-', '-'] => .separator
  | '-' :: '-' :: cs =>
    let name := String.ofList (cs.takeWhile (· ≠ '='))
    match cs.dropWhile (· ≠ '=') with
    | [] => .long name none
    | _ :: value => .long name (some (String.ofList value))
  | '-' :: c :: _ => .short c
  | _ => .plain

/-- What has been read but not settled: an option, with its value once that is there, or tokens
that stand together. -/
inductive Pending
  | nothing
  | option (o : Opt) (value : Option String)
  | tokens (texts : List String)
deriving DecidableEq, Repr

inductive Side
  | before
  | behind (takesTokens : Bool)
deriving DecidableEq, Repr

/-- What one side of the command has come to. `isTrailing` says that a separator was read, behind
which there are no options. -/
structure Scan where
  settings : Settings := {}
  tokens : List BatchToken := []
  pending : Pending := .nothing
  isTrailing : Bool := false
deriving DecidableEq, Repr

def tokensLabel : String := "[OPTIONS]..."

def tokenLimit : Nat := 2

def readTokens : List String → Except Stop (List BatchToken)
  | [] => .ok []
  | text :: rest =>
    match BatchToken.read text with
    | .error fault => .error (.badValue tokensLabel text (.token fault))
    | .ok token => (readTokens rest).map (token :: ·)

namespace Scan

def settle (s : Scan) : Except Stop Scan :=
  match s.pending with
  | .nothing => .ok s
  | .option o none => .error (.missingValue o.label)
  | .option o (some value) =>
    (s.settings.give o value).map fun settings => { s with settings, pending := .nothing }
  | .tokens texts =>
    if tokenLimit < texts.length then .error (.excessValue tokensLabel (texts.getLast?.getD ""))
    else (readTokens texts).map fun tokens =>
      { s with tokens := s.tokens ++ tokens, pending := .nothing }

def awaitsValue (s : Scan) : Bool :=
  match s.pending with
  | .option _ none => true
  | _ => false

def long (side : Side) (s : Scan) (name : String) (value : Option String) : Except Stop Scan :=
  match Opt.ofName? name with
  | some o => do
    let s ← s.settle
    match value with
    | none => return { s with pending := .option o none }
    | some value => return { s with settings := ← s.settings.give o value }
  | none =>
    let isKnown := name = "poll" || name = "help" || (name = "version" && side = .before)
    if !isKnown then .error (.unknownArgument ("--" ++ name))
    else match value with
      | some value => .error (.excessValue ("--" ++ name) value)
      | none => do
        let s ← s.settle
        if name = "poll" then return { s with settings := ← s.settings.givePoll }
        else throw (if name = "help" then .help else .version)

def short (side : Side) (s : Scan) (c : Char) : Except Stop Scan :=
  if c = 'h' then s.settle.bind fun _ => .error .help
  else if c = 'V' ∧ side = .before then s.settle.bind fun _ => .error .version
  else .error (.unknownArgument (String.ofList ['-', c]))

def plain (side : Side) (s : Scan) (text : String) : Except Stop Scan :=
  match side with
  | .before =>
    if s.isTrailing && isCommandName text then .error (.unknownArgument text)
    else .error (.unknownCommand text)
  | .behind false => .error (.unknownArgument text)
  | .behind true =>
    match s.pending with
    | .tokens texts => .ok { s with pending := .tokens (texts ++ [text]) }
    | _ => s.settle.map fun s => { s with pending := .tokens [text] }

def step (side : Side) (s : Scan) (text : String) : Except Stop Scan :=
  if s.isTrailing then s.plain side text
  else match Word.of text with
    | .separator => .ok { s with isTrailing := true }
    | .long name value => s.long side name value
    | .short c => s.short side c
    | .plain =>
      match s.pending with
      | .option o none => .ok { s with pending := .option o (some text) }
      | _ => s.plain side text

def behind (takesTokens : Bool) : Scan → List String → Except Stop Scan
  | s, [] => s.settle
  | s, text :: rest => do
    let s ← s.step (.behind takesTokens) text
    behind takesTokens s rest

/-- The arguments before the command, the command, and the arguments behind it. Nothing is
settled at a command. -/
def before : Scan → List String → Except Stop (Scan × Option (String × List String))
  | s, [] => .ok (s, none)
  | s, text :: rest =>
    if !s.isTrailing && !s.awaitsValue && isCommandName text then .ok (s, some (text, rest))
    else do
      let s ← s.step .before text
      before s rest

end Scan

def helpOn : List String → Stop
  | [] => .help
  | [name] => if isCommandName name then .help else .unknownCommand name
  | name :: next :: _ => .unknownCommand (if isCommandName name then next else name)

structure Invocation where
  settings : Settings
  command : Option Command
deriving DecidableEq, Repr

def Invocation.read (args : List String) : Except Stop Invocation := do
  let (outer, rest) ← Scan.before {} args
  match rest with
  | none =>
    let outer ← outer.settle
    return ⟨outer.settings, none⟩
  | some (name, rest) =>
    match Command.ofName? name with
    | none => throw (helpOn rest)
    | some command =>
      let inner ← Scan.behind (name = "get_batch") {} rest
      let outer ← outer.settle
      return ⟨outer.settings.overriddenBy inner.settings, some (command inner.tokens)⟩

end AnalyzerAdmin.CommandLine
