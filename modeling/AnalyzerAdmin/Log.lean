/-!
# The log

Entries with a level, a message and named values, and the filter that decides which of them are
written. A filter is a list of directives separated by commas; the directive with the longest
fitting target decides.
-/

namespace AnalyzerAdmin.Log

inductive Level
  | trace
  | debug
  | info
  | warn
  | error
deriving DecidableEq, Repr

def Level.rank : Level → Nat
  | .trace => 0
  | .debug => 1
  | .info => 2
  | .warn => 3
  | .error => 4

def Level.name : Level → String
  | .trace => "TRACE"
  | .debug => "DEBUG"
  | .info => "INFO"
  | .warn => "WARN"
  | .error => "ERROR"

structure Entry where
  level : Level
  message : String
  values : List (String × String)
deriving DecidableEq, Repr

def Entry.render (e : Entry) : String :=
  " ".intercalate (e.level.name :: e.message :: e.values.map fun v => v.1 ++ "=" ++ v.2)

def target : String := "perf_analyzer_client"

/-- Entries of targets that begin with `scope` are written from level `least` on; none are, if
there is no level. -/
structure Directive where
  scope : String
  least : Option Level
deriving DecidableEq, Repr

def level? (word : String) : Option (Option Level) :=
  match String.ofList (word.toList.map Char.toLower) with
  | "off" | "0" => some none
  | "error" | "1" => some (some .error)
  | "warn" | "2" => some (some .warn)
  | "info" | "3" => some (some .info)
  | "debug" | "4" => some (some .debug)
  | "trace" | "5" => some (some .trace)
  | _ => none

def Directive.read? (word : String) : Option Directive :=
  match word.splitOn "=" with
  | [one] =>
    match level? one with
    | some least => some ⟨"", least⟩
    | none => some ⟨one, some .trace⟩
  | [scope, least] => (level? least).map fun least => ⟨scope, least⟩
  | _ => none

abbrev Filter := List Directive

def Filter.standard : Filter := [⟨"", some .warn⟩]

/-- The directives of a text. An empty text keeps errors only, and a text with a defect stands
for the standard filter. -/
def Filter.read (text : String) : Filter :=
  match (text.splitOn ",").filter (· ≠ "") with
  | [] => [⟨"", some .error⟩]
  | words => (words.mapM Directive.read?).getD standard

def closer (best : Option Directive) (d : Directive) : Option Directive :=
  match best with
  | none => some d
  | some b => if b.scope.length ≤ d.scope.length then some d else best

def Filter.allows (filter : Filter) (level : Level) : Bool :=
  let fitting := filter.filter fun d => d.scope.toList.isPrefixOf target.toList
  match fitting.foldl closer none with
  | some ⟨_, some least⟩ => least.rank ≤ level.rank
  | _ => false

end AnalyzerAdmin.Log
