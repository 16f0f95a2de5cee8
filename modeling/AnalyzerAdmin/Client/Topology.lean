import AnalyzerAdmin.Client.Basic

/-!
# Checking the topology

What a cluster says of itself, for reading and for checking against the expected topology. Node
and plugin checks look for a piece of text in a listing and do not parse its columns.
-/

namespace AnalyzerAdmin

def nodesPath : String := "/_cat/nodes?v"

def pluginsPath : String := "/_cat/plugins?v"

def pluginName : String := "opendistro_performance_analyzer"

def occursIn (piece text : List Char) : Bool :=
  match text with
  | [] => piece.isEmpty
  | c :: rest => piece.isPrefixOf (c :: rest) || occursIn piece rest

def isListed (listing : String) (piece : String) : Bool := occursIn piece.toList listing.toList

def textAt (json : Json) (path : List String) : Except Failure String :=
  let name := ".".intercalate path
  match path.foldl (fun value name => value.bind (·.get? name)) (some json) with
  | none => .error (.body (.missingField name))
  | some value =>
    match value.str? with
    | some text => .ok text
    | none => .error (.body (.wrongType name .string))

namespace Client

def refuse {α : Type} (check : Mismatch) : Session α := do
  Session.log .warn "cluster verification failed" [("check", check.message)]
  throw (.mismatch check)

def describe (c : Client) : Session String := do
  let root ← Session.getJson (c.address.url "/")
  let nodes ← Session.getText (c.address.url nodesPath)
  let plugins ← Session.getText (c.address.url pluginsPath)
  return root.pretty ++ "\n\n" ++ nodes ++ "\n" ++ plugins

def checkRoot (c : Client) (root : Json) : Session String := do
  let version ← Session.ofExcept (textAt root ["version", "number"])
  if version ≠ c.topology.version then refuse (.version c.topology.version version)
  let name ← Session.ofExcept (textAt root ["name"])
  if !c.topology.expects name then refuse (.unexpectedNode name)
  return version

def checkNodes (c : Client) (listing : String) : Session Unit :=
  match c.topology.nodes.find? fun node => !isListed listing node with
  | some node => refuse (.missingNode node)
  | none => return

def checkPlugins (c : Client) (listing : String) : Session Unit :=
  match c.topology.nodes.find? fun node => !isListed listing (node ++ " " ++ pluginName) with
  | some node => refuse (.missingPlugin node)
  | none => return

def verify (c : Client) : Session Unit := do
  let root ← Session.getJson (c.address.url "/")
  let version ← c.checkRoot root
  c.checkNodes (← Session.getText (c.address.url nodesPath))
  c.checkPlugins (← Session.getText (c.address.url pluginsPath))
  Session.log .info "cluster config verified"
    [("version", Text.quoted version), ("nodes", Text.quotedList c.topology.nodes)]

end Client

end AnalyzerAdmin
