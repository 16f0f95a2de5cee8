import AnalyzerAdmin.Client.Basic

/-!
# Switching features and reading states

Every feature is switched under its own path segment, the analyzer itself at the bare path, and
at both scopes the bare path is also where the state is read.
-/

namespace AnalyzerAdmin

def analyzerPath : String := "/_opendistro/_performanceanalyzer"

def switchPath (f : Feature) (scope : Scope) : String :=
  let segment := match f.segment with
    | some name => "/" ++ name
    | none => ""
  match scope with
  | .cluster => analyzerPath ++ segment ++ "/cluster/config"
  | .node => analyzerPath ++ segment ++ "/config"

def statePath (scope : Scope) : String := switchPath .analyzer scope

def switchBody (on : Bool) : String := (Json.obj [("enabled", .bool on)]).line

namespace Client

/-- Turns a feature on or off. Only the status of the answer counts. -/
def switch (c : Client) (f : Feature) (on : Bool) (scope : Scope) : Session Unit := do
  let url := c.address.url (switchPath f scope)
  let enable := String.ofList (Json.writtenWord on)
  Session.log .debug "POST" [("url", url), ("enable", enable)]
  let _ ← Session.request .post url (some (switchBody on))
  Session.log .info "toggled feature"
    [("feature", f.key), ("scope", scope.name), ("enable", enable)]

def switchKey (c : Client) (key : String) (on : Bool) (scope : Scope) : Session Unit := do
  let f ← Session.ofExcept (Feature.ofKey key)
  c.switch f on scope

def reset (c : Client) (scope : Scope) : Session Unit := c.switch .analyzer false scope

def resetBoth (c : Client) : Session Unit := do
  c.reset .cluster
  c.reset .node

def readState (c : Client) (scope : Scope) : Session State := do
  let body ← Session.getJson (c.address.url (statePath scope))
  let state ← Session.ofExcept ((State.ofBody scope body).mapError .body)
  Session.log .info "read state" [("scope", scope.name), ("state", state.render)]
  return state

def awaitState (c : Client) (scope : Scope) (settling : Settling) (accept : State → Bool) :
    Session State :=
  ExceptT.mk (settling.await (c.readState scope).run accept)

end Client

end AnalyzerAdmin
