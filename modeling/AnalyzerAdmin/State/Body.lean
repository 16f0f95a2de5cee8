import AnalyzerAdmin.Json.Reader
import AnalyzerAdmin.State.Basic

/-!
# Reported states

A cluster reports its state as a mask of bits, a node as one boolean field for each feature;
both carry the counts under the same fields. Either body decodes to a state, and the fields that
an error names are those of the body.
-/

namespace AnalyzerAdmin

namespace State

def maskField : String := "currentPerformanceAnalyzerClusterState"

def field (body : Members) (name : String) : Except BodyError Json :=
  match body.get? name with
  | some value => .ok value
  | none => .error (.missingField name)

def attributeMembers (body : Members) : List Attribute → Except BodyError Members
  | [] => .ok []
  | a :: as => do
    let value ← field body a.field
    if value.signed?.isNone then .error (.wrongType a.field .integer)
    else return (a.key, value) :: (← attributeMembers body as)

def maskMembers (mask : Nat) : Members :=
  Feature.all.map fun f => (f.key, .bool (mask &&& f.mask ≠ 0))

/-- The listed features by key, read from the fields of a body, whatever their values are. -/
def fieldMembers (body : Members) : List Feature → Except BodyError Members
  | [] => .ok []
  | f :: fs => do
    let value ← field body f.field
    return (f.key, value) :: (← fieldMembers body fs)

/-- An error about the key of a feature becomes one about its field. -/
def nameField : BodyError → BodyError
  | .wrongType name expected =>
    .wrongType (((Feature.ofKey? name).map Feature.field).getD name) expected
  | error => error

def ofClusterBody (body : Json) : Except BodyError State :=
  match body.members? with
  | none => .error .notAnObject
  | some body => do
    let value ← field body maskField
    match value.unsigned? with
    | none => .error (.wrongType maskField .nonNegativeInteger)
    | some mask => ofMembers (maskMembers mask) (← attributeMembers body Attribute.all)

def ofNodeBody (body : Json) : Except BodyError State :=
  match body.members? with
  | none => .error .notAnObject
  | some body => do
    let features ← fieldMembers body Feature.all
    (ofMembers features (← attributeMembers body Attribute.all)).mapError nameField

def mask (s : State) : Nat := s.enabled.foldl (fun mask f => mask ||| f.mask) 0

end State

inductive Scope
  | cluster
  | node
deriving DecidableEq, Repr

def Scope.name : Scope → String
  | .cluster => "cluster"
  | .node => "node"

def State.ofBody : Scope → Json → Except BodyError State
  | .cluster => ofClusterBody
  | .node => ofNodeBody

def State.ofText (scope : Scope) (text : String) : Except BodyError State :=
  match Json.read text with
  | .error error => .error (.json error)
  | .ok body => ofBody scope body

end AnalyzerAdmin
