import AnalyzerAdmin.Number.Binary64

/-!
# JSON values

Values of the data format, with whole numbers kept apart from floating-point ones. The members
of an object are a list of pairs; objects that were read have one member per name, in the order
of the names, and `Members.insert` keeps that order.
-/

namespace AnalyzerAdmin

inductive Json
  | null
  | bool (value : Bool)
  | int (value : Int)
  | real (value : Binary64)
  | str (value : String)
  | arr (items : List Json)
  | obj (members : List (String × Json))
deriving Inhabited

abbrev Members := List (String × Json)

namespace Members

def insert (name : String) (value : Json) : Members → Members
  | [] => [(name, value)]
  | (n, v) :: rest =>
    if name < n then (name, value) :: (n, v) :: rest
    else if name = n then (name, value) :: rest
    else (n, v) :: insert name value rest

/-- The members of a written object: of several with one name the last one stands. -/
def ofWritten (pairs : List (String × Json)) : Members :=
  pairs.foldl (fun members pair => members.insert pair.1 pair.2) []

def get? (members : Members) (name : String) : Option Json := members.lookup name

def insertName (name : String) : List String → List String
  | [] => [name]
  | n :: rest =>
    if name < n then name :: n :: rest
    else if name = n then n :: rest
    else n :: insertName name rest

def names (members : Members) : List String :=
  members.foldr (fun pair names => insertName pair.1 names) []

end Members

namespace Json

def members? : Json → Option Members
  | .obj members => some members
  | _ => none

def bool? : Json → Option Bool
  | .bool b => some b
  | _ => none

def str? : Json → Option String
  | .str s => some s
  | _ => none

def unsigned? : Json → Option Nat
  | .int i => if 0 ≤ i ∧ i < 2 ^ 64 then some i.toNat else none
  | _ => none

def signed? : Json → Option Int64
  | .int i => if -2 ^ 63 ≤ i ∧ i < 2 ^ 63 then some (Int64.ofInt i) else none
  | _ => none

def get? (json : Json) (name : String) : Option Json :=
  json.members?.bind (·.get? name)

end Json

end AnalyzerAdmin
