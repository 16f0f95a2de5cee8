import AnalyzerAdmin.Json.Fault
import AnalyzerAdmin.Text.Quoted

/-!
# What a body can lack

Defects of a reported state: a text that is no JSON, a value that is no object, and fields that
are missing, of another type, or not the known ones.
-/

namespace AnalyzerAdmin

inductive Expected
  | boolean
  | integer
  | nonNegativeInteger
  | string
deriving DecidableEq, Repr

def Expected.phrase : Expected → String
  | .boolean => "a boolean"
  | .integer => "an integer"
  | .nonNegativeInteger => "a non-negative integer"
  | .string => "a string"

inductive KeyKind
  | feature
  | attribute
deriving DecidableEq, Repr

def KeyKind.phrase : KeyKind → String
  | .feature => "feature"
  | .attribute => "attribute"

inductive BodyError
  | json (error : Json.ReadError)
  | notAnObject
  | missingField (name : String)
  | wrongType (name : String) (expected : Expected)
  | keySet (kind : KeyKind) (expected actual : List String)
deriving DecidableEq, Repr

def BodyError.message : BodyError → String
  | .json error => "invalid JSON: " ++ error.message
  | .notAnObject => "expected a JSON object"
  | .missingField name => "missing field '" ++ name ++ "'"
  | .wrongType name expected => "field '" ++ name ++ "' is not " ++ expected.phrase
  | .keySet kind expected actual =>
    "invalid " ++ kind.phrase ++ " key set: expected " ++ Text.quotedList expected ++ ", got " ++
      Text.quotedList actual

end AnalyzerAdmin
