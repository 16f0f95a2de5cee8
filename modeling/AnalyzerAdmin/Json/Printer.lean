import AnalyzerAdmin.Json.Basic
import AnalyzerAdmin.Number.Written
import AnalyzerAdmin.Text.Decimal

/-!
# Writing JSON

Two layouts: everything on one line without a blank, and one element or member to a line with
four spaces for every container around it.
-/

namespace AnalyzerAdmin.Json

/-- Floating-point numbers from `10^-5` up to `10^16` are written in full, whole ones end in
`.0`, and an exponent has its sign. -/
def realStyle : NumberStyle := ⟨-5, 15, ['.', '0'], 'e', ['+']⟩

def hexChar (n : Nat) : Char := Nat.digitChar n

def writtenChar (c : Char) : List Char :=
  match c with
  | '"' => ['\\', '"']
  | '\\' => ['\\', '\\']
  | '\x08' => ['\\', 'b']
  | '\x0c' => ['\\', 'f']
  | '\n' => ['\\', 'n']
  | '\r' => ['\\', 'r']
  | '\t' => ['\\', 't']
  | c =>
    if c.toNat < 0x20 then ['\\', 'u', '0', '0', hexChar (c.toNat / 16), hexChar (c.toNat % 16)]
    else [c]

def writtenString (s : String) : List Char := '"' :: s.toList.flatMap writtenChar ++ ['"']

def writtenWord (b : Bool) : List Char :=
  if b then ['t', 'r', 'u', 'e'] else ['f', 'a', 'l', 's', 'e']

mutual

def compact : Json → List Char
  | .null => ['n', 'u', 'l', 'l']
  | .bool b => writtenWord b
  | .int i => Decimal.ofInt i
  | .real x => realStyle.write x
  | .str s => writtenString s
  | .arr [] => ['[', ']']
  | .arr (v :: vs) => '[' :: compact v ++ compactItems vs
  | .obj [] => ['{', '}']
  | .obj ((n, v) :: ps) => '{' :: writtenString n ++ ':' :: compact v ++ compactMembers ps

def compactItems : List Json → List Char
  | [] => [']']
  | v :: vs => ',' :: compact v ++ compactItems vs

def compactMembers : List (String × Json) → List Char
  | [] => ['}']
  | (n, v) :: ps => ',' :: writtenString n ++ ':' :: compact v ++ compactMembers ps

end

def newLine (depth : Nat) : List Char := '\n' :: List.replicate (4 * depth) ' '

mutual

def indented (depth : Nat) : Json → List Char
  | .null => ['n', 'u', 'l', 'l']
  | .bool b => writtenWord b
  | .int i => Decimal.ofInt i
  | .real x => realStyle.write x
  | .str s => writtenString s
  | .arr [] => ['[', ']']
  | .arr (v :: vs) =>
    '[' :: newLine (depth + 1) ++ indented (depth + 1) v ++ indentedItems depth vs
  | .obj [] => ['{', '}']
  | .obj ((n, v) :: ps) =>
    '{' :: newLine (depth + 1) ++ writtenString n ++ ':' :: ' ' :: indented (depth + 1) v ++
      indentedMembers depth ps

def indentedItems (depth : Nat) : List Json → List Char
  | [] => newLine depth ++ [']']
  | v :: vs => ',' :: newLine (depth + 1) ++ indented (depth + 1) v ++ indentedItems depth vs

def indentedMembers (depth : Nat) : List (String × Json) → List Char
  | [] => newLine depth ++ ['}']
  | (n, v) :: ps =>
    ',' :: newLine (depth + 1) ++ writtenString n ++ ':' :: ' ' :: indented (depth + 1) v ++
      indentedMembers depth ps

end

def line (json : Json) : String := String.ofList json.compact

def pretty (json : Json) : String := String.ofList (json.indented 0)

end AnalyzerAdmin.Json
