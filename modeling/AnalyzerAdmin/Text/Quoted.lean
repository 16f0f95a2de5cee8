import AnalyzerAdmin.Text.Printable

/-!
# Quoted texts

A text between double quotes in which every character can be seen: the usual short escapes, and
the code point in braces for whatever does not show as itself.
-/

namespace AnalyzerAdmin.Text

def shortEscape? : Char → Option Char
  | '\x00' => some '0'
  | '\t' => some 't'
  | '\r' => some 'r'
  | '\n' => some 'n'
  | '\\' => some '\\'
  | '"' => some '"'
  | _ => none

def quotedChar (c : Char) : List Char :=
  match shortEscape? c with
  | some e => ['\\', e]
  | none =>
    if isShown c then [c]
    else ['\\', 'u', '\x7b'] ++ Nat.toDigits 16 c.toNat ++ ['\x7d']

def quoted (s : String) : String :=
  String.ofList ('"' :: s.toList.flatMap quotedChar ++ ['"'])

def bracketed (items : List String) : String :=
  "[" ++ ", ".intercalate items ++ "]"

def quotedList (items : List String) : String :=
  bracketed (items.map quoted)

end AnalyzerAdmin.Text
