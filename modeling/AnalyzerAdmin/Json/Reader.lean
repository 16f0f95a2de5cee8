import AnalyzerAdmin.Json.Numeral
import AnalyzerAdmin.Text.Hexadecimal

/-!
# Reading JSON

`read` takes a whole text to its value or to the first defect. Values nest at most 127 deep. A
reader of a value takes the characters that are left and returns what it leaves; lists and
strings are loops that run at most as often as the text has characters.
-/

namespace AnalyzerAdmin.Json

def isBlank (c : Char) : Bool := c = ' ' || c = '\t' || c = '\n' || c = '\r'

def skipBlank (cs : List Char) : List Char := cs.dropWhile isBlank

def word (value : Json) : List Char → List Char → Reading Json
  | [], cs => .ok (value, cs)
  | _ :: _, [] => stopAtEnd .endInValue
  | w :: ws, c :: cs => if c = w then word value ws cs else stopAt .expectedWord (c :: cs)

/-- Four hexadecimal digits. Four octets are taken whatever they are. -/
def hexCode (cs : List Char) : Reading Nat :=
  if octets (cs.take 4) < 4 then stopAtEnd .endInString
  else match cs with
    | a :: b :: c :: d :: left =>
      match Hexadecimal.digit? a, Hexadecimal.digit? b, Hexadecimal.digit? c,
          Hexadecimal.digit? d with
      | some a, some b, some c, some d => .ok (((a * 16 + b) * 16 + c) * 16 + d, left)
      | _, _, _, _ => .error ⟨.invalidEscape, cs, 4⟩
    | _ => .error ⟨.invalidEscape, cs, 4⟩

def lowSurrogate (high : Nat) (cs : List Char) : Reading Char :=
  match cs with
  | [] => stopAtEnd .endInString
  | '\\' :: [] => stopAtEnd .endInString
  | '\\' :: 'u' :: rest =>
    (hexCode rest).andThen fun low left =>
      if 0xdc00 ≤ low ∧ low ≤ 0xdfff then
        .ok (Char.ofNat ((high - 0xd800) * 0x400 + (low - 0xdc00) + 0x10000), left)
      else stopBefore .loneSurrogate left
  | '\\' :: rest => stopAt .unpairedEscape rest
  | rest => stopAt .unpairedEscape rest

def codeEscape (cs : List Char) : Reading Char :=
  (hexCode cs).andThen fun code left =>
    if 0xdc00 ≤ code ∧ code ≤ 0xdfff then stopBefore .loneSurrogate left
    else if 0xd800 ≤ code ∧ code ≤ 0xdbff then lowSurrogate code left
    else .ok (Char.ofNat code, left)

def shortEscape? : Char → Option Char
  | '"' => some '"'
  | '\\' => some '\\'
  | '/' => some '/'
  | 'b' => some '\x08'
  | 'f' => some '\x0c'
  | 'n' => some '\n'
  | 'r' => some '\r'
  | 't' => some '\t'
  | _ => none

def escape (cs : List Char) : Reading Char :=
  match cs with
  | [] => stopAtEnd .endInString
  | 'u' :: rest => codeEscape rest
  | c :: rest =>
    match shortEscape? c with
    | some d => .ok (d, rest)
    | none => stopAt .invalidEscape cs

def string : Nat → List Char → Reading (List Char)
  | 0, _ => stopAtEnd .endInString
  | _ + 1, [] => stopAtEnd .endInString
  | _ + 1, '"' :: left => .ok ([], left)
  | size + 1, '\\' :: rest =>
    (escape rest).andThen fun c left => (string size left).mapResult (c :: ·)
  | size + 1, c :: rest =>
    if c.toNat < 0x20 then stopAt .controlCharacter (c :: rest)
    else (string size rest).mapResult (c :: ·)

def moreItems (item : List Char → Reading Json) : Nat → List Char → Reading (List Json)
  | 0, _ => stopAtEnd .endInList
  | size + 1, cs =>
    match skipBlank cs with
    | [] => stopAtEnd .endInList
    | ']' :: left => .ok ([], left)
    | ',' :: rest =>
      match skipBlank rest with
      | [] => stopAtEnd .endInValue
      | ']' :: left => stopAt .trailingComma (']' :: left)
      | rest => (item rest).andThen fun v left => (moreItems item size left).mapResult (v :: ·)
    | rest => stopAt .expectedListEnd rest

def items (item : List Char → Reading Json) (size : Nat) (cs : List Char) :
    Reading (List Json) :=
  match skipBlank cs with
  | [] => stopAtEnd .endInList
  | ']' :: left => .ok ([], left)
  | rest => (item rest).andThen fun v left => (moreItems item size left).mapResult (v :: ·)

def memberValue (item : List Char → Reading Json) (cs : List Char) : Reading Json :=
  match skipBlank cs with
  | [] => stopAtEnd .endInObject
  | ':' :: rest => item rest
  | rest => stopAt .expectedColon rest

def member (item : List Char → Reading Json) (size : Nat) (cs : List Char) :
    Reading (String × Json) :=
  match cs with
  | '"' :: rest =>
    (string size rest).andThen fun name left =>
      (memberValue item left).mapResult fun v => (String.ofList name, v)
  | _ => stopAt .nameNotString cs

def moreMembers (item : List Char → Reading Json) (size : Nat) :
    Nat → List Char → Reading (List (String × Json))
  | 0, _ => stopAtEnd .endInObject
  | count + 1, cs =>
    match skipBlank cs with
    | [] => stopAtEnd .endInObject
    | '}' :: left => .ok ([], left)
    | ',' :: rest =>
      match skipBlank rest with
      | [] => stopAtEnd .endInValue
      | '}' :: left => stopAt .trailingComma ('}' :: left)
      | rest =>
        (member item size rest).andThen fun p left =>
          (moreMembers item size count left).mapResult (p :: ·)
    | rest => stopAt .expectedObjectEnd rest

def pairs (item : List Char → Reading Json) (size : Nat) (cs : List Char) :
    Reading (List (String × Json)) :=
  match skipBlank cs with
  | [] => stopAtEnd .endInObject
  | '}' :: left => .ok ([], left)
  | rest =>
    (member item size rest).andThen fun p left =>
      (moreMembers item size size left).mapResult (p :: ·)

/-- A value that holds at most `depth` containers inside one another. -/
def value (size : Nat) : Nat → List Char → Reading Json
  | depth, cs =>
    match skipBlank cs with
    | [] => stopAtEnd .endInValue
    | 'n' :: rest => word .null ['u', 'l', 'l'] rest
    | 't' :: rest => word (.bool true) ['r', 'u', 'e'] rest
    | 'f' :: rest => word (.bool false) ['a', 'l', 's', 'e'] rest
    | '"' :: rest => (string size rest).mapResult fun s => .str (String.ofList s)
    | '[' :: rest =>
      match depth with
      | 0 => stopAt .tooDeep ('[' :: rest)
      | depth + 1 => (items (value size depth) size rest).mapResult .arr
    | '{' :: rest =>
      match depth with
      | 0 => stopAt .tooDeep ('{' :: rest)
      | depth + 1 =>
        (pairs (value size depth) size rest).mapResult fun ps => .obj (Members.ofWritten ps)
    | c :: rest =>
      if c = '-' ∨ Decimal.isDigit c then Numeral.read (c :: rest)
      else stopAt .expectedValue (c :: rest)

def depthLimit : Nat := 127

def read (text : String) : Except ReadError Json :=
  let cs := text.toList
  match value cs.length depthLimit cs with
  | .error stop => .error (stop.toError cs)
  | .ok (json, left) =>
    match skipBlank left with
    | [] => .ok json
    | rest => .error ((Stop.mk .trailingText rest 1).toError cs)

end AnalyzerAdmin.Json
