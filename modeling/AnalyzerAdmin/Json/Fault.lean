/-!
# Where a JSON text breaks off

The defects of a text, and their place. The reader works on the characters that are left, so a
place is what is left together with the octets looked at beyond it; line and column follow from
the whole text. Columns count octets of UTF-8 behind the last line feed.
-/

namespace AnalyzerAdmin.Json

inductive Defect
  | endInValue
  | endInString
  | endInList
  | endInObject
  | expectedValue
  | expectedWord
  | invalidNumber
  | numberTooLarge
  | controlCharacter
  | invalidEscape
  | loneSurrogate
  | unpairedEscape
  | expectedListEnd
  | expectedObjectEnd
  | expectedColon
  | nameNotString
  | trailingComma
  | tooDeep
  | trailingText
deriving DecidableEq, Repr

def Defect.message : Defect → String
  | .endInValue => "EOF while parsing a value"
  | .endInString => "EOF while parsing a string"
  | .endInList => "EOF while parsing a list"
  | .endInObject => "EOF while parsing an object"
  | .expectedValue => "expected value"
  | .expectedWord => "expected ident"
  | .invalidNumber => "invalid number"
  | .numberTooLarge => "number out of range"
  | .controlCharacter => "control character (\\u0000-\\u001F) found while parsing a string"
  | .invalidEscape => "invalid escape"
  | .loneSurrogate => "lone leading surrogate in hex escape"
  | .unpairedEscape => "unexpected end of hex escape"
  | .expectedListEnd => "expected `,` or `]`"
  | .expectedObjectEnd => "expected `,` or `\x7d`"
  | .expectedColon => "expected `:`"
  | .nameNotString => "key must be a string"
  | .trailingComma => "trailing comma"
  | .tooDeep => "recursion limit exceeded"
  | .trailingText => "trailing characters"

/-- The reader gave up `past` octets behind the place where `left` begins. -/
structure Stop where
  defect : Defect
  left : List Char
  past : Nat
deriving DecidableEq, Repr

abbrev Reading (α : Type) := Except Stop (α × List Char)

namespace Reading

variable {α β : Type}

def andThen (r : Reading α) (next : α → List Char → Reading β) : Reading β :=
  match r with
  | .error stop => .error stop
  | .ok (a, left) => next a left

def mapResult (r : Reading α) (f : α → β) : Reading β := r.andThen fun a left => .ok (f a, left)

@[simp] theorem andThen_ok (a : α) (left : List Char) (next : α → List Char → Reading β) :
    andThen (.ok (a, left)) next = next a left := rfl

@[simp] theorem andThen_error (stop : Stop) (next : α → List Char → Reading β) :
    andThen (.error stop) next = .error stop := rfl

@[simp] theorem mapResult_ok (a : α) (left : List Char) (f : α → β) :
    mapResult (.ok (a, left)) f = .ok (f a, left) := rfl

@[simp] theorem mapResult_error (stop : Stop) (f : α → β) :
    mapResult (.error stop) f = .error stop := rfl

end Reading

structure Position where
  line : Nat
  column : Nat
deriving DecidableEq, Repr

def octets (cs : List Char) : Nat := cs.foldr (fun c n => c.utf8Size + n) 0

def Position.after (start : Position) : List Char → Nat → Position
  | _, 0 => start
  | [], _ => start
  | c :: cs, n + 1 =>
    let next : Position :=
      if c = '\n' then ⟨start.line + 1, 0⟩
      else ⟨start.line, start.column + min c.utf8Size (n + 1)⟩
    next.after cs (n + 1 - c.utf8Size)

structure ReadError where
  defect : Defect
  position : Position
deriving DecidableEq, Repr

def Stop.toError (stop : Stop) (text : List Char) : ReadError :=
  let place := min (octets text) (octets text - octets stop.left + stop.past)
  ⟨stop.defect, (Position.mk 1 0).after text place⟩

def ReadError.message (e : ReadError) : String :=
  s!"{e.defect.message} at line {e.position.line} column {e.position.column}"

def stopAtEnd {α : Type} (defect : Defect) : Reading α := .error ⟨defect, [], 0⟩

def stopAt {α : Type} (defect : Defect) (left : List Char) : Reading α := .error ⟨defect, left, 1⟩

def stopBefore {α : Type} (defect : Defect) (left : List Char) : Reading α :=
  .error ⟨defect, left, 0⟩

end AnalyzerAdmin.Json
