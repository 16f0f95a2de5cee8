import AnalyzerAdmin.Text.Hexadecimal

/-!
# Percent encoding

A character that is not allowed at a place of a URL is written as its octets, each as a percent sign
and two digits. Every place has its own set of such characters; controls and everything beyond ASCII
are in all of them.
-/

namespace AnalyzerAdmin.Percent

def encode (isEscaped : Char → Bool) (cs : List Char) : List Char :=
  cs.flatMap fun c =>
    if isEscaped c then
      (String.utf8EncodeChar c).flatMap fun octet => '%' :: Hexadecimal.ofOctet octet
    else [c]

/-- The octets of a text. A percent sign without two digits behind it stands for itself. -/
def decode : List Char → List UInt8
  | [] => []
  | '%' :: a :: b :: cs =>
    match Hexadecimal.digit? a, Hexadecimal.digit? b with
    | some x, some y => UInt8.ofNat (16 * x + y) :: decode cs
    | _, _ => '%'.toUInt8 :: decode (a :: b :: cs)
  | c :: cs => String.utf8EncodeChar c ++ decode cs

def isControl (c : Char) : Bool := c.toNat < 0x20 || 0x7f ≤ c.toNat

def inFragment (c : Char) : Bool := isControl c || [' ', '"', '<', '>', '`'].contains c

def inQuery (apostrophe : Bool) (c : Char) : Bool :=
  isControl c || [' ', '"', '#', '<', '>'].contains c || (apostrophe && c = '\'')

def inPath (c : Char) : Bool := inFragment c || ['#', '?', '\x7b', '\x7d'].contains c

def inLogin (c : Char) : Bool :=
  inPath c || ['/', ':', ';', '=', '@', '[', '\\', ']', '^', '|'].contains c

end AnalyzerAdmin.Percent
