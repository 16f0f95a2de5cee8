import AnalyzerAdmin.DomainName.Direction
import AnalyzerAdmin.DomainName.Joining
import AnalyzerAdmin.DomainName.Mapping
import AnalyzerAdmin.DomainName.Punycode

/-!
# Internationalized domain names

A name of any script has a form in ASCII, which is what is looked up. The characters are mapped and
composed, the labels between the dots are checked, and those that are not ASCII are written in
Punycode behind a mark. A label that already has the mark is read and checked like any other.
-/

namespace AnalyzerAdmin.DomainName

def isDenied (c : Char) : Bool :=
  c.toNat ≤ 0x20 || c.toNat = 0x7f ||
    ['%', '#', '/', ':', '<', '>', '?', '@', '[', '\\', ']', '^', '|'].contains c

def codedMark : List Char := ['x', 'n', '-', '-']

def maxCodedLength : Nat := 2000

def maxPlainLength : Nat := 1000

/-- The characters of a label that may be written in Punycode. What is read there has to be in its
final form. -/
def plainLabel? (label : List Char) : Option (List Char) := do
  if codedMark.isPrefixOf label then
    let coded := label.drop codedMark.length
    guard (label.getLast? ≠ some '-' ∧ coded.length ≤ maxCodedLength ∧ coded.all Punycode.isBasic)
    let plain ← Punycode.decode coded
    guard (plain.all isKept ∧ compose plain = plain)
    return plain
  else return label

def isLabel (label : List Char) : Bool :=
  label.all (!isDenied ·) && !label.head?.any isMark && joinersFit [] label &&
    (label.all Punycode.isBasic || label.length ≤ maxPlainLength)

def writeLabel (label : List Char) : List Char :=
  if label.all Punycode.isBasic then label else codedMark ++ Punycode.encode label

def labels? (name : List Char) : Option (List (List Char)) := do
  let labels ← ((compose (← mapAll? name)).splitOn '.').mapM plainLabel?
  guard (labels.all isLabel)
  guard (!labels.any isBidirectional || labels.all isSteady)
  return labels

def ascii? (name : List Char) : Option (List Char) :=
  (labels? name).map fun labels => ['.'].intercalate (labels.map writeLabel)

end AnalyzerAdmin.DomainName
