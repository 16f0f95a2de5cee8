import AnalyzerAdmin.Text.Decimal
import AnalyzerAdmin.Text.Hexadecimal

/-!
# IPv6 addresses

An address is eight groups of up to four hexadecimal digits with colons between them. A double
colon stands for groups of zero, and the last two groups may be an IPv4 address of four decimal
numbers. Written is the shortest form: the first longest series of at least two zeros becomes a
double colon.
-/

namespace AnalyzerAdmin

structure Ipv6 where
  groups : Vector UInt16 8
deriving DecidableEq, Repr

namespace Ipv6

def readGroup? (cs : List Char) : Option UInt16 := do
  guard (cs ≠ [] ∧ cs.length ≤ 4)
  let digits ← cs.mapM Hexadecimal.digit?
  return UInt16.ofNat (digits.foldl (fun acc d => 16 * acc + d) 0)

def readOctet? (cs : List Char) : Option Nat := do
  guard (cs ≠ [] ∧ (cs.head? = some '0' → cs = ['0']))
  (Decimal.readDigits 255 .tooLarge 0 cs).toOption

def readEmbedded? (cs : List Char) : Option (List UInt16) := do
  match ← (cs.splitOn '.').mapM readOctet? with
  | [a, b, c, d] => return [UInt16.ofNat (256 * a + b), UInt16.ofNat (256 * c + d)]
  | _ => none

def readGroups? (mayEmbed : Bool) (cs : List Char) : Option (List UInt16) :=
  if cs = [] then some []
  else
    let parts := cs.splitOn ':'
    match parts.getLast? with
    | some last =>
      if mayEmbed ∧ last.contains '.' then do
        let groups ← parts.dropLast.mapM readGroup?
        return groups ++ (← readEmbedded? last)
      else parts.mapM readGroup?
    | none => none

def splitDouble : List Char → Option (List Char × List Char)
  | [] => none
  | ':' :: ':' :: cs => some ([], cs)
  | c :: cs => (splitDouble cs).map fun p => (c :: p.1, p.2)

def ofGroups? (groups : List UInt16) : Option Ipv6 :=
  if h : groups.toArray.size = 8 then some ⟨⟨groups.toArray, h⟩⟩ else none

def read? (cs : List Char) : Option Ipv6 :=
  match splitDouble cs with
  | none => do
    guard (cs ≠ [])
    ofGroups? (← readGroups? true cs)
  | some (before, behind) => do
    let left ← readGroups? false before
    let right ← readGroups? true behind
    guard (left.length + right.length < 8)
    ofGroups? (left ++ List.replicate (8 - left.length - right.length) 0 ++ right)

def zeros (groups : List UInt16) : Nat := (groups.takeWhile (· = 0)).length

def longestZeros (groups : List UInt16) : Nat :=
  (List.range groups.length).foldl
    (fun best i => if zeros (groups.drop best) < zeros (groups.drop i) then i else best) 0

def renderGroups (groups : List UInt16) : List Char :=
  [':'].intercalate (groups.map fun g => Hexadecimal.ofNat g.toNat)

def render (a : Ipv6) : String :=
  let groups := a.groups.toList
  let start := longestZeros groups
  let count := zeros (groups.drop start)
  String.ofList
    (if count < 2 then renderGroups groups
    else renderGroups (groups.take start) ++ [':', ':'] ++
      renderGroups (groups.drop (start + count)))

end Ipv6

end AnalyzerAdmin
