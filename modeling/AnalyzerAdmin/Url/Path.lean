import AnalyzerAdmin.Url.Percent

/-!
# Paths

A path is a series of segments, each behind a slash. A segment of one dot stands for nothing and one
of two dots takes back the segment before it, unless that names a drive. A URL without a host may
have a plain text instead.
-/

namespace AnalyzerAdmin

inductive Path
  | plain (text : String)
  | rooted (segments : List String)
deriving DecidableEq, Repr

namespace Path

def render : Path → String
  | .plain text => text
  | .rooted segments => String.join (segments.map fun s => "/" ++ s)

def dots? : List Char → Option Nat
  | [] => some 0
  | '.' :: cs => (dots? cs).map (· + 1)
  | '%' :: '2' :: e :: cs => if e = 'e' ∨ e = 'E' then (dots? cs).map (· + 1) else none
  | _ :: _ => none

def behindDrive? : List Char → Option (List Char)
  | c :: d :: cs => if c.isAlpha ∧ (d = ':' ∨ d = '|') then some cs else none
  | _ => none

def isDrive (segment : List Char) : Bool := behindDrive? segment == some []

def isIgnored (c : Char) : Bool := c = '\t' || c = '\n' || c = '\r'

def dropIgnored (cs : List Char) : List Char := cs.filter (!isIgnored ·)

inductive Segment
  | drive (letter : Char)
  | name (text : List Char)
deriving DecidableEq, Repr

def Segment.text : Segment → List Char
  | .drive letter => [letter, ':']
  | .name text => text

def Segment.isDrive : Segment → Bool
  | .drive _ => true
  | .name _ => false

/-- Takes back the last of the segments in `done`, which are given last first. A drive, also one
with a backslash behind it, is not taken back. -/
def takeBack : List Segment → List Segment
  | [] => []
  | segment :: done =>
    match behindDrive? segment.text with
    | some [] => segment :: done
    | some ('\\' :: _) => segment :: done
    | _ => done

/-- A drive and what stands behind it in the same segment, where an ignored character is all that
keeps them apart. -/
def parted? (segment : List Char) : Option (List Char × List Char) :=
  let drive := dropIgnored (segment.takeWhile (· ≠ ':')) ++ [':']
  match segment.dropWhile (· ≠ ':') with
  | _ :: c :: rest =>
    let rest := dropIgnored rest
    if isIgnored c && isDrive drive && !rest.isEmpty then some (drive, rest) else none
  | _ => none

def readName (segment : List Char) : List Char :=
  Percent.encode Percent.inPath (dropIgnored segment)

/-- Reads the segment that the path of a file starts at, last part first: a drive, which may be
written with a bar, a drive and a name that are parted, or a name. What is parted from a drive is a
name even if it is made of dots. -/
def readStart (segment : List Char) : List Segment :=
  match parted? segment, dropIgnored segment with
  | some (drive, rest), _ => [.name (Percent.encode Percent.inPath rest), .name drive]
  | none, c :: cs =>
    if isDrive (c :: cs) then [.drive c] else [.name (Percent.encode Percent.inPath (c :: cs))]
  | none, [] => [.name []]

def resolve (isFile : Bool) (done : List Segment) : List (List Char) → List Segment
  | [] => done.reverse
  | segment :: rest =>
    match dots? (readName segment) with
    | some 1 => resolve isFile (if rest.isEmpty then .name [] :: done else done) rest
    | some 2 =>
      resolve isFile (if rest.isEmpty then .name [] :: takeBack done else takeBack done) rest
    | _ =>
      if isFile && done.isEmpty then resolve isFile (readStart segment) rest
      else resolve isFile (.name (readName segment) :: done) rest

def read (isFile : Bool) (done : List Segment) (isSeparator : Char → Bool) (cs : List Char) :
    List Segment :=
  let cs := match cs.dropWhile isIgnored with
    | c :: rest => if isSeparator c then rest else cs
    | [] => []
  resolve isFile done (cs.splitOnP isSeparator)

def dropEmpty : List Segment → List Segment
  | .name [] :: segment :: rest => dropEmpty (segment :: rest)
  | segments => segments

def ofSegments (segments : List Segment) : Path :=
  .rooted (segments.map fun s => String.ofList s.text)

end Path

end AnalyzerAdmin
