import RecordGrid.Text.Pieces
import RecordGrid.Url.Basic
import RecordGrid.Url.Percent

/-!
# Paths

A path is read segment by segment behind one that is there already.  Dots for a
segment take the path a step back or leave it where it is, but never past the
name of a drive.  Tabs and line breaks in a text do not count.
-/

namespace RecordGrid.Url

open Text (pieces)

/-! ## Text -/

/-- The tabs and line breaks that do not count. -/
def isBreak (c : Char) : Bool := c == '\t' || c == '\n' || c == '\r'

def skipBreaks (cs : List Char) : List Char := cs.dropWhile isBreak

/-- The characters that count. -/
def solid (cs : List Char) : List Char := cs.filter fun c => !isBreak c

def isSlash (special : Bool) (c : Char) : Bool := c == '/' || (special && c == '\\')

/-- Whether the authority or the path ends before a character. -/
def isPathEnd (c : Char) : Bool := c == '?' || c == '#'

/-! ## Drives -/

/-- A letter with a colon or a bar, which names a drive. -/
def isDrive : List Char → Bool
  | [c, d] => c.isAlpha && (d == ':' || d == '|')
  | _ => false

def isNormalDrive : List Char → Bool
  | [c, d] => c.isAlpha && d == ':'
  | _ => false

/-- Whether the first segment of a text names a drive. -/
def startsWithDrive (cs : List Char) : Bool :=
  match solid cs with
  | [c, d] => isDrive [c, d]
  | c :: d :: e :: _ => isDrive [c, d] && (isSlash true e || isPathEnd e)
  | _ => false

/-! ## Steps back -/

def lastSegment (path : List Char) : List Char := (path.reverse.takeWhile (· ≠ '/')).reverse

def endsInSlash (path : List Char) : Bool := path.getLast? == some '/'

/-- The path up to its last slash, unless a file would lose its drive. -/
def dropSegment (isFile : Bool) (path : List Char) : List Char :=
  if isFile && isNormalDrive (lastSegment path) then path
  else (path.reverse.dropWhile (· ≠ '/')).reverse

/-- The path without the slash at its end, which stays where it is the only one
and behind a segment that starts with a drive. -/
def dropSlash (path : List Char) : List Char :=
  let before := path.dropLast
  if endsInSlash path && before.contains '/' && !startsWithDrive (lastSegment before) then before
  else path

/-! ## Segments -/

def dotForms : List String := [".", "%2e"]

/-- Whether a segment stands for the place where it is. -/
def isSingleDot (s : List Char) : Bool :=
  dotForms.contains (String.ofList (s.map Char.toLower))

/-- Whether a segment stands for a step back. -/
def isDoubleDot (s : List Char) : Bool :=
  (dotForms.flatMap fun a => dotForms.map fun b => a ++ b).contains
    (String.ofList (s.map Char.toLower))

/-- A path that has been read, and whether a segment of it was taken for the
drive of a file. -/
structure PathState where
  path : List Char
  hasDrive : Bool := false

/-- The path with a segment behind it, whose slash comes where it is not the
last. -/
def PathState.push (isFile isLast : Bool) (s : PathState) (segment : List Char) : PathState :=
  let slash := if isLast then [] else ['/']
  if isDoubleDot segment then
    let up := dropSegment isFile (dropSlash s.path)
    { s with path := if isLast || endsInSlash up then up else up ++ ['/'] }
  else if isSingleDot segment then
    { s with path := if endsInSlash s.path then s.path else s.path ++ ['/'] }
  else if isFile && s.path == ['/'] && isDrive segment then
    { path := s.path ++ segment.take 1 ++ [':'] ++ slash, hasDrive := true }
  else { s with path := s.path ++ encode pathReserved segment ++ slash }

/-- A drive at the front of a segment that goes on after a break, which ends the
drive, and what goes on. -/
def brokenDrive? (cs : List Char) : Option (List Char × List Char) :=
  match skipBreaks cs with
  | c :: cs =>
      match skipBreaks cs with
      | d :: b :: cs =>
          if isNormalDrive [c, d] && isBreak b && !(solid cs).isEmpty then some ([c, d], solid cs)
          else none
      | _ => none
  | [] => none

/-- Reads a segment.  Behind the drive of a file there is always a slash. -/
def PathState.read (isFile isLast : Bool) (s : PathState) (cs : List Char) : PathState :=
  let slash := if isLast then [] else ['/']
  if isFile && isNormalDrive (s.path.drop 1) && !(solid cs).isEmpty then
    PathState.push isFile isLast { s with path := s.path ++ ['/'] } (solid cs)
  else
    match if isFile && s.path == ['/'] then brokenDrive? cs else none with
    | some (drive, rest) =>
        { s with path := s.path ++ drive ++ ['/'] ++ encode pathReserved rest ++ slash }
    | none => s.push isFile isLast (solid cs)

/-- Reads the segments of a path behind another.  A file has one slash at the
start of its path. -/
def readPath (scheme path cs : List Char) : PathState :=
  let isFile := isFileScheme scheme
  let segments := pieces (isSlash (isSpecialScheme scheme)) cs
  let front := segments.dropLast.foldl (PathState.read isFile false) { path }
  let whole := segments.getLast?.toList.foldl (PathState.read isFile true) front
  if isFile then { whole with path := '/' :: whole.path.dropWhile (· = '/') } else whole

end RecordGrid.Url
