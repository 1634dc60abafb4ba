import CatalogueEditor.Url.Percent

/-!
Schemes, and the segments of paths. Segments of one dot stand for nothing and those of two dots take
back the segment before unless it is on a drive, also when their dots are encoded. On the web, and for
files, backslashes separate segments as slashes do.
-/

namespace CatalogueEditor

/-- Schemes of the web name a host; files have paths that may start with a drive; nothing is known
about others. -/
inductive SchemeKind
  | web
  | file
  | other
deriving DecidableEq

/-- The schemes of the web with the ports that need not be written. -/
def webPorts : List (List Char × Nat) :=
  [("http".toList, 80), ("https".toList, 443), ("ws".toList, 80), ("wss".toList, 443),
    ("ftp".toList, 21)]

def SchemeKind.ofScheme (scheme : List Char) : SchemeKind :=
  if (webPorts.lookup scheme).isSome then .web
  else if scheme = "file".toList then .file
  else .other

namespace UrlPath

def isSlash (kind : SchemeKind) (c : Char) : Bool :=
  c == '/' || c == '\\' && kind != .other

def endsPath (c : Char) : Bool :=
  c == '?' || c == '#'

/-- Whether a character stands for itself in a segment. -/
def keeps (c : Char) : Bool :=
  Percent.isGraphic c && !("\"#<>?`\x7b\x7d".toList.contains c)

/-- A dot is written as itself or encoded. -/
def dots : List (List Char) :=
  [".", "%2e", "%2E"].map String.toList

def isSingleDot (segment : List Char) : Bool :=
  dots.contains segment

def isDoubleDot (segment : List Char) : Bool :=
  (dots.flatMap fun first => dots.map (first ++ ·)).contains segment

/-- A drive is a letter and a colon; a bar may stand for the colon. -/
def drive? : List Char → Option (List Char)
  | [letter, mark] =>
      if letter.isAlpha ∧ (mark = ':' ∨ mark = '|') then some [letter, ':'] else none
  | _ => none

def isDrive (segment : List Char) : Bool :=
  (drive? segment).isSome

/-- Whether a segment names something on a drive: it is a drive, or goes on behind one with a
backslash, which it can hold only where backslashes do not separate segments. -/
def isOnDrive (segment : List Char) : Bool :=
  isDrive (segment.take 2) && (segment.drop 2).head?.all (· == '\\')

def startsWithDrive : List (List Char) → Bool
  | segment :: _ => drive? segment == some segment
  | [] => false

/-- The segments without the last one. What is on a drive is never taken back, whatever the scheme
and wherever it stands. -/
def takeBack (before : List (List Char)) : List (List Char) :=
  if before.getLast?.any isOnDrive then before else before.dropLast

/-- A segment as it is kept behind others. A drive that starts the path of a file gets its colon. -/
def keepSegment (kind : SchemeKind) (before : List (List Char)) (segment : List Char) : List Char :=
  let kept := Percent.encode keeps segment
  if kind = .file ∧ before = [] then (drive? segment).getD kept else kept

/-- Appends a segment. What stands for no segment leaves an empty one if it is the last. -/
def appendSegment (kind : SchemeKind) (before : List (List Char)) (segment : List Char)
    (isLast : Bool) : List (List Char) :=
  if isDoubleDot segment then takeBack before ++ if isLast then [[]] else []
  else if isSingleDot segment then before ++ if isLast then [[]] else []
  else before ++ [keepSegment kind before segment]

def appendAll (kind : SchemeKind) (before : List (List Char)) :
    List (List Char) → List (List Char)
  | [] => before
  | [last] => appendSegment kind before last true
  | segment :: rest => appendAll kind (appendSegment kind before segment false) rest

def split (kind : SchemeKind) (text : List Char) : List (List Char) :=
  (text.map fun c => if isSlash kind c then '/' else c).splitOn '/'

/-- The segments that text adds to those before. -/
def read (kind : SchemeKind) (before : List (List Char)) (text : List Char) : List (List Char) :=
  appendAll kind before (split kind text)

/-- A path of a file does not start with empty segments. -/
def dropEmpty : List (List Char) → List (List Char)
  | [] :: segment :: rest => dropEmpty (segment :: rest)
  | segments => segments

end UrlPath

end CatalogueEditor
