import ApiTypes.Text.Percent
/-!
Paths of URLs: texts of segments, each after a slash. Reading a path removes dot segments. A letter before a colon
or a bar is a drive letter: dots do not lead out of it, and at the start of a file's path it is written with a
colon.
-/
namespace ApiTypes.Url

/-! ### Characters -/

/-- Tabs and line breaks are passed over wherever they stand. -/
def isGap (c : Char) : Bool := c == '\t' || c == '\n' || c == '\r'

def dropGaps (t : Text) : Text := t.filter (!isGap ·)

def isControl (c : Char) : Bool := c.toNat < 0x20 || c.toNat == 0x7F

def inFragment (c : Char) : Bool := isControl c || " \"<>`".toList.contains c

def inPath (c : Char) : Bool := inFragment c || "#?\x7b\x7d".toList.contains c

def isSlash (special : Bool) (c : Char) : Bool := c == '/' || (special && c == '\\')

def isTailMark (c : Char) : Bool := c == '?' || c == '#'

/-! ### Drive letters -/

/-- A drive letter comes first, and nothing of its segment after it. -/
def startsWithDrive : Text → Bool
  | c :: d :: rest =>
    c.isAlpha && (d == ':' || d == '|') && (rest.head?.map fun e => isSlash true e || isTailMark e).getD true
  | _ => false

def isDrive (t : Text) : Bool := t.length == 2 && startsWithDrive t

def isNormalDrive (t : Text) : Bool := isDrive t && t.getLast? == some ':'

/-! ### Segments -/

def lastSegment (path : Text) : Text := (path.reverse.takeWhile (· != '/')).reverse

def upToSlash (path : Text) : Text := (path.reverse.dropWhile (· != '/')).reverse

def endsInSlash (path : Text) : Bool := path.getLast? == some '/'

def withSlash (path : Text) : Text := if endsInSlash path then path else path ++ ['/']

/-- Takes the last segment off, but not the drive letter of a file. -/
def pop (file : Bool) (path : Text) : Text :=
  if file && isNormalDrive (lastSegment path) then path else upToSlash path

/-- Goes up by one segment from a path that ends in a slash, unless the segment is the first one or a drive
letter. -/
def goUp (file : Bool) (path : Text) : Text :=
  let inner := path.dropLast
  let leaves := endsInSlash path && inner.contains '/' && !startsWithDrive (lastSegment inner ++ ['/'])
  pop file (if leaves then inner else path)

def readDots (segment : Text) : Text := Text.replace "%2e".toList ['.'] (Text.lowerAscii segment)

/-- A path that is being read, and whether a drive letter has been found at its start. -/
structure Path where
  text : Text
  drive : Bool

/- Adds the pieces of a segment between its gaps. A drive letter that a file's path ends with gets its slash
   before a piece; the number counts these slashes. -/
def addPieces (file : Bool) : (path : Text) → (slashes : Nat) → List Text → Text × Nat
  | path, slashes, [] => (path, slashes)
  | path, slashes, piece :: rest =>
    if piece.isEmpty then addPieces file path slashes rest
    else
      let piece := Text.Percent.encode inPath piece
      if file && isNormalDrive (path.drop 1) then addPieces file (path ++ '/' :: piece) (slashes + 1) rest
      else addPieces file (path ++ piece) slashes rest

def piecesAt (p : Char → Bool) : Text → List Text
  | [] => [[]]
  | c :: rest =>
    if p c then [] :: piecesAt p rest
    else match piecesAt p rest with
      | [] => [[c]]
      | piece :: pieces => (c :: piece) :: pieces

namespace Path

def addSegment (file slash : Bool) (p : Path) (raw : Text) : Path :=
  let (path, slashes) := addPieces file p.text 0 (piecesAt isGap raw)
  let start := p.text.length + slashes
  let before := path.take start
  let segment := path.drop start
  let dots := readDots segment
  let close (t : Text) : Text := if slash then t ++ ['/'] else t
  if dots == "..".toList then
    let up := goUp file before
    { p with text := if slash then withSlash up else up }
  else if dots == ".".toList then { p with text := withSlash before }
  else if file && start == 1 && isDrive segment then ⟨close (before ++ segment.take 1 ++ [':']), true⟩
  else { p with text := close path }

def addSegments (file : Bool) (p : Path) : List Text → Path
  | [] => p
  | [raw] => p.addSegment file false raw
  | raw :: rest => (p.addSegment file true raw).addSegments file rest

/-- The path that a text leads to from the path before it. A file's path starts with one slash only. -/
def read (special file : Bool) (before t : Text) : Path :=
  let p := Path.addSegments file ⟨before, false⟩ (piecesAt (isSlash special) t)
  if file then { p with text := '/' :: p.text.dropWhile (· == '/') } else p

end Path

end ApiTypes.Url
