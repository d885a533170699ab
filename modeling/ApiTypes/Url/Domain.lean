import ApiTypes.Text.Compose
import ApiTypes.Text.Letter
import ApiTypes.Text.Utf8
import ApiTypes.Url.DomainTable
import ApiTypes.Url.Punycode
/-!
Domain names in their ASCII form. The characters of a name are read as the ones that count for it, its labels are
checked, and a label that is not ASCII is written in letters and digits after `xn--`.
-/
namespace ApiTypes.Url.Domain

/-! ### Characters -/

/-- The characters that a character is read as, unless it may not stand in a name. -/
def readChar? (c : Char) : Option Text :=
  if Text.isAscii c then some [c.toLower]
  else if Text.inRanges disallowed c then none
  else if Text.inRanges ignored c then some []
  else some (Text.substitute mapped mappedRuns c)

def isForbidden (c : Char) : Bool :=
  c.toNat ≤ 0x20 || c.toNat == 0x7F || "#/:<>?@[\\]^|%".toList.contains c

/-! ### Joiners -/

def nonJoiner : Char := '\u200c'

def joiner : Char := '\u200d'

def isVirama (c : Char) : Bool := Text.markClass c.toNat == 9

/-- The next character that joining does not pass by joins on the side that is asked for. -/
def joins (side : List (Nat × Nat)) (t : Text) : Bool :=
  (t.dropWhile (Text.inRanges joinsThrough)).head?.any fun c => Text.inRanges side c || Text.inRanges joinsBoth c

/- `before` is in reverse. A joiner stands after a virama; one that keeps letters apart may also stand between
   letters that would join. -/
def joinersFit (before : Text) : Text → Bool
  | [] => true
  | c :: rest =>
    let afterVirama := before.head?.any isVirama
    let fits :=
      if c == joiner then afterVirama
      else if c == nonJoiner then afterVirama || (joins joinsLeft before && joins joinsRight rest)
      else true
    fits && joinersFit (c :: before) rest

/-! ### Direction -/

inductive Direction where
  | left
  | right
  | arabic
  | arabicNumber
  | europeanNumber
  | neutral
  | nonspacing
deriving DecidableEq

def directionOf (c : Char) : Direction :=
  if Text.inRanges rightToLeft c then .right
  else if Text.inRanges arabicLetters c then .arabic
  else if Text.inRanges arabicNumbers c then .arabicNumber
  else if Text.inRanges europeanNumbers c then .europeanNumber
  else if Text.inRanges neutrals c then .neutral
  else if Text.inRanges nonspacing c then .nonspacing
  else .left

def isRightward (d : Direction) : Bool := d == .right || d == .arabic || d == .arabicNumber

/-- A label of a name in which some characters are written from right to left has one direction itself: it starts
with a letter, holds nothing of the other direction and ends in a letter or number of its own, marks apart. -/
def hasOneDirection (label : Text) : Bool :=
  let ds := label.map directionOf
  match ds, (ds.reverse.dropWhile (· == .nonspacing)).head? with
  | .left :: _, some last => ds.all (!isRightward ·) && (last == .left || last == .europeanNumber)
  | first :: _, some last =>
    (first == .right || first == .arabic) && ds.all (· != .left) && (isRightward last || last == .europeanNumber) &&
      !(ds.contains .arabicNumber && ds.contains .europeanNumber)
  | [], _ => true
  | _, none => false

/-! ### Labels -/

def isMark (c : Char) : Bool := Text.inRanges marks c

def isSound (label : Text) : Bool := !label.head?.any isMark && joinersFit [] label

def asciiLead : Text := "xn--".toList

def maxEncoded : Nat := 2000

def maxDecoded : Nat := 1000

/-- The label that an ASCII form stands for. It has to be in the form in which names are read. -/
def decodeLabel? (t : Text) : Option Text := do
  if t.isEmpty || t.getLast? == some '-' || maxEncoded < t.length || !t.all Text.isAscii then none
  else
    let label ← Punycode.decode? t
    let read ← label.mapM readChar?
    if read.flatten == label && Text.compose label == label && !label.any (fun c => c == '.' || isForbidden c) &&
        isSound label then
      return label
    else none

def label? (t : Text) : Option Text :=
  match Text.dropLead? asciiLead t with
  | some rest => decodeLabel? rest
  | none => if t.all Text.isAscii || isSound t then some t else none

def labelToAscii? (t : Text) : Option Text :=
  if t.all Text.isAscii then some t
  else if maxDecoded < t.length then none
  else some (asciiLead ++ Punycode.encode t)

def toAscii? (octets : List Nat) : Option Text := do
  let t ← Text.Utf8.decode? octets
  let read ← t.mapM readChar?
  let name := Text.compose read.flatten
  let labels := Text.splitAt '.' name
  let checked ← labels.mapM label?
  let rightward := checked.any (·.any fun c => isRightward (directionOf c))
  if name.any isForbidden || (rightward && !checked.all hasOneDirection) then none
  else
    let ascii := Text.joinWith ['.'] (← labels.mapM labelToAscii?)
    if ascii.isEmpty then none else some ascii

end ApiTypes.Url.Domain
