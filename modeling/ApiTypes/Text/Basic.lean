/-!
Text as a list of characters, with the few operations the rest of the library is written in: cutting at
a character or into lines, joining, trimming blanks, and replacing one piece by another.
-/
namespace ApiTypes

abbrev Text := List Char

namespace Text

/-- The characters of Unicode's `White_Space` property. -/
def isBlank (c : Char) : Bool :=
  let n := c.toNat
  (9 ≤ n && n ≤ 13) || n == 0x20 || n == 0x85 || n == 0xA0 || n == 0x1680 ||
    (0x2000 ≤ n && n ≤ 0x200A) || n == 0x2028 || n == 0x2029 || n == 0x202F || n == 0x205F || n == 0x3000

def trimStart (t : Text) : Text := t.dropWhile isBlank

def trimEnd (t : Text) : Text := (t.reverse.dropWhile isBlank).reverse

def trim (t : Text) : Text := trimEnd (trimStart t)

/-- The pieces between the occurrences of `sep`; there is always at least one. -/
def splitAt (sep : Char) : Text → List Text
  | [] => [[]]
  | c :: rest =>
    if c == sep then [] :: splitAt sep rest
    else match splitAt sep rest with
      | [] => [[c]]
      | piece :: pieces => (c :: piece) :: pieces

/-- What stands before the first `sep`, and after it if there is one. -/
def cutAt (sep : Char) : Text → Text × Option Text
  | [] => ([], none)
  | c :: rest =>
    if c == sep then ([], some rest)
    else let (before, after) := cutAt sep rest; (c :: before, after)

def joinWith (sep : Text) : List Text → Text
  | [] => []
  | [t] => t
  | t :: u :: rest => t ++ sep ++ joinWith sep (u :: rest)

def dropReturn : Text → Text
  | [] => []
  | ['\r'] => []
  | c :: rest => c :: dropReturn rest

/- `pending` is the line read so far, in reverse. A line ends at a line feed, which takes one carriage
   return before it along; what stands after the last line feed is a line only if it is not empty. -/
def linesFrom (pending : Text) : Text → List Text
  | [] => if pending.isEmpty then [] else [pending.reverse]
  | c :: rest =>
    if c == '\n' then dropReturn pending.reverse :: linesFrom [] rest
    else linesFrom (c :: pending) rest

def lines (t : Text) : List Text := linesFrom [] t

def dropLead? : (lead t : Text) → Option Text
  | [], t => some t
  | _ :: _, [] => none
  | c :: lead, d :: t => if c == d then dropLead? lead t else none

def startsWith (t lead : Text) : Bool := (dropLead? lead t).isSome

def includes (piece : Text) : Text → Bool
  | [] => piece.isEmpty
  | c :: t => startsWith (c :: t) piece || includes piece t

/- `skip` counts the characters of an occurrence that has already been replaced. -/
def replaceFrom (piece by_ : Text) : (skip : Nat) → Text → Text
  | _, [] => []
  | skip + 1, _ :: t => replaceFrom piece by_ skip t
  | 0, c :: t =>
    if startsWith (c :: t) piece then by_ ++ replaceFrom piece by_ (piece.length - 1) t
    else c :: replaceFrom piece by_ 0 t

/-- Replaces the occurrences of `piece`, which is not empty, from left to right. -/
def replace (piece by_ t : Text) : Text := replaceFrom piece by_ 0 t

def atMost : Text → Text → Bool
  | [], _ => true
  | _ :: _, [] => false
  | c :: t, d :: u => c.toNat < d.toNat || (c == d && atMost t u)

def lowerAscii (t : Text) : Text := t.map Char.toLower

def isDigit (c : Char) : Bool := '0' ≤ c && c ≤ '9'

def hexValue? (c : Char) : Option Nat :=
  if isDigit c then some (c.toNat - 48)
  else if 'a' ≤ c && c ≤ 'f' then some (c.toNat - 87)
  else if 'A' ≤ c && c ≤ 'F' then some (c.toNat - 55)
  else none

def digitChar (n : Nat) : Char :=
  if n < 10 then Char.ofNat (48 + n) else Char.ofNat (87 + n)

/- `fuel` exceeds the number of digits. -/
def digitsWithin (base : Nat) : (fuel n : Nat) → Text → Text
  | 0, _, acc => acc
  | fuel + 1, n, acc =>
    let acc := digitChar (n % base) :: acc
    if n / base == 0 then acc else digitsWithin base fuel (n / base) acc

def ofNatBase (base n : Nat) : Text := digitsWithin base (n + 1) n []

def ofNat (n : Nat) : Text := ofNatBase 10 n

def ofInt (i : Int) : Text :=
  if i < 0 then '-' :: ofNat i.natAbs else ofNat i.natAbs

def toNatBase? (base : Nat) (t : Text) : Option Nat :=
  if t.isEmpty then none
  else t.foldl (fun acc c => do
    let n ← acc
    let d ← digitOf c
    if d < base then some (n * base + d) else none) (some 0)
where
  digitOf (c : Char) : Option Nat :=
    if isDigit c then some (c.toNat - 48)
    else if 'a' ≤ c && c ≤ 'z' then some (c.toNat - 87)
    else if 'A' ≤ c && c ≤ 'Z' then some (c.toNat - 55)
    else none

end Text

end ApiTypes
