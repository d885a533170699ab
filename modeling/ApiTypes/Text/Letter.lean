import ApiTypes.Text.LetterTable
/-!
Letters and digits of all scripts, and the change of case of a character. The upper case of one character may be
several.
-/
namespace ApiTypes.Text

def inRanges (ranges : List (Nat × Nat)) (c : Char) : Bool := ranges.any fun r => r.1 ≤ c.toNat && c.toNat ≤ r.2

def offset? (first last step n : Nat) : Option Nat :=
  if first ≤ n && n ≤ last && (n - first) % step == 0 then some (n - first) else none

def inRuns (runs : List (List Nat)) (c : Char) : Bool :=
  runs.any fun
    | [first, last, step] => (offset? first last step c.toNat).isSome
    | _ => false

def shifted? (shifts : List (List Nat)) (c : Char) : Option Char :=
  shifts.findSome? fun
    | [first, last, step, target] => (offset? first last step c.toNat).map fun n => Char.ofNat (target + n)
    | _ => none

def expanded? (expansions : List (List Nat)) (c : Char) : Option Text :=
  (expansions.find? (·.head? == some c.toNat)).map fun row => (row.drop 1).map Char.ofNat

def isAscii (c : Char) : Bool := c.toNat < 0x80

def isAlphanumeric (c : Char) : Bool := if isAscii c then c.isAlphanum else inRanges alphanumericRanges c

def isUppercase (c : Char) : Bool := if isAscii c then c.isUpper else inRuns uppercaseRuns c

def isLowercase (c : Char) : Bool := if isAscii c then c.isLower else inRuns lowercaseRuns c

def substitute (expansions shifts : List (List Nat)) (c : Char) : Text :=
  (expanded? expansions c).getD [(shifted? shifts c).getD c]

def toUppercase (c : Char) : Text := if isAscii c then [c.toUpper] else substitute upperExpansions upperShifts c

def toLowercase (c : Char) : Text := if isAscii c then [c.toLower] else substitute lowerExpansions lowerShifts c

end ApiTypes.Text
