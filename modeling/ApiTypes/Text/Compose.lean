import ApiTypes.Text.ComposeTable
/-!
Canonical composition. A text is taken apart, its marks are put in order, and it is put together again, so that texts
which look the same become the same. A character that stands for one other character alone is left as it is.
-/
namespace ApiTypes.Text

/-! ### Hangul syllables -/

namespace Hangul

def isSyllable (n : Nat) : Bool := 0xAC00 ≤ n && n < 0xAC00 + 11172

def parts (n : Nat) : List Nat :=
  let i := n - 0xAC00
  [0x1100 + i / 588, 0x1161 + i % 588 / 28] ++ (if i % 28 == 0 then [] else [0x11A7 + i % 28])

def join? (a b : Nat) : Option Nat :=
  if 0x1100 ≤ a && a < 0x1113 && 0x1161 ≤ b && b < 0x1176 then
    some (0xAC00 + ((a - 0x1100) * 21 + (b - 0x1161)) * 28)
  else if isSyllable a && (a - 0xAC00) % 28 == 0 && 0x11A7 < b && b < 0x11C3 then some (a + (b - 0x11A7))
  else none

end Hangul

/-! ### Taking apart and putting together -/

def markClass (n : Nat) : Nat :=
  (markClasses.findSome? fun
    | [first, last, k] => if first ≤ n && n ≤ last then some k else none
    | _ => none).getD 0

/- No character is made up in more than `fuel` stages. -/
def partsWithin : (fuel : Nat) → Nat → List Nat
  | 0, n => [n]
  | fuel + 1, n =>
    if Hangul.isSyllable n then Hangul.parts n
    else match composites.find? fun row => row.getLast? == some n with
      | some (a :: b :: _) => partsWithin fuel a ++ partsWithin fuel b
      | _ => [n]

def parts (n : Nat) : List Nat := if n < 0xC0 then [n] else partsWithin 8 n

def join? (a b : Nat) : Option Nat :=
  match Hangul.join? a b with
  | some n => some n
  | none =>
    composites.findSome? fun
      | [x, y, n] => if x == a && y == b then some n else none
      | _ => none

/-- Adds a character to a text in reverse: a mark goes before the marks of greater class at the end. -/
def addInOrder (done : List Nat) (n : Nat) : List Nat :=
  let k := markClass n
  if k == 0 then n :: done
  else
    let later := done.takeWhile fun m => k < markClass m
    later ++ n :: done.drop later.length

/-- A text in the making: what is complete, in reverse, the last character that is no mark, and the marks after it,
in reverse. -/
structure Composing where
  done : List Nat
  base : Option Nat
  marks : List Nat

def Composing.flush (s : Composing) : List Nat := s.marks ++ s.base.toList ++ s.done

/-- A character joins the base unless a mark between them has at least its class. -/
def Composing.add (s : Composing) (n : Nat) : Composing :=
  let k := markClass n
  let blocked := s.marks.head?.any fun m => k ≤ markClass m
  match (if blocked then none else s.base.bind (join? · n)) with
  | some joined => { s with base := some joined }
  | none => if k == 0 then ⟨s.flush, some n, []⟩ else { s with marks := n :: s.marks }

def compose (t : Text) : Text :=
  let ordered := ((t.flatMap fun c => parts c.toNat).foldl addInOrder []).reverse
  ((ordered.foldl Composing.add ⟨[], none, []⟩).flush.reverse).map Char.ofNat

end ApiTypes.Text
