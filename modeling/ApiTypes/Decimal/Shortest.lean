import ApiTypes.Text.Basic
import ApiTypes.Decimal.Binary64
/-!
The shortest decimal that reads back as a given double, and how such a decimal is written.
-/
namespace ApiTypes.Decimal

open ApiTypes

structure Digits where
  digits : Nat
  exponent : Int
deriving DecidableEq, Repr

/-- `10 ^ k ≤ num / den < 10 ^ (k + 1)` for the result `k`, if the fraction is positive. -/
def magnitude (num den : Nat) : Int :=
  if den ≤ num then ((Text.ofNat (num / den)).length : Int) - 1
  else
    let j := (Text.ofNat den).length - (Text.ofNat num).length
    if den ≤ num * Nat.pow 10 j then -(j : Int) else -(j : Int) - 1

def scaleTen (num den : Nat) (exponent : Int) : Nat × Nat :=
  if exponent < 0 then (num * Nat.pow 10 exponent.natAbs, den) else (num, den * Nat.pow 10 exponent.natAbs)

/-- The numbers that round to a given double: those between two fractions with a common denominator,
ends included or not. -/
structure Interval where
  low : Nat
  high : Nat
  den : Nat
  closed : Bool

/- The ends lie halfway to the neighbours; the lower neighbour of a power of two is half as far away. -/
def Interval.of (x : Binary64) : Interval :=
  let (num, den) := Binary64.ratio { x with mantissa := 1 }
  let below := if x.mantissa == Nat.pow 2 52 && -1074 < x.exponent then 1 else 2
  { low := (4 * x.mantissa - below) * num, high := (4 * x.mantissa + 2) * num, den := 4 * den,
    closed := x.mantissa % 2 == 0 }

def Interval.holds (i : Interval) (d : Nat) (exponent : Int) : Bool :=
  let (n, m) := if exponent < 0 then (d, Nat.pow 10 exponent.natAbs) else (d * Nat.pow 10 exponent.natAbs, 1)
  if i.closed then i.low * m ≤ n * i.den && n * i.den ≤ i.high * m
  else i.low * m < n * i.den && n * i.den < i.high * m

/- Of the two neighbours of the value on the grid of `10 ^ exponent`, the one in the interval, or of two the
   nearer; a tie goes to the even one. -/
def neighbour? (i : Interval) (num den : Nat) (exponent : Int) : Option Nat :=
  let (n, m) := scaleTen num den exponent
  let d := n / m
  match i.holds d exponent, i.holds (d + 1) exponent with
  | true, true => some (roundDiv n m)
  | true, false => some d
  | false, true => some (d + 1)
  | false, false => none

def shortestWithin (i : Interval) (num den : Nat) (top : Int) : (tries : Nat) → (places : Nat) → Digits
  | 0, places => ⟨roundDiv (scaleTen num den (top - places)).1 (scaleTen num den (top - places)).2, top - places⟩
  | tries + 1, places =>
    match neighbour? i num den (top - places) with
    | some d => ⟨d, top - places⟩
    | none => shortestWithin i num den top tries (places + 1)

def stripZeros : (fuel : Nat) → Digits → Digits
  | 0, d => d
  | fuel + 1, d =>
    if d.digits % 10 == 0 && d.digits != 0 then stripZeros fuel ⟨d.digits / 10, d.exponent + 1⟩ else d

/-- The decimal with the fewest digits that rounds to `x`, and of several the nearest to it. -/
def shortest (x : Binary64) : Digits :=
  let (num, den) := x.ratio
  stripZeros 20 (shortestWithin (Interval.of x) num den (magnitude num den) 16 0)

/-- How a decimal is written: `positional` says for which positions of the point no exponent is used, and
`plus` what stands before an exponent that is not negative. -/
structure Style where
  positional : Int → Bool
  plus : Text

def Style.write (s : Style) (ds : Text) (point : Int) : Text :=
  if s.positional point then
    if point ≤ 0 then "0.".toList ++ List.replicate point.natAbs '0' ++ ds
    else if (ds.length : Int) ≤ point then
      ds ++ List.replicate (point.natAbs - ds.length) '0' ++ ".0".toList
    else ds.take point.natAbs ++ ['.'] ++ ds.drop point.natAbs
  else
    let power := point - 1
    let sign := if power < 0 then [] else s.plus
    let fraction := if ds.length ≤ 1 then [] else '.' :: ds.drop 1
    ds.take 1 ++ fraction ++ ['e'] ++ sign ++ Text.ofInt power

def Style.text (s : Style) (x : Binary64) : Text :=
  let sign := if x.negative then ['-'] else []
  if x.isZero then sign ++ "0.0".toList
  else
    let d := shortest x
    let ds := Text.ofNat d.digits
    sign ++ s.write ds (d.exponent + ds.length)

end ApiTypes.Decimal
