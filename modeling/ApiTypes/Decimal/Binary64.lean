/-!
Finite double-precision numbers as exact fractions, and their arithmetic: every result is the double
nearest to the exact one, a tie going to the even mantissa. Nothing here computes in floating point.
-/
namespace ApiTypes.Decimal

/-- The number `± mantissa * 2 ^ exponent`. -/
structure Binary64 where
  negative : Bool
  mantissa : Nat
  exponent : Int
deriving DecidableEq, Repr

/-- `num / den` rounded to a whole number, a half going to the even neighbour. -/
def roundDiv (num den : Nat) : Nat :=
  let q := num / den
  let r := num % den
  if den < 2 * r || (2 * r == den && q % 2 == 1) then q + 1 else q

def scaleDown (num den : Nat) (exponent : Int) : Nat × Nat :=
  if exponent < 0 then (num * Nat.pow 2 exponent.natAbs, den) else (num, den * Nat.pow 2 exponent.natAbs)

namespace Binary64

def zero : Binary64 := ⟨false, 0, -1074⟩

def isZero (x : Binary64) : Bool := x.mantissa == 0

/- The exponent for which the mantissa has fifty-three bits, or the least one there is. -/
def exponentOf (num den : Nat) : Int :=
  let e : Int := (num.log2 : Int) - den.log2 - 52
  let (n, d) := scaleDown num den e
  let e := if n / d < Nat.pow 2 52 then e - 1 else e
  if e < -1074 then -1074 else e

/-- The double nearest to `num / den`; there is none if it is too large. -/
def ofRatio? (num den : Nat) : Option Binary64 :=
  if num == 0 then some zero
  else
    let e := exponentOf num den
    let (n, d) := scaleDown num den e
    let m := roundDiv n d
    let (m, e) := if m == Nat.pow 2 53 then (Nat.pow 2 52, e + 1) else (m, e)
    if 971 < e then none else some ⟨false, m, e⟩

def ratio (x : Binary64) : Nat × Nat :=
  if x.exponent < 0 then (x.mantissa, Nat.pow 2 x.exponent.natAbs) else (x.mantissa * Nat.pow 2 x.exponent.natAbs, 1)

def withSign (negative : Bool) (x : Binary64) : Binary64 := { x with negative := negative }

def mul? (x y : Binary64) : Option Binary64 :=
  let (a, b) := x.ratio
  let (c, d) := y.ratio
  (ofRatio? (a * c) (b * d)).map (withSign (x.negative != y.negative))

def div? (x y : Binary64) : Option Binary64 :=
  let (a, b) := x.ratio
  let (c, d) := y.ratio
  (ofRatio? (a * d) (b * c)).map (withSign (x.negative != y.negative))

/- Beyond these bounds a decimal is too large for a double or rounds to zero, and its power of ten is not
   worth computing. `digits` counts the digits of `n`. -/
/-- The double nearest to `n * 10 ^ exponent`; there is none if it is too large. -/
def ofDecimal? (n digits : Nat) (exponent : Int) : Option Binary64 :=
  if n == 0 then some zero
  else if 310 < exponent + digits then none
  else if exponent + digits < -330 then some zero
  else if exponent < 0 then ofRatio? n (Nat.pow 10 exponent.natAbs)
  else ofRatio? (n * Nat.pow 10 exponent.natAbs) 1

def pow10? (k : Nat) : Option Binary64 := if 308 < k then none else ofRatio? (Nat.pow 10 k) 1

/- Each round divides by the largest power of ten there is, until what is left of the exponent names a
   power or the number has become zero. -/
def shiftWithin : (rounds : Nat) → Binary64 → (exponent : Int) → Option Binary64
  | 0, _, _ => none
  | rounds + 1, x, exponent =>
    match pow10? exponent.natAbs with
    | some p => if exponent < 0 then x.div? p else x.mul? p
    | none =>
      if x.isZero then some x
      else if exponent < 0 then do shiftWithin rounds (← x.div? (← pow10? 308)) (exponent + 308)
      else none

/-- `n * 10 ^ exponent` by rounding `n`, then multiplying or dividing once by a rounded power of ten. The
result may be one unit away from the nearest double. -/
def scaled? (n : Nat) (exponent : Int) : Option Binary64 := do
  shiftWithin (exponent.natAbs / 308 + 2) (← ofRatio? n 1) exponent

end Binary64

end ApiTypes.Decimal
