import ApiTypes.Text.Letter
/-!
The ASCII form of a label with other characters: its ASCII characters, and then for each other character, in order,
the way to it from the one before, as a number with digits of its own.
-/
namespace ApiTypes.Url.Punycode

def digit (d : Nat) : Char := if d < 26 then Char.ofNat (97 + d) else Char.ofNat (22 + d)

def digitValue? (c : Char) : Option Nat :=
  if c.isLower then some (c.toNat - 97) else if c.isDigit then some (c.toNat - 22) else none

def threshold (k bias : Nat) : Nat := if k ≤ bias then 1 else if bias + 26 ≤ k then 26 else k - bias

def adaptWithin : (fuel delta k : Nat) → Nat
  | 0, delta, k => k + 36 * delta / (delta + 38)
  | fuel + 1, delta, k =>
    if 455 < delta then adaptWithin fuel (delta / 35) (k + 36) else k + 36 * delta / (delta + 38)

def adapt (delta points : Nat) (first : Bool) : Nat :=
  let d := if first then delta / 700 else delta / 2
  adaptWithin d (d + d / points) 0

/-! ### Writing -/

def deltaWithin (bias : Nat) : (fuel k q : Nat) → Text
  | 0, _, _ => []
  | fuel + 1, k, q =>
    let t := threshold k bias
    if q < t then [digit q] else digit (t + (q - t) % (36 - t)) :: deltaWithin bias fuel (k + 36) ((q - t) / (36 - t))

structure State where
  out : Text
  delta : Nat
  bias : Nat
  handled : Nat

/- One pass over the label for the code point `n`, which is the least one not yet handled. -/
def pass (n basic : Nat) (s : State) (label : Text) : State :=
  label.foldl (fun s c =>
    if c.toNat < n then { s with delta := s.delta + 1 }
    else if c.toNat == n then
      ⟨s.out ++ deltaWithin s.bias (s.delta + 1) 36 s.delta, 0, adapt s.delta (s.handled + 1) (s.handled == basic),
        s.handled + 1⟩
    else s) s

/- `last` is the code point handled before, and the rest of the list holds those to come, in order. -/
def passes (label : Text) (basic : Nat) : (last : Nat) → State → List Nat → State
  | _, s, [] => s
  | last, s, n :: rest =>
    let s := pass n basic { s with delta := s.delta + (n - last) * (s.handled + 1) } label
    passes label basic (n + 1) { s with delta := s.delta + 1 } rest

def insertSorted (n : Nat) : List Nat → List Nat
  | [] => [n]
  | m :: rest => if n < m then n :: m :: rest else if n == m then m :: rest else m :: insertSorted n rest

def encode (label : Text) : Text :=
  let basic := label.filter Text.isAscii
  let others := (label.filter (!Text.isAscii ·)).foldl (fun ns c => insertSorted c.toNat ns) []
  let lead := if basic.isEmpty then [] else basic ++ ['-']
  lead ++ (passes label basic.length 0x80 ⟨[], 0, 72, basic.length⟩ others).out

/-! ### Reading -/

def limit : Nat := Nat.pow 2 32

/- `weight` is what the next digit counts, `i` the sum so far. The result has what is left to read. -/
def readDelta? (bias : Nat) : (k weight i : Nat) → Text → Option (Nat × Text)
  | _, _, _, [] => none
  | k, weight, i, c :: rest => do
    let d ← digitValue? c
    let i := i + d * weight
    let t := threshold k bias
    if limit ≤ i then none
    else if d < t then return (i, rest)
    else if limit ≤ weight * (36 - t) then none
    else readDelta? bias (k + 36) (weight * (36 - t)) i rest

/- Puts in one character for each number; `n` is the code point before and `i` the place after it. -/
def insertWithin : (fuel bias n i : Nat) → (out rest : Text) → Option Text
  | _, _, _, _, out, [] => some out
  | 0, _, _, _, _, _ => none
  | fuel + 1, bias, n, i, out, rest => do
    let (j, rest) ← readDelta? bias 36 1 i rest
    let points := out.length + 1
    let m := n + j / points
    if (0xD800 ≤ m && m < 0xE000) || 0x110000 ≤ m then none
    else
      let place := j % points
      insertWithin fuel (adapt (j - i) points (i == 0)) m (place + 1)
        (out.take place ++ Char.ofNat m :: out.drop place) rest

/-- The label that a text in lower case stands for. What stands before the last hyphen, if anything does, are its
ASCII characters. -/
def decode? (t : Text) : Option Text :=
  let after := (t.reverse.takeWhile (· != '-')).reverse
  let basic := t.take (t.length - after.length - 1)
  insertWithin t.length 72 0x80 0 basic (if basic.isEmpty then t else after)

end ApiTypes.Url.Punycode
