import ApiTypes.Text.Basic
import ApiTypes.Decimal.Shortest
/-!
YAML values, and how the text of a plain scalar is read as one. Numbers may be infinite or not a number; the
keys of a mapping are values themselves.
-/
namespace ApiTypes.Yaml

open ApiTypes.Decimal (Binary64)

/-- An integer of sixty-four bits, with a sign or without one. -/
structure Word where
  value : Int
  low : -(Nat.pow 2 63) ≤ value
  high : value < Nat.pow 2 64
deriving DecidableEq, Repr

def Word.ofInt? (i : Int) : Option Word :=
  if range : -(Nat.pow 2 63) ≤ i ∧ i < Nat.pow 2 64 then some ⟨i, range.1, range.2⟩ else none

inductive Number where
  | int (i : Word)
  | real (x : Binary64)
  | infinite (negative : Bool)
  | nan
deriving DecidableEq, Repr

/-- As a key, an exponent has no sign unless it is negative. -/
def realStyle : Decimal.Style := ⟨fun point => -5 < point && point ≤ 16, []⟩

def Number.text : Number → Text
  | .int i => Text.ofInt i.value
  | .real x => realStyle.text x
  | .infinite negative => if negative then "-.inf".toList else ".inf".toList
  | .nan => ".nan".toList

/-- Equality as numbers of the same kind: the two zeros are the same, and so is what is not a number. -/
def Number.same : Number → Number → Bool
  | .real x, .real y => (x.isZero && y.isZero) || x == y
  | a, b => a == b

inductive Value where
  | null
  | bool (b : Bool)
  | num (n : Number)
  | str (s : Text)
  | seq (items : List Value)
  | map (entries : List (Value × Value))
  | tagged (tag : Text) (content : Value)

/-- A tag may be written with one more exclamation mark before it. -/
def bareTag : Text → Text
  | '!' :: c :: rest => c :: rest
  | tag => tag

mutual

/- Mappings of one size are the same if each entry of the first has the same value in the second. -/
def Value.same : Value → Value → Bool
  | .null, .null => true
  | .bool a, .bool b => a == b
  | .num a, .num b => a.same b
  | .str a, .str b => a == b
  | .seq a, .seq b => Value.sameItems a b
  | .map a, .map b => a.length == b.length && Value.sameEntries a b
  | .tagged s a, .tagged t b => bareTag s == bareTag t && a.same b
  | _, _ => false

def Value.sameItems : List Value → List Value → Bool
  | [], [] => true
  | a :: r, b :: s => a.same b && Value.sameItems r s
  | _, _ => false

def Value.sameEntries : List (Value × Value) → List (Value × Value) → Bool
  | [], _ => true
  | (k, v) :: r, entries => entries.any (fun e => k.same e.1 && v.same e.2) && Value.sameEntries r entries

end

/-! ### Plain scalars -/

/-- A zero followed by more digits, with or without a sign, is no number. -/
def hasNeedlessZero (t : Text) : Bool :=
  let t := match t with
    | '-' :: r | '+' :: r => r
    | _ => t
  1 < t.length && t.head? == some '0' && t.all Text.isDigit

def basedDigits? : Text → Option (Nat × Text)
  | '0' :: 'x' :: rest => some (16, rest)
  | '0' :: 'o' :: rest => some (8, rest)
  | '0' :: 'b' :: rest => some (2, rest)
  | _ => none

def wholeDigits? (t : Text) : Option Nat :=
  match basedDigits? t with
  | some (base, digits) => Text.toNatBase? base digits
  | none => Text.toNatBase? 10 t

def whole? (t : Text) : Option Int :=
  if hasNeedlessZero t then none
  else match t with
    | '-' :: rest => (wholeDigits? rest).map fun n => -(n : Int)
    | '+' :: rest => (wholeDigits? rest).map fun n => (n : Int)
    | _ => (wholeDigits? t).map fun n => (n : Int)

def decimal? (t : Text) : Option Binary64 :=
  let (negative, t) : Bool × Text := match t with
    | '-' :: r => (true, r)
    | '+' :: r => (false, r)
    | _ => (false, t)
  let whole := t.takeWhile Text.isDigit
  let rest := t.dropWhile Text.isDigit
  let (fraction, rest) : Text × Text := match rest with
    | '.' :: r => (r.takeWhile Text.isDigit, r.dropWhile Text.isDigit)
    | _ => ([], rest)
  let exponent : Option Int := match rest with
    | [] => some 0
    | e :: r =>
      if e == 'e' || e == 'E' then
        match r with
        | '-' :: r => (Text.toNatBase? 10 r).map fun n => -(n : Int)
        | '+' :: r => (Text.toNatBase? 10 r).map fun n => (n : Int)
        | _ => (Text.toNatBase? 10 r).map fun n => (n : Int)
      else none
  let digits := (whole ++ fraction).dropWhile (· == '0')
  if whole.isEmpty && fraction.isEmpty then none
  else do
    let e ← exponent
    let n := (Text.toNatBase? 10 digits).getD 0
    let x ← Binary64.ofDecimal? n digits.length (e - fraction.length)
    return x.withSign negative

def infinities : List Text := [".inf".toList, ".Inf".toList, ".INF".toList]

def nans : List Text := [".nan".toList, ".NaN".toList, ".NAN".toList]

/-- A number with a point or an exponent, the infinities, or not a number; a decimal that is too large for a
double is none of these. -/
def float? (t : Text) : Option Number :=
  let unsigned := match t with
    | '+' :: r => r
    | _ => t
  if infinities.contains unsigned then some (.infinite false)
  else if t.head? == some '-' && infinities.contains (t.drop 1) then some (.infinite true)
  else if nans.contains t then some .nan
  else if t.head? == some '+' && (unsigned.head? == some '+' || unsigned.head? == some '-') then none
  else (decimal? t).map .real

def isNull (t : Text) : Bool := ["null".toList, "Null".toList, "NULL".toList, "~".toList].contains t

def bool? (t : Text) : Option Bool :=
  if ["true".toList, "True".toList, "TRUE".toList].contains t then some true
  else if ["false".toList, "False".toList, "FALSE".toList].contains t then some false
  else none

/-- An integer as a value: one that is too wide for a word is refused. -/
def intValue? (i : Int) : Option Value := (Word.ofInt? i).map fun word => .num (.int word)

/-- The whole number a text spells, unless it has more than a hundred and twenty-eight bits. -/
def integer? (t : Text) : Option Int := (whole? t).filter fun i => -(Nat.pow 2 127) ≤ i && i < Nat.pow 2 128

def plainValue? (t : Text) : Option Value :=
  if t.isEmpty || isNull t then some .null
  else match bool? t with
    | some b => some (.bool b)
    | none =>
      match integer? t with
      | some i => intValue? i
      | none =>
        match (if hasNeedlessZero t then none else float? t) with
        | some n => some (.num n)
        | none => some (.str t)

end ApiTypes.Yaml
