import ApiTypes.Json.Basic
/-!
Reading JSON text. Reading fails as a whole or yields one value; a key that occurs twice keeps its first
position and its last value.
-/
namespace ApiTypes.Json

def isBlank (c : Char) : Bool := c == ' ' || c == '\n' || c == '\t' || c == '\r'

def skipBlanks (t : Text) : Text := t.dropWhile isBlank

/-! ### Strings -/

def hexCode? (a b c d : Char) : Option Nat := do
  return (← Text.hexValue? a) * 4096 + (← Text.hexValue? b) * 256 +
    (← Text.hexValue? c) * 16 + (← Text.hexValue? d)

def escape? : Char → Option Char
  | '"' => some '"'
  | '\\' => some '\\'
  | '/' => some '/'
  | 'b' => some '\x08'
  | 'f' => some '\x0c'
  | 'n' => some '\n'
  | 'r' => some '\r'
  | 't' => some '\t'
  | _ => none

def isLeadSurrogate (n : Nat) : Bool := 0xD800 ≤ n && n ≤ 0xDBFF

def isTrailSurrogate (n : Nat) : Bool := 0xDC00 ≤ n && n ≤ 0xDFFF

def joinSurrogates (lead trail : Nat) : Char := Char.ofNat (0x10000 + (lead - 0xD800) * 1024 + (trail - 0xDC00))

def stringBody? : Text → Option (Text × Text)
  | [] => none
  | '"' :: rest => some ([], rest)
  | '\\' :: 'u' :: a :: b :: c :: d :: rest =>
    match hexCode? a b c d with
    | none => none
    | some n =>
      if isLeadSurrogate n then
        match rest with
        | '\\' :: 'u' :: e :: f :: g :: h :: rest' =>
          match hexCode? e f g h with
          | none => none
          | some m =>
            if isTrailSurrogate m then (stringBody? rest').map fun (s, r) => (joinSurrogates n m :: s, r)
            else none
        | _ => none
      else if isTrailSurrogate n then none
      else (stringBody? rest).map fun (s, r) => (Char.ofNat n :: s, r)
  | '\\' :: e :: rest =>
    match escape? e with
    | none => none
    | some c => (stringBody? rest).map fun (s, r) => (c :: s, r)
  | c :: rest =>
    if c.toNat < 0x20 || c == '\\' then none
    else (stringBody? rest).map fun (s, r) => (c :: s, r)

/-! ### Numbers -/

def maxWord : Nat := Nat.pow 2 64 - 1

/- Digits are taken into the significand as long as it fits a word; `exponent` counts those left out. -/
def takeDigits (significand : Nat) : Text → Nat × Text
  | [] => (significand, [])
  | c :: rest =>
    let next := significand * 10 + (c.toNat - 48)
    if maxWord < next then (significand, c :: rest) else takeDigits next rest

def exponentPart? : Text → Option (Int × Text)
  | [] => none
  | _ :: t =>
    let (negative, t) : Bool × Text := match t with
      | '+' :: r => (false, r)
      | '-' :: r => (true, r)
      | _ => (false, t)
    let ds := t.takeWhile Text.isDigit
    match Text.toNatBase? 10 ds with
    | none => none
    | some n => some (if negative then -(n : Int) else n, t.dropWhile Text.isDigit)

def real? (negative : Bool) (significand : Nat) (exponent : Int) : Option Number :=
  (Decimal.Binary64.scaled? significand exponent).map fun x => .real (x.withSign negative)

def withExponent? (negative : Bool) (significand : Nat) (exponent : Int) (t : Text) : Option (Number × Text) :=
  match t with
  | 'e' :: _ | 'E' :: _ => do
    let (e, rest) ← exponentPart? t
    return (← real? negative significand (exponent + e), rest)
  | _ => do return (← real? negative significand exponent, t)

/- A sign, digits without a needless zero in front, a fraction, an exponent. Without the last two it is a
   whole number if it fits a word and is not minus zero. -/
def number? (t : Text) : Option (Number × Text) :=
  let (negative, t) : Bool × Text := match t with
    | '-' :: r => (true, r)
    | _ => (false, t)
  let ds := t.takeWhile Text.isDigit
  let rest := t.dropWhile Text.isDigit
  if ds.isEmpty || (ds.head? == some '0' && ds.length != 1) then none
  else
    let (significand, dropped) := takeDigits 0 ds
    match rest with
    | '.' :: fraction =>
      let fs := fraction.takeWhile Text.isDigit
      if fs.isEmpty then none
      else
        let (significand, left) := takeDigits significand fs
        let exponent := (dropped.length : Int) - (fs.length - left.length : Nat)
        withExponent? negative significand exponent (fraction.dropWhile Text.isDigit)
    | 'e' :: _ | 'E' :: _ => withExponent? negative significand dropped.length rest
    | _ =>
      if !dropped.isEmpty then (real? negative significand dropped.length).map (·, rest)
      else if !negative then some (.int significand, rest)
      else if 0 < significand && significand ≤ Nat.pow 2 63 then some (.int (-(significand : Int)), rest)
      else (real? true significand 0).map (·, rest)

/-! ### Values -/

mutual

/- `depth` is how many containers may still be opened, `fuel` exceeds the length of the text. -/
def valueWithin : (fuel depth : Nat) → Text → Option (Json × Text)
  | 0, _, _ => none
  | fuel + 1, depth, t =>
    match skipBlanks t with
    | 'n' :: 'u' :: 'l' :: 'l' :: rest => some (.null, rest)
    | 't' :: 'r' :: 'u' :: 'e' :: rest => some (.bool true, rest)
    | 'f' :: 'a' :: 'l' :: 's' :: 'e' :: rest => some (.bool false, rest)
    | '"' :: rest => (stringBody? rest).map fun (s, r) => (.str s, r)
    | '[' :: rest =>
      if depth == 0 then none
      else match skipBlanks rest with
        | ']' :: rest => some (.arr [], rest)
        | _ => (itemsWithin fuel (depth - 1) rest).map fun (vs, r) => (.arr vs, r)
    | '{' :: rest =>
      if depth == 0 then none
      else match skipBlanks rest with
        | '}' :: rest => some (.obj [], rest)
        | _ => (fieldsWithin fuel (depth - 1) rest).map fun (fs, r) => (.obj (Ordered.ofList fs), r)
    | t => (number? t).map fun (n, r) => (.num n, r)

def itemsWithin : (fuel depth : Nat) → Text → Option (List Json × Text)
  | 0, _, _ => none
  | fuel + 1, depth, t =>
    match valueWithin fuel depth t with
    | none => none
    | some (v, rest) =>
      match skipBlanks rest with
      | ',' :: rest => (itemsWithin fuel depth rest).map fun (vs, r) => (v :: vs, r)
      | ']' :: rest => some ([v], rest)
      | _ => none

def fieldsWithin : (fuel depth : Nat) → Text → Option (List (Text × Json) × Text)
  | 0, _, _ => none
  | fuel + 1, depth, t =>
    match skipBlanks t with
    | '"' :: rest =>
      match stringBody? rest with
      | none => none
      | some (k, rest) =>
        match skipBlanks rest with
        | ':' :: rest =>
          match valueWithin fuel depth rest with
          | none => none
          | some (v, rest) =>
            match skipBlanks rest with
            | ',' :: rest => (fieldsWithin fuel depth rest).map fun (fs, r) => ((k, v) :: fs, r)
            | '}' :: rest => some ([(k, v)], rest)
            | _ => none
        | _ => none
    | _ => none

end

def maxDepth : Nat := 127

def read? (t : Text) : Option Json :=
  match valueWithin (2 * t.length + 2) maxDepth t with
  | some (v, rest) => if (skipBlanks rest).isEmpty then some v else none
  | none => none

end ApiTypes.Json
