import ApiTypes.Text.Percent
import ApiTypes.Url.Domain
/-!
The hosts of URLs: domain names in their ASCII form, and addresses of both versions.
-/
namespace ApiTypes.Url

inductive Host where
  | domain (name : Text)
  | ipv4 (address : Nat)
  | ipv6 (pieces : List Nat)
deriving DecidableEq, Repr

/-! ### Addresses -/

def hexAddressPart? : Text → Option Nat
  | [] => some 0
  | t => Text.toNatBase? 16 t

/-- A part of a version 4 address: hexadecimal after `0x`, octal after a zero, otherwise decimal. -/
def addressPart? (t : Text) : Option Nat :=
  match t with
  | '0' :: 'x' :: rest | '0' :: 'X' :: rest => hexAddressPart? rest
  | '0' :: d :: rest => Text.toNatBase? 8 (d :: rest)
  | _ => Text.toNatBase? 10 t

def addressParts (name : Text) : List Text :=
  let parts := Text.splitAt '.' name
  if 1 < parts.length && parts.getLast? == some [] then parts.dropLast else parts

def endsInNumber (name : Text) : Bool :=
  match (addressParts name).getLast? with
  | none => false
  | some last =>
    (!last.isEmpty && last.all Text.isDigit) ||
      match last with
      | '0' :: 'x' :: rest | '0' :: 'X' :: rest => (hexAddressPart? rest).isSome
      | _ => false

def ipv4? (name : Text) : Option Nat := do
  let parts := addressParts name
  if 4 < parts.length then none
  else
    let numbers ← parts.mapM addressPart?
    let last ← numbers.getLast?
    let lead := numbers.dropLast
    if lead.any (255 < ·) || Nat.pow 256 (4 - lead.length) ≤ last then none
    else return (lead.zipIdx.foldl (fun n (p, i) => n + p * Nat.pow 256 (3 - i)) last)

def decimalOctet? (t : Text) : Option Nat :=
  if 1 < t.length && t.head? == some '0' then none
  else (Text.toNatBase? 10 t).filter (· ≤ 255)

/-- The last four octets of a version 6 address may be written as a version 4 address. -/
def dottedPieces? (t : Text) : Option (List Nat) := do
  match ← (Text.splitAt '.' t).mapM decimalOctet? with
  | [a, b, c, d] => return [a * 256 + b, c * 256 + d]
  | _ => none

def ipv6Pieces? : List Text → Option (List Nat)
  | [] => some []
  | [t] =>
    if t.contains '.' then dottedPieces? t
    else if t.length ≤ 4 then (Text.toNatBase? 16 t).map ([·]) else none
  | t :: rest => do
    let n ← if t.length ≤ 4 then Text.toNatBase? 16 t else none
    return n :: (← ipv6Pieces? rest)

def piecesOf? (t : Text) : Option (List Nat) := if t.isEmpty then some [] else ipv6Pieces? (Text.splitAt ':' t)

def cutAtGap : Text → Option (Text × Text)
  | [] => none
  | c :: rest =>
    match c, rest with
    | ':', ':' :: rest => some ([], rest)
    | _, _ => (cutAtGap rest).map fun (a, b) => (c :: a, b)

def ipv6? (t : Text) : Option (List Nat) :=
  match cutAtGap t with
  | none => do
    let pieces ← piecesOf? t
    if pieces.length == 8 then return pieces else none
  | some (before, after) => do
    let a ← if before.contains '.' then none else piecesOf? before
    let b ← piecesOf? after
    if 7 < a.length + b.length then none
    else return a ++ List.replicate (8 - a.length - b.length) 0 ++ b

def leadingZeros (pieces : List Nat) : Nat := (pieces.takeWhile (· == 0)).length

/-- Where the longest run of at least two zeros starts, the first of several, and how long it is. -/
def longestZeros (pieces : List Nat) : Option (Nat × Nat) :=
  (List.range 8).foldl (fun best i =>
    let n := leadingZeros (pieces.drop i)
    let most := (best.map Prod.snd).getD 1
    if most < n then some (i, n) else best) none

def ipv6Text (pieces : List Nat) : Text :=
  let write (ps : List Nat) : Text := Text.joinWith [':'] (ps.map (Text.ofNatBase 16))
  match longestZeros pieces with
  | some (i, n) => write (pieces.take i) ++ "::".toList ++ write (pieces.drop (i + n))
  | none => write pieces

namespace Host

def text : Host → Text
  | domain name => name
  | ipv4 n =>
    Text.joinWith ['.'] ([n / 16777216, n / 65536 % 256, n / 256 % 256, n % 256].map Text.ofNat)
  | ipv6 pieces => '[' :: (ipv6Text pieces ++ [']'])

def bracketed? (t : Text) : Option Host :=
  if t.getLast? == some ']' then (ipv6? (t.drop 1).dropLast).map ipv6 else none

def ofSpecial? (t : Text) : Option Host :=
  if t.head? == some '[' then bracketed? t
  else do
    let name ← Domain.toAscii? (Text.Percent.octets (Text.Utf8.encode t))
    if endsInNumber name then (ipv4? name).map ipv4 else return domain name

def isControl (c : Char) : Bool := c.toNat < 0x20 || c.toNat == 0x7F

def ofOther? (t : Text) : Option Host :=
  if t.head? == some '[' then bracketed? t
  else if t.any (fun c => "\x00\t\n\r #/:<>?@[\\]^|".toList.contains c) then none
  else some (domain (Text.Percent.encode isControl t))

end Host

end ApiTypes.Url
