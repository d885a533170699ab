import ApiTypes.Text.Utf8
/-!
Percent encoding: an octet may be written as a percent sign and two hexadecimal digits.
-/
namespace ApiTypes.Text.Percent

def octet (n : Nat) : Text := ['%', (digitChar (n / 16)).toUpper, (digitChar (n % 16)).toUpper]

/-- Writes the octets of every non-ASCII character and of every character that `reserved` holds of. -/
def encode (reserved : Char → Bool) (t : Text) : Text :=
  t.flatMap fun c =>
    if c.toNat < 0x80 && !reserved c then [c] else (Utf8.encodeChar c).flatMap octet

def escaped? : List Nat → Option Nat
  | h :: l :: _ => do return (← hexValue? (Char.ofNat h)) * 16 + (← hexValue? (Char.ofNat l))
  | _ => none

/- `skip` counts the digits of an escape that has already been read. -/
def octetsFrom : (skip : Nat) → List Nat → List Nat
  | _, [] => []
  | skip + 1, _ :: rest => octetsFrom skip rest
  | 0, b :: rest =>
    match (if b == 0x25 then escaped? rest else none) with
    | some n => n :: octetsFrom 2 rest
    | none => b :: octetsFrom 0 rest

/-- Decodes octets; a percent sign without two digits after it stands for itself. -/
def octets (bs : List Nat) : List Nat := octetsFrom 0 bs

def decodeLossy (t : Text) : Text := Utf8.decodeLossy (octets (Utf8.encode t))

end ApiTypes.Text.Percent
