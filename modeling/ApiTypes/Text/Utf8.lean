import ApiTypes.Text.Basic
/-!
UTF-8. Octets are natural numbers below 256. Decoding yields one item per character and one `none` per
longest stretch of octets that starts a character without completing it.
-/
namespace ApiTypes.Text.Utf8

def encodeChar (c : Char) : List Nat :=
  let n := c.toNat
  if n < 0x80 then [n]
  else if n < 0x800 then [0xC0 + n / 64, 0x80 + n % 64]
  else if n < 0x10000 then [0xE0 + n / 4096, 0x80 + n / 64 % 64, 0x80 + n % 64]
  else [0xF0 + n / 262144, 0x80 + n / 4096 % 64, 0x80 + n / 64 % 64, 0x80 + n % 64]

def encode (t : Text) : List Nat := t.flatMap encodeChar

def size (t : Text) : Nat := (encode t).length

/-- What the first octet of a character announces: how many octets follow, the bounds of the next one, and
the leading bits. -/
structure Owed where
  count : Nat
  low : Nat
  high : Nat
  bits : Nat

def Owed.ofLead? (b : Nat) : Option Owed :=
  if 0xC2 ≤ b && b ≤ 0xDF then some ⟨1, 0x80, 0xBF, b - 0xC0⟩
  else if b == 0xE0 then some ⟨2, 0xA0, 0xBF, 0⟩
  else if b == 0xED then some ⟨2, 0x80, 0x9F, 13⟩
  else if 0xE1 ≤ b && b ≤ 0xEF then some ⟨2, 0x80, 0xBF, b - 0xE0⟩
  else if b == 0xF0 then some ⟨3, 0x90, 0xBF, 0⟩
  else if 0xF1 ≤ b && b ≤ 0xF3 then some ⟨3, 0x80, 0xBF, b - 0xF0⟩
  else if b == 0xF4 then some ⟨3, 0x80, 0x8F, 4⟩
  else none

/-- What an octet that starts a character completes, and what it leaves owed. -/
def lead (b : Nat) : List (Option Char) × Option Owed :=
  if b < 0x80 then ([some (Char.ofNat b)], none)
  else match Owed.ofLead? b with
    | some o => ([], some o)
    | none => ([none], none)

def step : (owed : Option Owed) → Nat → List (Option Char) × Option Owed
  | none, b => lead b
  | some o, b =>
    if o.low ≤ b && b ≤ o.high then
      let bits := o.bits * 64 + (b - 0x80)
      if o.count ≤ 1 then ([some (Char.ofNat bits)], none)
      else ([], some ⟨o.count - 1, 0x80, 0xBF, bits⟩)
    else
      let (done, owed) := lead b
      (none :: done, owed)

/- `owed` is the character that has been started, if there is one. -/
def itemsFrom : (owed : Option Owed) → List Nat → List (Option Char)
  | none, [] => []
  | some _, [] => [none]
  | owed, b :: rest =>
    let (done, owed) := step owed b
    done ++ itemsFrom owed rest

def items (octets : List Nat) : List (Option Char) := itemsFrom none octets

def decode? (octets : List Nat) : Option Text := (items octets).mapM id

/-- The text, with a replacement character for each stretch that is no character. -/
def decodeLossy (octets : List Nat) : Text := (items octets).map (·.getD '�')

end ApiTypes.Text.Utf8
