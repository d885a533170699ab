import ApiTypes.Yaml.Cursor
import ApiTypes.Yaml.Token
/-!
Anchors, aliases, tags and directives.
-/
namespace ApiTypes.Yaml

/-! ### Anchors and aliases -/

def name? (c : Cursor) : Option (Text × Cursor) :=
  let c := c.advance 1
  let name := c.rest.takeWhile isWordChar
  let c := c.advance name.length
  let ended := atGap c.rest || (c.rest.head?.map "?:,]\x7d%@`".toList.contains).getD false
  if name.isEmpty || !ended then none else some (name, c)

/-! ### Tags -/

def escapedOctet? : Text → Option Nat
  | '%' :: h :: l :: _ => do return (← Text.hexValue? h) * 16 + (← Text.hexValue? l)
  | _ => none

def octetCount? (first : Nat) : Option Nat :=
  if first < 0x80 then some 1
  else if 0xC0 ≤ first && first < 0xE0 then some 2
  else if 0xE0 ≤ first && first < 0xF0 then some 3
  else if 0xF0 ≤ first && first < 0xF8 then some 4
  else none

def tailOctets? : (count : Nat) → Text → Option (List Nat)
  | 0, _ => some []
  | count + 1, t => do
    let b ← escapedOctet? t
    if 0x80 ≤ b && b < 0xC0 then return b :: (← tailOctets? count (t.drop 3)) else none

/-- As many escaped octets as the first one announces. They need not stand for a character. -/
def escapedOctets? (t : Text) : Option (List Nat) := do
  let first ← escapedOctet? t
  return first :: (← tailOctets? ((← octetCount? first) - 1) (t.drop 3))

/- `verbatim` admits the flow marks that a tag between angle brackets may hold. -/
def isUriChar (verbatim : Bool) (c : Char) : Bool :=
  isWordChar c || ";/?:@&=+$.%!~*'()".toList.contains c || (verbatim && (c == ',' || c == '[' || c == ']'))

def uriWithin (verbatim : Bool) : (fuel : Nat) → Cursor → Option (Tag × Cursor)
  | 0, _ => none
  | fuel + 1, c =>
    match c.rest with
    | [] => some ([], c)
    | x :: _ =>
      if !isUriChar verbatim x then some ([], c)
      else if x == '%' then
        match escapedOctets? c.rest with
        | none => none
        | some bs => (uriWithin verbatim fuel (c.advance (3 * bs.length))).map fun (t, r) => (bs ++ t, r)
      else (uriWithin verbatim fuel (c.advance 1)).map fun (t, r) => (x.toNat :: t, r)

def uri? (verbatim : Bool) (c : Cursor) : Option (Tag × Cursor) := uriWithin verbatim (c.left + 1) c

/-- A tag ends where an escape stands for zero. -/
def Tag.upToZero (t : Tag) : Tag := t.takeWhile (· != 0)

/-- An exclamation mark, a word, and one more exclamation mark if it follows. -/
def handle? (c : Cursor) : Option (Text × Cursor) :=
  match c.rest with
  | '!' :: rest =>
    let word := rest.takeWhile isWordChar
    let c := c.advance (word.length + 1)
    if c.rest.head? == some '!' then some ('!' :: (word ++ ['!']), c.advance 1) else some ('!' :: word, c)
  | _ => none

/-- The handle of a tag and what follows the handle. A tag that does not start with a named handle has the
handle `!`; the lone exclamation mark has none. -/
def tag? (flow : Bool) (c : Cursor) : Option (Token × Cursor) := do
  let (handle, suffix, c) ← parts
  if atGap c.rest || (flow && c.rest.head? == some ',') then return (.tag handle suffix, c) else none
where
  parts : Option (Text × Tag × Cursor) :=
    if (c.rest.drop 1).head? == some '<' then do
      let (suffix, c) ← uri? true (c.advance 2)
      if suffix.isEmpty || c.rest.head? != some '>' then none else return ([], suffix.upToZero, c.advance 1)
    else do
      let (handle, c) ← handle? c
      let (suffix, c) ← uri? false c
      if 1 < handle.length && handle.getLast? == some '!' then
        if suffix.isEmpty then none else return (handle, suffix.upToZero, c)
      else
        let suffix := Tag.upToZero (Text.Utf8.encode (handle.drop 1) ++ suffix)
        if suffix.isEmpty then return ([], Tag.lone, c) else return (['!'], suffix, c)

/-! ### Directives -/

def versionPart? (c : Cursor) : Option (Nat × Cursor) :=
  let ds := c.rest.takeWhile Text.isDigit
  if 9 < ds.length then none else (Text.toNatBase? 10 ds).map (·, c.advance ds.length)

def version? (c : Cursor) : Option (Token × Cursor) := do
  let (major, c) ← versionPart? c.skipSpaces
  if c.rest.head? != some '.' then none
  else
    let (minor, c) ← versionPart? (c.advance 1)
    return (.version major minor, c)

def tagHandle? (c : Cursor) : Option (Token × Cursor) := do
  let (handle, c) ← handle? c.skipSpaces
  if handle != ['!'] && handle.getLast? != some '!' then none
  else if !((c.rest.head?.map isSpace).getD false) then none
  else
    let (lead, c) ← uri? true c.skipSpaces
    if lead.isEmpty || !atGap c.rest then none else return (.tagHandle handle lead.upToZero, c)

/-- A directive with the comment and the line break after it; the place is its percent sign. -/
def directive? (c : Cursor) : Option (Token × Cursor) := do
  let c := c.advance 1
  let word := c.rest.takeWhile isWordChar
  let c := c.advance word.length
  if !atGap c.rest then none
  else
    let (token, c) ←
      if word == "YAML".toList then version? c
      else if word == "TAG".toList then tagHandle? c
      else none
    let c := c.skipSpaces.skipComment
    if atLineEnd c.rest then return (token, c.breakLine.2) else none

end ApiTypes.Yaml
