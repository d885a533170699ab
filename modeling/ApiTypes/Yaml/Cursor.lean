import ApiTypes.Text.Utf8
/-!
A place in a YAML text: what is left to read, and how far into the text, the lines and the line it is. The size of
the text and the way into it are counted in octets, lines in characters.
-/
namespace ApiTypes.Yaml

def isAllowed (c : Char) : Bool :=
  let n := c.toNat
  n == 0x09 || n == 0x0A || n == 0x0D || (0x20 ≤ n && n ≤ 0x7E) || n == 0x85 ||
    (0xA0 ≤ n && n ≤ 0xD7FF) || (0xE000 ≤ n && n ≤ 0xFFFD) || 0x10000 ≤ n

def isSpace (c : Char) : Bool := c == ' ' || c == '\t'

def isBreak (c : Char) : Bool :=
  c == '\n' || c == '\r' || c == '\u0085' || c == '\u2028' || c == '\u2029'

/-- Letters, digits, the low line and the hyphen: what names of anchors and handles are made of. -/
def isWordChar (c : Char) : Bool := c.isAlphanum || c == '_' || c == '-'

def isFlowMark (c : Char) : Bool := c == ',' || c == '[' || c == ']' || c == '{' || c == '}'

def atGap : Text → Bool
  | [] => true
  | c :: _ => isSpace c || isBreak c

def atLineEnd : Text → Bool
  | [] => true
  | c :: _ => isBreak c

structure Cursor where
  size : Nat
  rest : Text
  index : Nat
  line : Nat
  column : Nat
deriving Repr

namespace Cursor

def start (t : Text) : Cursor := ⟨Text.Utf8.size t, t, 0, 0, 0⟩

def left (c : Cursor) : Nat := c.size - c.index

def advance (n : Nat) (c : Cursor) : Cursor :=
  ⟨c.size, c.rest.drop n, c.index + Text.Utf8.size (c.rest.take n), c.line, c.column + n⟩

def skipWhile (p : Char → Bool) (c : Cursor) : Cursor := c.advance (c.rest.takeWhile p).length

def skipSpaces (c : Cursor) : Cursor := c.skipWhile isSpace

def skipComment (c : Cursor) : Cursor :=
  if c.rest.head? == some '#' then c.skipWhile (!isBreak ·) else c

/-- Goes past a line break, if one comes first, and yields how it counts in a scalar: a line feed, except for
the two separators, which stand for themselves. -/
def breakLine (c : Cursor) : Text × Cursor :=
  match c.rest with
  | '\r' :: '\n' :: rest => (['\n'], ⟨c.size, rest, c.index + 2, c.line + 1, 0⟩)
  | b :: rest =>
    if isBreak b then
      (if b == '\u2028' || b == '\u2029' then [b] else ['\n'],
        ⟨c.size, rest, c.index + Text.Utf8.size [b], c.line + 1, 0⟩)
    else ([], c)
  | [] => ([], c)

/-- Three hyphens or three points stand at the beginning of a line, followed by a gap. -/
def atDocumentMark (c : Cursor) : Bool :=
  c.column == 0 && match c.rest with
    | '-' :: '-' :: '-' :: rest => atGap rest
    | '.' :: '.' :: '.' :: rest => atGap rest
    | _ => false

end Cursor

end ApiTypes.Yaml
