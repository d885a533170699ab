import ApiTypes.Yaml.Scalar
import ApiTypes.Yaml.Mark
/-!
From text to tokens. A key that is not announced by a question mark is recognised only at its colon, so its
tokens are put in after the fact: the scanner remembers where a key may have started, one place for each level
of flow brackets.
-/
namespace ApiTypes.Yaml

/-- Where a key may have started: the number of its first token and its place. A required one stands at the
indentation of the block around it and has to turn out to be a key. -/
structure KeyStart where
  required : Bool
  number : Nat
  index : Nat
  line : Nat
  column : Nat

/- `tokens` is in reverse; `keys` and `indents` have the innermost first. -/
structure Scanner where
  place : Cursor
  flow : Nat
  indent : Int
  indents : List Int
  keyAllowed : Bool
  keys : List (Option KeyStart)
  tokens : List Token
  count : Nat

namespace Scanner

def start (t : Text) : Scanner := ⟨Cursor.start t, 0, -1, [], true, [none], [], 0⟩

def inFlow (s : Scanner) : Bool := s.flow != 0

def emit (token : Token) (s : Scanner) : Scanner :=
  { s with tokens := token :: s.tokens, count := s.count + 1 }

def insertAt (number : Nat) (token : Token) (s : Scanner) : Scanner :=
  let after := s.count - number
  { s with tokens := s.tokens.take after ++ token :: s.tokens.drop after, count := s.count + 1 }

def moveTo (place : Cursor) (s : Scanner) : Scanner := { s with place := place }

def skip (n : Nat) (s : Scanner) : Scanner := s.moveTo (s.place.advance n)

def allowKey (allowed : Bool) (s : Scanner) : Scanner := { s with keyAllowed := allowed }

/-- Opens a block at a column that is further right than the block around it. -/
def openBlock (column number : Nat) (token : Token) (s : Scanner) : Scanner :=
  if s.inFlow || (column : Int) ≤ s.indent then s
  else { s.insertAt number token with indent := column, indents := s.indent :: s.indents }

/- Closes every block whose indentation lies right of the column. -/
def closeBlocksWithin (column : Int) : (fuel : Nat) → Scanner → Scanner
  | 0, s => s
  | fuel + 1, s =>
    if s.indent ≤ column then s
    else match s.indents with
      | [] => s
      | i :: rest => closeBlocksWithin column fuel { s.emit .blockEnd with indent := i, indents := rest }

def closeBlocks (column : Int) (s : Scanner) : Scanner :=
  if s.inFlow then s else closeBlocksWithin column s.indents.length s

def dropKey? (s : Scanner) : Option Scanner :=
  match s.keys with
  | some k :: rest => if k.required then none else some { s with keys := none :: rest }
  | _ => some s

def noteKey? (s : Scanner) : Option Scanner :=
  if !s.keyAllowed then some s
  else do
    let s ← s.dropKey?
    let required := !s.inFlow && s.indent == s.place.column
    let k : KeyStart := ⟨required, s.count, s.place.index, s.place.line, s.place.column⟩
    return { s with keys := some k :: s.keys.drop 1 }

/-- A key ends on its line and within 1024 octets. -/
def keepKey? (place : Cursor) : Option KeyStart → Option (Option KeyStart)
  | none => some none
  | some k =>
    if k.line < place.line || k.index + 1024 < place.index then
      if k.required then none else some none
    else some (some k)

def dropStaleKeys? (s : Scanner) : Option Scanner := do
  return { s with keys := ← s.keys.mapM (keepKey? s.place) }

/- Blanks, comments and line breaks up to the next token, and a byte order mark where a line starts. A tab
   counts as a blank only where no key may start. -/
def toNextTokenWithin : (fuel : Nat) → Scanner → Scanner
  | 0, s => s
  | fuel + 1, s =>
    let marked := s.place.column == 0 && s.place.rest.head? == some '\ufeff'
    let place := if marked then s.place.advance 1 else s.place
    let tabs := s.inFlow || !s.keyAllowed
    let place := (place.skipWhile fun c => c == ' ' || (tabs && c == '\t')).skipComment
    match place.rest with
    | c :: _ =>
      if isBreak c then
        toNextTokenWithin fuel { s with place := place.breakLine.2, keyAllowed := s.keyAllowed || !s.inFlow }
      else s.moveTo place
    | [] => s.moveTo place

def toNextToken (s : Scanner) : Scanner := toNextTokenWithin (s.place.left + 1) s

def endStream? (s : Scanner) : Option Scanner := do
  let s ← (s.closeBlocks (-1)).dropKey?
  return (s.allowKey false).emit .streamEnd

def directive? (s : Scanner) : Option Scanner := do
  let s ← (s.closeBlocks (-1)).dropKey?
  let (token, place) ← Yaml.directive? s.place
  return ((s.allowKey false).moveTo place).emit token

def documentMark? (token : Token) (s : Scanner) : Option Scanner := do
  let s ← (s.closeBlocks (-1)).dropKey?
  return ((s.allowKey false).skip 3).emit token

def flowStart? (token : Token) (s : Scanner) : Option Scanner := do
  let s ← s.noteKey?
  return (({ s with flow := s.flow + 1, keys := none :: s.keys }.allowKey true).skip 1).emit token

def flowEnd? (token : Token) (s : Scanner) : Option Scanner := do
  let s ← s.dropKey?
  let s := if s.inFlow then { s with flow := s.flow - 1, keys := s.keys.drop 1 } else s
  return ((s.allowKey false).skip 1).emit token

def flowEntry? (s : Scanner) : Option Scanner := do
  let s ← s.dropKey?
  return ((s.allowKey true).skip 1).emit .flowEntry

/-- Opens a block for an entry or an announced key, which may only stand where a key may. -/
def openHere? (token : Token) (s : Scanner) : Option Scanner :=
  if s.inFlow then some s
  else if !s.keyAllowed then none
  else some (s.openBlock s.place.column s.count token)

def blockEntry? (s : Scanner) : Option Scanner := do
  let s ← (← s.openHere? .blockSequenceStart).dropKey?
  return ((s.allowKey true).skip 1).emit .blockEntry

def announcedKey? (s : Scanner) : Option Scanner := do
  let s ← (← s.openHere? .blockMappingStart).dropKey?
  return ((s.allowKey !s.inFlow).skip 1).emit .key

def value? (s : Scanner) : Option Scanner := do
  let s ← match s.keys with
    | some k :: rest =>
      let s := (s.insertAt k.number .key).openBlock k.column k.number .blockMappingStart
      pure ({ s with keys := none :: rest }.allowKey false)
    | _ => do
      let s ← s.openHere? .blockMappingStart
      pure (s.allowKey !s.inFlow)
  return (s.skip 1).emit .value

def named? (token : Text → Token) (s : Scanner) : Option Scanner := do
  let s ← s.noteKey?
  let (name, place) ← name? s.place
  return ((s.allowKey false).moveTo place).emit (token name)

def tag? (s : Scanner) : Option Scanner := do
  let s ← s.noteKey?
  let (token, place) ← Yaml.tag? s.inFlow s.place
  return ((s.allowKey false).moveTo place).emit token

def block? (literal : Bool) (s : Scanner) : Option Scanner := do
  let s ← s.dropKey?
  let (text, place) ← Yaml.block? literal s.indent s.place
  return ((s.allowKey true).moveTo place).emit (.scalar text false)

def quoted? (double : Bool) (s : Scanner) : Option Scanner := do
  let s ← s.noteKey?
  let (text, place) ← Yaml.quoted? double s.place
  return ((s.allowKey false).moveTo place).emit (.scalar text false)

def plain? (s : Scanner) : Option Scanner := do
  let s ← s.noteKey?
  let (text, broken, place) ← Yaml.plain? s.inFlow (s.indent + 1) s.place
  return ((s.allowKey broken).moveTo place).emit (.scalar text true)

def startsPlain (flow : Bool) (c : Char) (rest : Text) : Bool :=
  if c == '-' then !((rest.head?.map isSpace).getD false)
  else if c == '?' || c == ':' then !flow && !atGap rest
  else !(isSpace c || isBreak c || ",[]\x7b\x7d#&*!|>'\"%@`".toList.contains c)

def step? (s : Scanner) : Option Scanner := do
  let s ← s.toNextToken.dropStaleKeys?
  let s := s.closeBlocks s.place.column
  match s.place.rest with
  | [] => s.endStream?
  | c :: rest =>
    if s.place.column == 0 && c == '%' then s.directive?
    else if s.place.atDocumentMark then s.documentMark? (if c == '-' then .documentStart else .documentEnd)
    else if c == '[' then s.flowStart? .flowSequenceStart
    else if c == '{' then s.flowStart? .flowMappingStart
    else if c == ']' then s.flowEnd? .flowSequenceEnd
    else if c == '}' then s.flowEnd? .flowMappingEnd
    else if c == ',' then s.flowEntry?
    else if c == '-' && atGap rest then s.blockEntry?
    else if c == '?' && (s.inFlow || atGap rest) then s.announcedKey?
    else if c == ':' && (s.inFlow || atGap rest) then s.value?
    else if c == '*' then s.named? .alias
    else if c == '&' then s.named? .anchor
    else if c == '!' then s.tag?
    else if c == '|' && !s.inFlow then s.block? true
    else if c == '>' && !s.inFlow then s.block? false
    else if c == '\'' then s.quoted? false
    else if c == '"' then s.quoted? true
    else if startsPlain s.inFlow c rest then s.plain?
    else none

/- Every step takes a character, except for the last. -/
def runWithin : (fuel : Nat) → Scanner → Option (List Token)
  | 0, _ => none
  | fuel + 1, s =>
    match s.step? with
    | none => none
    | some s =>
      match s.tokens with
      | .streamEnd :: _ => some s.tokens.reverse
      | _ => runWithin fuel s

end Scanner

def scan? (t : Text) : Option (List Token) :=
  if t.all isAllowed then (Scanner.start t).runWithin (t.length + 2) else none

end ApiTypes.Yaml
