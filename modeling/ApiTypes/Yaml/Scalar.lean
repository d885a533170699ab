import ApiTypes.Yaml.Cursor
/-!
The texts of scalars: plain ones, quoted ones, and the literal and folded ones of block context. Line breaks
inside a scalar are folded: a single one reads as a blank, more read as one line feed less.
-/
namespace ApiTypes.Yaml

/-! ### Gaps between words -/

/-- A stretch of spaces and line breaks: the spaces before the first break, that break, and the others. -/
structure Gap where
  spaces : Text
  first : Text
  more : Text
  broken : Bool

namespace Gap

def empty : Gap := ⟨[], [], [], false⟩

def joined : Gap := ⟨[], [], [], true⟩

def text (g : Gap) : Text :=
  if !g.broken then g.spaces
  else if g.first.head? == some '\n' then (if g.more.isEmpty then [' '] else g.more)
  else g.first ++ g.more

/- `margin` is the column that a tab on a later line may not stand before. -/
def readWithin (margin : Int) : (fuel : Nat) → Gap → Cursor → Option (Gap × Cursor)
  | 0, g, c => some (g, c)
  | fuel + 1, g, c =>
    match c.rest with
    | [] => some (g, c)
    | x :: _ =>
      if isSpace x then
        if g.broken then
          if (c.column : Int) < margin && x == '\t' then none
          else readWithin margin fuel g (c.advance 1)
        else readWithin margin fuel { g with spaces := g.spaces ++ [x] } (c.advance 1)
      else if isBreak x then
        let (b, c) := c.breakLine
        if g.broken then readWithin margin fuel { g with more := g.more ++ b } c
        else readWithin margin fuel ⟨[], b, [], true⟩ c
      else some (g, c)

def read? (margin : Int) (g : Gap) (c : Cursor) : Option (Gap × Cursor) :=
  readWithin margin (c.left + 1) g c

end Gap

/-! ### Plain scalars -/

/-- The characters up to a gap or to a mark that ends a plain scalar. In flow context a colon may not stand
directly before a flow mark. -/
def plainWord? (flow : Bool) : Text → Option Text
  | [] => some []
  | c :: rest =>
    if isSpace c || isBreak c then some []
    else if flow && c == ':' && (match rest with | d :: _ => isFlowMark d || d == '?' | [] => false) then none
    else if (c == ':' && atGap rest) || (flow && isFlowMark c) then some []
    else (plainWord? flow rest).map (c :: ·)

/- `margin` is the first column that still belongs to the scalar, `gap` what was skipped since the last word.
   The flag of the result says that the scalar was followed by a line break. -/
def plainWithin (flow : Bool) (margin : Int) : (fuel : Nat) → Gap → Cursor → Option (Text × Bool × Cursor)
  | 0, _, _ => none
  | fuel + 1, gap, c =>
    if c.atDocumentMark || c.rest.head? == some '#' then some ([], gap.broken, c)
    else
      match plainWord? flow c.rest with
      | none => none
      | some word =>
        let (lead, gap) := if word.isEmpty then ([], gap) else (gap.text ++ word, Gap.empty)
        let c := c.advance word.length
        match c.rest with
        | [] => some (lead, gap.broken, c)
        | x :: _ =>
          if isSpace x || isBreak x then
            match Gap.read? margin gap c with
            | none => none
            | some (gap, c) =>
              if !flow && (c.column : Int) < margin then some (lead, gap.broken, c)
              else (plainWithin flow margin fuel gap c).map fun (t, r) => (lead ++ t, r)
          else some (lead, gap.broken, c)

def plain? (flow : Bool) (margin : Int) (c : Cursor) : Option (Text × Bool × Cursor) :=
  plainWithin flow margin (c.left + 1) Gap.empty c

/-! ### Quoted scalars -/

def escape? : Char → Option Char
  | '0' => some '\x00'
  | 'a' => some '\x07'
  | 'b' => some '\x08'
  | 't' | '\t' => some '\t'
  | 'n' => some '\n'
  | 'v' => some '\x0b'
  | 'f' => some '\x0c'
  | 'r' => some '\r'
  | 'e' => some '\x1b'
  | ' ' => some ' '
  | '"' => some '"'
  | '/' => some '/'
  | '\\' => some '\\'
  | 'N' => some '\u0085'
  | '_' => some '\u00a0'
  | 'L' => some '\u2028'
  | 'P' => some '\u2029'
  | _ => none

def escapeLength? : Char → Option Nat
  | 'x' => some 2
  | 'u' => some 4
  | 'U' => some 8
  | _ => none

def hexChar? (digits : Text) : Option Char := do
  let n ← digits.foldlM (fun n d => do return n * 16 + (← Text.hexValue? d)) 0
  if (0xD800 ≤ n && n ≤ 0xDFFF) || 0x10FFFF < n then none else some (Char.ofNat n)

def unescape? (e : Char) (rest : Text) : Option (Char × Nat) :=
  match escapeLength? e with
  | some n =>
    let digits := rest.take n
    if digits.length == n then (hexChar? digits).map (·, n + 1) else none
  | none => (escape? e).map (·, 1)

/- Stands after the opening quote. Quoted scalars may not run over a document mark. -/
def quotedWithin (double : Bool) : (fuel : Nat) → Cursor → Option (Text × Cursor)
  | 0, _ => none
  | fuel + 1, c =>
    if c.atDocumentMark then none
    else match c.rest with
      | [] => none
      | x :: rest =>
        if isSpace x || isBreak x then
          match Gap.read? 0 Gap.empty c with
          | none => none
          | some (gap, c) => (quotedWithin double fuel c).map fun (t, r) => (gap.text ++ t, r)
        else if !double && x == '\'' then
          if rest.head? == some '\'' then
            (quotedWithin double fuel (c.advance 2)).map fun (t, r) => ('\'' :: t, r)
          else some ([], c.advance 1)
        else if double && x == '"' then some ([], c.advance 1)
        else if double && x == '\\' then
          match rest with
          | [] => none
          | e :: digits =>
            if isBreak e then
              match Gap.read? 0 Gap.joined (c.advance 1).breakLine.2 with
              | none => none
              | some (gap, c) => (quotedWithin double fuel c).map fun (t, r) => (gap.text ++ t, r)
            else match unescape? e digits with
              | none => none
              | some (d, n) => (quotedWithin double fuel (c.advance (n + 1))).map fun (t, r) => (d :: t, r)
        else (quotedWithin double fuel (c.advance 1)).map fun (t, r) => (x :: t, r)

def quoted? (double : Bool) (c : Cursor) : Option (Text × Cursor) :=
  quotedWithin double (c.left + 1) (c.advance 1)

/-! ### Literal and folded scalars -/

inductive Chomp where
  | strip
  | clip
  | keep
deriving DecidableEq

def chomp? : Char → Option Chomp
  | '+' => some .keep
  | '-' => some .strip
  | _ => none

/-- The header after the mark: how to chomp, and the given indentation or zero, in either order. -/
def blockHeader? (c : Cursor) : Option (Chomp × Nat × Cursor) :=
  let indentation (c : Cursor) : Option (Nat × Cursor) :=
    match c.rest with
    | d :: _ =>
      if Text.isDigit d then (if d == '0' then none else some (d.toNat - 48, c.advance 1)) else some (0, c)
    | [] => some (0, c)
  let chomping (c : Cursor) : Chomp × Cursor :=
    match c.rest.head?.bind chomp? with
    | some k => (k, c.advance 1)
    | none => (.clip, c)
  match c.rest.head?.bind chomp? with
  | some k => (indentation (c.advance 1)).map fun (n, c) => (k, n, c)
  | none => (indentation c).map fun (n, c) => if n == 0 then (.clip, 0, c) else
      let (k, c) := chomping c
      (k, n, c)

/- Reads blank lines. `indent` is zero as long as the indentation is not known; the result holds the breaks,
   the greatest column reached and the place. -/
def blockBreaksWithin (indent : Nat) : (fuel : Nat) → (breaks : Text) → (reached : Nat) → Cursor →
    Option (Text × Nat × Cursor)
  | 0, _, _, _ => none
  | fuel + 1, breaks, reached, c =>
    let room := if indent == 0 then c.left else indent - c.column
    let c := c.advance ((c.rest.take room).takeWhile (· == ' ')).length
    let reached := max reached c.column
    if (indent == 0 || c.column < indent) && c.rest.head? == some '\t' then none
    else match c.rest with
      | x :: _ =>
        if isBreak x then
          let (b, c) := c.breakLine
          blockBreaksWithin indent fuel (breaks ++ b) reached c
        else some (breaks, reached, c)
      | [] => some (breaks, reached, c)

def blockBreaks? (indent : Nat) (c : Cursor) : Option (Text × Nat × Cursor) :=
  blockBreaksWithin indent (c.left + 1) [] 0 c

/-- The end of a block scalar's lines: the last line break and the breaks of the blank lines after it. -/
structure BlockTail where
  first : Text
  more : Text

/- One line per step, as long as lines start at the scalar's own column; `afterSpace` says that the line before
   started with a space. -/
def blockLinesWithin (literal : Bool) (indent : Nat) :
    (fuel : Nat) → BlockTail → (afterSpace : Bool) → Cursor → Option (Text × BlockTail × Cursor)
  | 0, _, _, _ => none
  | fuel + 1, b, afterSpace, c =>
    if c.column != indent || c.rest.isEmpty then some ([], b, c)
    else
      let space := (c.rest.head?.map isSpace).getD false
      let folded := !literal && b.first.head? == some '\n' && !afterSpace && !space
      let joint := if folded then (if b.more.isEmpty then [' '] else []) else b.first
      let line := c.rest.takeWhile (!isBreak ·)
      let (first, c) := (c.advance line.length).breakLine
      match blockBreaks? indent c with
      | none => none
      | some (more, _, c) =>
        (blockLinesWithin literal indent fuel ⟨first, more⟩ space c).map fun (t, r) =>
          (joint ++ b.more ++ line ++ t, r)

/-- A literal or folded scalar; the place is its mark and `parent` the indentation around it. -/
def block? (literal : Bool) (parent : Int) (c : Cursor) : Option (Text × Cursor) := do
  let (chomp, increment, c) ← blockHeader? (c.advance 1)
  let c := c.skipSpaces.skipComment
  if !atLineEnd c.rest then none
  else
    let c := c.breakLine.2
    let given := if increment == 0 then 0 else if 0 ≤ parent then parent.toNat + increment else increment
    let (more, reached, c) ← blockBreaks? given c
    let indent := if given == 0 then max (max reached (parent + 1).toNat) 1 else given
    let (text, b, c) ← blockLinesWithin literal indent (c.left + 1) ⟨[], more⟩ false c
    let tail := match chomp with
      | .strip => []
      | .clip => b.first
      | .keep => b.first ++ b.more
    return (text ++ tail, c)

end ApiTypes.Yaml
