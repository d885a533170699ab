import ApiTypes.Text.Basic
/-!
Layout of declarations. Every line is trimmed and indented by the brackets open before it, less those it
closes first; blank lines are kept only between declarations, one at a time; the lines of a block comment are set
under its opening. A text whose brackets do not match is refused.
-/
namespace ApiTypes.Layout

inductive Error where
  /-- A bracket is closed that is not open; lines count from one. -/
  | unbalanced (line : Nat)
  | openComment
  | openBracket
deriving DecidableEq, Repr

/-! ### Brackets of a line -/

structure Brackets where
  opens : Nat
  closes : Nat
  /-- The closing brackets before anything else. -/
  leading : Nat
deriving DecidableEq, Repr

/-- Inside a literal: the quote that ends it, and whether a backslash stands before the next character. -/
structure Quote where
  mark : Char
  escaped : Bool
deriving DecidableEq, Repr

def isOpening (c : Char) : Bool := c == '{' || c == '[' || c == '('

def isClosing (c : Char) : Bool := c == '}' || c == ']' || c == ')'

def isQuote (c : Char) : Bool := c == '"' || c == '\'' || c == '\x60'

def Quote.next (q : Quote) (c : Char) : Option Quote :=
  if q.escaped then some { q with escaped := false }
  else if c == '\\' then some { q with escaped := true }
  else if c == q.mark then none
  else some q

/- `first` holds as long as there have been closing brackets only. -/
def bracketsFrom (quote : Option Quote) (first : Bool) (b : Brackets) : Text → Brackets
  | [] => b
  | c :: rest =>
    match quote with
    | some q => bracketsFrom (q.next c) false b rest
    | none =>
      if isQuote c then bracketsFrom (some ⟨c, false⟩) false b rest
      else if isOpening c then bracketsFrom none false { b with opens := b.opens + 1 } rest
      else if isClosing c then
        bracketsFrom none first
          { b with closes := b.closes + 1, leading := if first then b.leading + 1 else b.leading } rest
      else bracketsFrom none false b rest

def brackets (t : Text) : Brackets := bracketsFrom none true ⟨0, 0, 0⟩ t

/-! ### Lines -/

structure State where
  depth : Nat
  inComment : Bool
  /-- Whether a line has been written. -/
  started : Bool
  /-- Whether a blank line is due before the next one. -/
  blankDue : Bool
deriving DecidableEq, Repr

def State.initial : State := ⟨0, false, false, false⟩

def indent (width depth : Nat) : Text := List.replicate (width * depth) ' '

/-- A star that starts a line of a comment stands under the one of the opening. -/
def alignStar (t : Text) : Text := if t.head? == some '*' then ' ' :: t else t

def place (width : Nat) (s : State) (t : Text) : Option (Text × State) :=
  if s.inComment || Text.startsWith t "/*".toList then
    some (indent width s.depth ++ alignStar t, ⟨s.depth, !Text.includes "*/".toList t, true, false⟩)
  else
    let b := brackets t
    if s.depth < b.leading || s.depth + b.opens < b.closes then none
    else some (indent width (s.depth - b.leading) ++ t, ⟨s.depth + b.opens - b.closes, false, true, false⟩)

def afterBlank (s : State) : State := { s with blankDue := s.depth == 0 && !s.inComment && s.started }

def finish (s : State) : Except Error (List Text) :=
  if s.inComment then .error .openComment
  else if s.depth != 0 then .error .openBracket
  else .ok []

def linesFrom (width number : Nat) (s : State) : List Text → Except Error (List Text)
  | [] => finish s
  | raw :: rest =>
    let t := Text.trim raw
    if t.isEmpty then linesFrom width (number + 1) (afterBlank s) rest
    else match place width s t with
      | none => .error (.unbalanced number)
      | some (line, next) => do
        let lines ← linesFrom width (number + 1) next rest
        return (if s.blankDue then [[]] else []) ++ line :: lines

def format (width : Nat) (t : Text) : Except Error Text := do
  let lines ← linesFrom width 1 State.initial (Text.lines t)
  return Text.joinWith ['\n'] lines ++ ['\n']

end ApiTypes.Layout
