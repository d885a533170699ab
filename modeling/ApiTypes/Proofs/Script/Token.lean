import ApiTypes.Declaration.Record
import ApiTypes.Json.Reader
/-!
Tokens of declaration text: words, quoted texts, numbers and marks. Blanks and block comments may stand
between tokens and are skipped. A text is scanned one character at a time, and the mode says what has been begun.
-/
namespace ApiTypes.Script

inductive Token where
  | word (w : Text)
  /-- A quoted text, with its escapes read. -/
  | text (s : Text)
  | number (n : Text)
  | mark (c : Char)
deriving DecidableEq, Repr

/-- Every character beyond ASCII counts as a letter. -/
def isWordStart (c : Char) : Bool := Record.isIdentifierStart c || 0x7F < c.toNat

def isWordPart (c : Char) : Bool := isWordStart c || Text.isDigit c

def isName : Text → Bool
  | [] => false
  | c :: rest => isWordStart c && rest.all isWordPart

def isMark (c : Char) : Bool := ['{', '}', '[', ']', '(', ')', '<', '>', '|', ';', ':', '?', '='].contains c

/-! ### Numerals -/

inductive Numeral where
  | sign
  | whole
  | point
  | fraction
  | exponent
  | exponentSign
  | power
deriving DecidableEq, Repr

namespace Numeral

def next? : Numeral → Char → Option Numeral
  | sign, c => if Text.isDigit c then some whole else none
  | whole, c =>
    if Text.isDigit c then some whole else if c == '.' then some point
    else if c == 'e' || c == 'E' then some exponent else none
  | point, c => if Text.isDigit c then some fraction else none
  | fraction, c =>
    if Text.isDigit c then some fraction else if c == 'e' || c == 'E' then some exponent else none
  | exponent, c =>
    if Text.isDigit c then some power else if c == '+' || c == '-' then some exponentSign else none
  | exponentSign, c => if Text.isDigit c then some power else none
  | power, c => if Text.isDigit c then some power else none

def complete : Numeral → Bool
  | whole | fraction | power => true
  | _ => false

def start? (c : Char) : Option Numeral :=
  if c == '-' then some sign else if Text.isDigit c then some whole else none

end Numeral

/-! ### Scanning -/

/-- What has been begun; texts are kept in reverse. -/
inductive Mode where
  | between
  | word (run : Text)
  | number (numeral : Numeral) (run : Text)
  | text (read : Text)
  /-- After a backslash. -/
  | escape (read : Text)
  /-- After a backslash and a `u`: the digits to come, and the value of those before. -/
  | code (read : Text) (digits value : Nat)
  /-- After a slash that may begin a comment. -/
  | slash
  /-- In a comment; `star` says whether the last character may begin its end. -/
  | comment (star : Bool)
deriving DecidableEq, Repr

def begin? (c : Char) : Option (Mode × List Token) :=
  if Json.isBlank c then some (.between, [])
  else if isMark c then some (.between, [.mark c])
  else if isWordStart c then some (.word [c], [])
  else if c == '"' then some (.text [], [])
  else if c == '/' then some (.slash, [])
  else (Numeral.start? c).map fun numeral => (.number numeral [c], [])

def flush? (token : Token) (c : Char) : Option (Mode × List Token) :=
  (begin? c).map fun (mode, tokens) => (mode, token :: tokens)

def step? : Mode → Char → Option (Mode × List Token)
  | .between, c => begin? c
  | .word run, c => if isWordPart c then some (.word (c :: run), []) else flush? (.word run.reverse) c
  | .number numeral run, c =>
    match numeral.next? c with
    | some numeral => some (.number numeral (c :: run), [])
    | none => if numeral.complete then flush? (.number run.reverse) c else none
  | .text read, c =>
    if c == '"' then some (.between, [.text read.reverse])
    else if c == '\\' then some (.escape read, [])
    else if c.toNat < 0x20 then none
    else some (.text (c :: read), [])
  | .escape read, c =>
    if c == 'u' then some (.code read 4 0, []) else (Json.escape? c).map fun d => (.text (d :: read), [])
  | .code read digits value, c =>
    match Text.hexValue? c, digits with
    | some d, 1 => some (.text (Char.ofNat (value * 16 + d) :: read), [])
    | some d, digits + 1 => some (.code read digits (value * 16 + d), [])
    | _, _ => none
  | .slash, c => if c == '*' then some (.comment false, []) else none
  | .comment star, c => some (if star && c == '/' then .between else .comment (c == '*'), [])

def finish? : Mode → Option (List Token)
  | .between => some []
  | .word run => some [.word run.reverse]
  | .number numeral run => if numeral.complete then some [.number run.reverse] else none
  | _ => none

def tokensFrom (mode : Mode) : Text → Option (List Token)
  | [] => finish? mode
  | c :: rest => (step? mode c).bind fun (mode, tokens) => (tokensFrom mode rest).map (tokens ++ ·)

def tokens? (t : Text) : Option (List Token) := tokensFrom .between t

end ApiTypes.Script
