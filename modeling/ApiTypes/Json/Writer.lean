import ApiTypes.Json.Basic
import ApiTypes.Decimal.Shortest
/-!
The text of a JSON value: on one line without blanks, or spread over lines.
-/
namespace ApiTypes.Json

/-- Doubles from a hundred-thousandth up to sixteen digits before the point are written without an
exponent; an exponent always has a sign. -/
def realStyle : Decimal.Style := ⟨fun point => -5 < point && point ≤ 16, ['+']⟩

def Number.text : Number → Text
  | .int i => Text.ofInt i
  | .real x => realStyle.text x

def escapeChar (c : Char) : Text :=
  if c == '"' then ['\\', '"']
  else if c == '\\' then ['\\', '\\']
  else if c.toNat < 0x20 then
    match c.toNat with
    | 0x08 => ['\\', 'b']
    | 0x09 => ['\\', 't']
    | 0x0A => ['\\', 'n']
    | 0x0C => ['\\', 'f']
    | 0x0D => ['\\', 'r']
    | n => ['\\', 'u', '0', '0', Text.digitChar (n / 16), Text.digitChar (n % 16)]
  else [c]

/-- A text between quotes. Only quotes, backslashes and control characters are escaped. -/
def quote (t : Text) : Text := '"' :: (t.flatMap escapeChar ++ ['"'])

def boolText (b : Bool) : Text := if b then "true".toList else "false".toList

mutual

def text : Json → Text
  | null => "null".toList
  | bool b => boolText b
  | num n => n.text
  | str s => quote s
  | arr items => '[' :: (itemsText items ++ [']'])
  | obj fields => '{' :: (fieldsText fields ++ ['}'])

def itemsText : List Json → Text
  | [] => []
  | v :: rest => v.text ++ moreItemsText rest

def moreItemsText : List Json → Text
  | [] => []
  | v :: rest => ',' :: (v.text ++ moreItemsText rest)

def fieldsText : List (Text × Json) → Text
  | [] => []
  | (k, v) :: rest => quote k ++ ':' :: (v.text ++ moreFieldsText rest)

def moreFieldsText : List (Text × Json) → Text
  | [] => []
  | (k, v) :: rest => ',' :: (quote k ++ ':' :: (v.text ++ moreFieldsText rest))

end

def newline (depth : Nat) : Text := '\n' :: List.replicate (2 * depth) ' '

mutual

/-- The text over several lines, two blanks for each level; `depth` is the level of the value itself. -/
def prettyAt (depth : Nat) : Json → Text
  | null => "null".toList
  | bool b => boolText b
  | num n => n.text
  | str s => quote s
  | arr [] => "[]".toList
  | arr (v :: rest) =>
    '[' :: (newline (depth + 1) ++ prettyAt (depth + 1) v ++ prettyItems (depth + 1) rest ++ newline depth ++ [']'])
  | obj [] => ['{', '}']
  | obj ((k, v) :: rest) =>
    '{' :: (newline (depth + 1) ++ quote k ++ ": ".toList ++ prettyAt (depth + 1) v
      ++ prettyFields (depth + 1) rest ++ newline depth ++ ['}'])

def prettyItems (depth : Nat) : List Json → Text
  | [] => []
  | v :: rest => ',' :: (newline depth ++ prettyAt depth v ++ prettyItems depth rest)

def prettyFields (depth : Nat) : List (Text × Json) → Text
  | [] => []
  | (k, v) :: rest =>
    ',' :: (newline depth ++ quote k ++ ": ".toList ++ prettyAt depth v ++ prettyFields depth rest)

end

def pretty (v : Json) : Text := prettyAt 0 v

end ApiTypes.Json
