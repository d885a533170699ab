import ApiTypes.Json.Writer
import ApiTypes.Schema.Basic
/-!
Type expressions as text. What kind of expression a text is decides whether it needs parentheses before it can
be the element of an array.
-/
namespace ApiTypes

inductive TypeExpr where
  | inline (text : Text)
  /-- Alternatives, which bind weaker than the mark of an array. -/
  | union (text : Text)
  /-- The name of a hoisted declaration, maybe with marks of arrays after it. -/
  | reference (text : Text)
deriving DecidableEq, Repr

namespace TypeExpr

def text : TypeExpr → Text
  | inline t | union t | reference t => t

def arrayMark : Text := "[]".toList

def arrayText : TypeExpr → Text
  | union t => ['('] ++ t ++ [')'] ++ arrayMark
  | e => e.text ++ arrayMark

/-- Arrays of a hoisted declaration still refer to it. -/
def array : TypeExpr → TypeExpr
  | reference t => reference (t ++ arrayMark)
  | e => inline e.arrayText

def any : TypeExpr := inline "any".toList

def alternatives (none : Text) : List Text → TypeExpr
  | [] => inline none
  | [t] => inline t
  | ts => union (Text.joinWith " | ".toList ts)

/-- A literal value. Among texts every value is written as one; elsewhere containers are not literal. -/
def literal (kind : Primitive) (v : Json) : Text :=
  match v with
  | .str s => Json.quote s
  | v =>
    if kind == .string then Json.quote v.text
    else match v with
      | .obj _ | .arr _ => "any".toList
      | v => v.text

def literals (kind : Primitive) (values : List Json) : TypeExpr :=
  alternatives "never".toList (values.map (literal kind))

end TypeExpr

end ApiTypes
