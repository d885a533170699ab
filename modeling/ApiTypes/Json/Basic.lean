import ApiTypes.Text.Basic
import ApiTypes.Ordered
import ApiTypes.Decimal.Binary64
/-!
JSON values. Objects keep the order of their keys. A number is a whole number or a finite double, and the
two are different values even when they are equal as numbers.
-/
namespace ApiTypes

inductive Json.Number where
  | int (i : Int)
  | real (x : Decimal.Binary64)
deriving DecidableEq, Repr

inductive Json where
  | null
  | bool (b : Bool)
  | num (n : Json.Number)
  | str (s : Text)
  | arr (items : List Json)
  | obj (fields : List (Text × Json))

namespace Json

abbrev Fields := List (Text × Json)

def get? (key : Text) : Json → Option Json
  | obj fields => Ordered.get? key fields
  | _ => none

def asText? : Json → Option Text
  | str s => some s
  | _ => none

def asBool? : Json → Option Bool
  | bool b => some b
  | _ => none

def asItems? : Json → Option (List Json)
  | arr items => some items
  | _ => none

def asFields? : Json → Option Fields
  | obj fields => some fields
  | _ => none

def isObject (v : Json) : Bool := v.asFields?.isSome

def textAt? (fields : Fields) (key : Text) : Option Text := (Ordered.get? key fields).bind asText?

end Json

end ApiTypes
