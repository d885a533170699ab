import ApiTypes.Json.Basic
import ApiTypes.Json.Writer
import ApiTypes.Yaml.Value
/-!
A YAML value as a JSON value. Tags are dropped, keys become text, and of the entries whose keys become the same
text the last one counts, in the place of the first. Numbers that are not finite and keys that are collections
or have a tag cannot be converted.
-/
namespace ApiTypes.Yaml

open ApiTypes.Decimal (Binary64)

inductive ToJsonError where
  | number (n : Number)
  | key
deriving DecidableEq, Repr

def Number.signed? : Number → Option Int
  | .int i => if i.value < Nat.pow 2 63 then some i.value else none
  | _ => none

def Number.unsigned? : Number → Option Nat
  | .int i => if 0 ≤ i.value then some i.value.toNat else none
  | _ => none

def Number.finite? : Number → Option Binary64
  | .int i => (Binary64.ofRatio? i.value.natAbs 1).map (Binary64.withSign (i.value < 0))
  | .real x => some x
  | .infinite _ | .nan => none

/- An integer is written as one, with a sign if it has room for it, and is never taken for a double. -/
def Number.toJson (n : Number) : Except ToJsonError Json :=
  match n.signed? with
  | some i => .ok (.num (.int i))
  | none =>
    match n.unsigned? with
    | some u => .ok (.num (.int u))
    | none =>
      match n.finite? with
      | some x => .ok (.num (.real x))
      | none => .error (.number n)

def Value.keyText : Value → Except ToJsonError Text
  | .str s => .ok s
  | .num n => .ok n.text
  | .bool b => .ok (Json.boolText b)
  | .null => .ok "null".toList
  | _ => .error .key

mutual

def Value.toJson : Value → Except ToJsonError Json
  | .null => .ok .null
  | .bool b => .ok (.bool b)
  | .num n => n.toJson
  | .str s => .ok (.str s)
  | .seq items => (Value.itemsToJson items).map .arr
  | .map entries => (Value.entriesToJson [] entries).map .obj
  | .tagged _ v => v.toJson

def Value.itemsToJson : List Value → Except ToJsonError (List Json)
  | [] => .ok []
  | v :: rest => do
    let j ← v.toJson
    let js ← Value.itemsToJson rest
    return j :: js

def Value.entriesToJson (done : List (Text × Json)) :
    List (Value × Value) → Except ToJsonError (List (Text × Json))
  | [] => .ok done
  | (k, v) :: rest => do
    let key ← k.keyText
    let j ← v.toJson
    Value.entriesToJson (Ordered.put key j done) rest

end

end ApiTypes.Yaml
