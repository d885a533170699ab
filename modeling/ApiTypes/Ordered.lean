/-!
Maps as lists of pairs in the order in which their keys first came in. Putting a value under a key that is
already there replaces the value and keeps the position.
-/
namespace ApiTypes.Ordered

variable {κ α β : Type} [BEq κ]

def put (k : κ) (v : α) : List (κ × α) → List (κ × α)
  | [] => [(k, v)]
  | (k', v') :: rest => if k' == k then (k', v) :: rest else (k', v') :: put k v rest

def get? (k : κ) : List (κ × α) → Option α
  | [] => none
  | (k', v) :: rest => if k' == k then some v else get? k rest

def keys (entries : List (κ × α)) : List κ := entries.map Prod.fst

def ofList (entries : List (κ × α)) : List (κ × α) := entries.foldl (fun m e => put e.1 e.2 m) []

def WellFormed (entries : List (κ × α)) : Prop := (keys entries).Nodup

end ApiTypes.Ordered
