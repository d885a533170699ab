import ApiTypes.Declaration.Basic
import ApiTypes.Ordered
/-!
The declarations hoisted so far, in the order in which their names first came in. A later declaration under
the same name takes the place of the earlier one.
-/
namespace ApiTypes.Declaration

structure Table where
  entries : List (Text × Declaration)
deriving DecidableEq, Repr

namespace Table

def empty : Table := ⟨[]⟩

def insert (table : Table) (d : Declaration) : Table := ⟨Ordered.put d.name d table.entries⟩

def get? (table : Table) (name : Text) : Option Declaration := Ordered.get? name table.entries

def names (table : Table) : List Text := Ordered.keys table.entries

def declarations (table : Table) : List Declaration := table.entries.map Prod.snd

def size (table : Table) : Nat := table.entries.length

def isEmpty (table : Table) : Bool := table.entries.isEmpty

def assemble (table : Table) (root : Declaration) : Text :=
  Text.joinWith ['\n'] ((table.declarations ++ [root]).map render)

end Table

end ApiTypes.Declaration
