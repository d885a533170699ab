import ApiTypes.Declaration.Record
import ApiTypes.Declaration.Table
import ApiTypes.Naming
import ApiTypes.TypeExpr
/-!
From schemas to type expressions. Without a name for the declaration being made everything stays in place. With
one, records and tuples that are the items of an array are declared apart, under the name of what they stand
in followed by `Item`.
-/
namespace ApiTypes.Schema

mutual

def inline : Schema → TypeExpr
  | object _ properties required => .inline (Record.body (inlineMembers required.isRequired properties))
  | list _ => .inline TypeExpr.any.arrayText
  | listOf _ item =>
    let inner := inline item
    if item.isObject then .inline ("Array<".toList ++ inner.text ++ ['>']) else inner.array
  | tuple _ members => .inline (TypeExpr.alternatives "any".toList (inlineParts members)).arrayText
  | primitive _ kind => .inline kind.name
  | enumeration _ kind values => TypeExpr.literals kind values
  | reference _ _ | any _ | unknown _ _ => TypeExpr.any

def inlineMembers (required : Text → Bool) : Properties → List Text
  | [] => []
  | (name, s) :: rest =>
    Record.member name (inline s).text (required name) s.comment? :: inlineMembers required rest

def inlineParts : List Schema → List Text
  | [] => []
  | s :: rest => (inline s).text :: inlineParts rest

end

section Into

variable {σ : Type} (insert : σ → Declaration → σ)

mutual

/-- The type of a schema in the declaration `name`, and the table with what is hoisted out of it. All that is done with
a table is to insert a declaration. -/
def hoistInto : Schema → (name : Text) → σ → TypeExpr × σ
  | object _ properties required, name, table =>
    let (members, table) := hoistMembersInto required.isRequired properties name table
    (.inline (Record.body members), table)
  | list _, _, table => (.inline TypeExpr.any.arrayText, table)
  | listOf _ item, name, table =>
    let itemName := Naming.hoisted name
    let (inner, table) := hoistInto item itemName table
    if item.isObject then
      (.reference (itemName ++ TypeExpr.arrayMark),
        insert table ⟨itemName, .interface, inner.text, item.comment?, .nestedItem⟩)
    else (inner.array, table)
  | tuple _ members, name, table =>
    let itemName := Naming.hoisted name
    let (parts, table) := hoistPartsInto members itemName table
    (.reference (itemName ++ TypeExpr.arrayMark),
      insert table ⟨itemName, .typeAlias, (TypeExpr.alternatives "any".toList parts).text, none, .nestedItem⟩)
  | primitive _ kind, _, table => (.inline kind.name, table)
  | enumeration _ kind values, _, table => (TypeExpr.literals kind values, table)
  | reference _ _, _, table | any _, _, table | unknown _ _, _, table => (TypeExpr.any, table)

def hoistMembersInto (required : Text → Bool) : Properties → (name : Text) → σ → List Text × σ
  | [], _, table => ([], table)
  | (property, s) :: rest, name, table =>
    let (type, table) := hoistInto s name table
    let (members, table) := hoistMembersInto required rest name table
    (Record.member property type.text (required property) s.comment? :: members, table)

def hoistPartsInto : List Schema → (name : Text) → σ → List Text × σ
  | [], _, table => ([], table)
  | s :: rest, name, table =>
    let (part, table) := hoistInto s name table
    let (parts, table) := hoistPartsInto rest name table
    (part.text :: parts, table)

end

end Into

open Declaration (Table)

def hoist (s : Schema) (name : Text) (table : Table) : TypeExpr × Table := s.hoistInto Table.insert name table

def hoistMembers (required : Text → Bool) (properties : Properties) (name : Text) (table : Table) : List Text × Table :=
  hoistMembersInto Table.insert required properties name table

def hoistParts (members : List Schema) (name : Text) (table : Table) : List Text × Table :=
  hoistPartsInto Table.insert members name table

/-- Objects are declared as interfaces and all else as names for types. -/
def declarationKind (s : Schema) : Declaration.Kind := if s.isObject then .interface else .typeAlias

def declare (s : Schema) (name : Text) (role : Declaration.Role) : Text :=
  let (type, table) := s.hoist name Table.empty
  table.assemble ⟨name, s.declarationKind, type.text, s.comment?, role⟩

end ApiTypes.Schema
