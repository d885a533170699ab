import ApiTypes.Declaration.Comment
/-!
Exported declarations, and the table of those that are hoisted out of the one being made.
-/
namespace ApiTypes

inductive Declaration.Kind where
  | interface
  | typeAlias
deriving DecidableEq, Repr

inductive Declaration.Role where
  | definition
  | entity
  | params
  | nestedItem
deriving DecidableEq, Repr

structure Declaration where
  name : Text
  kind : Declaration.Kind
  body : Text
  comment : Option Text
  role : Declaration.Role
deriving DecidableEq, Repr

def Declaration.render (d : Declaration) : Text :=
  let comment := (d.comment.map Comment.block).getD []
  match d.kind with
  | .interface => comment ++ "export interface ".toList ++ d.name ++ [' '] ++ d.body ++ ['\n']
  | .typeAlias => comment ++ "export type ".toList ++ d.name ++ " = ".toList ++ d.body ++ ";\n".toList

end ApiTypes
