import ApiTypes.Schema.Basic
/-!
A schema as a tree of values: its notes, the name of its shape under `kind`, and what the shape holds. Literal
values have a kind of their own, so that they write `kind` twice.
-/
namespace ApiTypes

def Requirement.toJson : Requirement → Json
  | unspecified => .null
  | all required => .bool required
  | names required => .arr (required.map .str)

namespace Schema

def noteFields (n : Notes) : Json.Fields :=
  (n.description.map fun t => ("description".toList, Json.str t)).toList ++
    (n.title.map fun t => ("title".toList, Json.str t)).toList

def tagged (n : Notes) (kind : String) (payload : Json.Fields) : Json :=
  .obj (noteFields n ++ ("kind".toList, .str kind.toList) :: payload)

mutual

def toJson : Schema → Json
  | object n properties required =>
    tagged n "object" [("properties".toList, .obj (propertiesToJson properties)), ("required".toList, required.toJson)]
  | list n => tagged n "array" [("items".toList, .null)]
  | listOf n item => tagged n "array" [("items".toList, toJson item)]
  | tuple n members => tagged n "array" [("items".toList, .arr (membersToJson members))]
  | primitive n kind => tagged n "primitive" [("primitive".toList, .str kind.name)]
  | enumeration n kind values => tagged n "enum" [("kind".toList, .str kind.name), ("values".toList, .arr values)]
  | reference n pointer => tagged n "reference" [("pointer".toList, .str pointer)]
  | any n => tagged n "any" []
  | unknown n tag => tagged n "unknown" [("tag".toList, .str tag)]

def propertiesToJson : Properties → Json.Fields
  | [] => []
  | (name, s) :: rest => (name, toJson s) :: propertiesToJson rest

def membersToJson : List Schema → List Json
  | [] => []
  | s :: rest => toJson s :: membersToJson rest

end

end Schema

end ApiTypes
