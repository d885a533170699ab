import ApiTypes.Json.Basic
/-!
Schemas: the closed vocabulary of shapes that an API description can give to its data. Everything after the
reading of a description sees schemas only.
-/
namespace ApiTypes

inductive Primitive where
  | string
  | number
  | boolean
  | null
  | any
deriving DecidableEq, Repr

def Primitive.name : Primitive → Text
  | string => "string".toList
  | number => "number".toList
  | boolean => "boolean".toList
  | null => "null".toList
  | any => "any".toList

inductive Requirement where
  | unspecified
  | all (required : Bool)
  | names (required : List Text)
deriving DecidableEq, Repr

namespace Requirement

def isRequiredOr (r : Requirement) (fallback : Bool) (name : Text) : Bool :=
  match r with
  | unspecified => fallback
  | all required => required
  | names required => required.contains name

/-- Properties are required unless the object says otherwise. -/
def isRequired (r : Requirement) (name : Text) : Bool := r.isRequiredOr true name

end Requirement

structure Notes where
  description : Option Text
  title : Option Text
deriving DecidableEq, Repr

def nonempty? (t : Option Text) : Option Text := t.filter (!·.isEmpty)

namespace Notes

def none : Notes := ⟨.none, .none⟩

def comment? (n : Notes) : Option Text := (nonempty? n.description).or (nonempty? n.title)

end Notes

inductive Schema where
  | object (notes : Notes) (properties : List (Text × Schema)) (required : Requirement)
  /-- A list of which nothing more is known. -/
  | list (notes : Notes)
  | listOf (notes : Notes) (item : Schema)
  | tuple (notes : Notes) (members : List Schema)
  | primitive (notes : Notes) (kind : Primitive)
  | enumeration (notes : Notes) (kind : Primitive) (values : List Json)
  /-- A reference left in place where a cycle closes. -/
  | reference (notes : Notes) (pointer : Text)
  | any (notes : Notes)
  /-- A type outside the vocabulary. -/
  | unknown (notes : Notes) (tag : Text)

namespace Schema

abbrev Properties := List (Text × Schema)

def notes : Schema → Notes
  | object n _ _ | list n | listOf n _ | tuple n _ | primitive n _ | enumeration n _ _ | reference n _
  | any n | unknown n _ => n

def withNotes (n : Notes) : Schema → Schema
  | object _ properties required => object n properties required
  | list _ => list n
  | listOf _ item => listOf n item
  | tuple _ members => tuple n members
  | primitive _ kind => primitive n kind
  | enumeration _ kind values => enumeration n kind values
  | reference _ pointer => reference n pointer
  | any _ => any n
  | unknown _ tag => unknown n tag

def comment? (s : Schema) : Option Text := s.notes.comment?

def isObject : Schema → Bool
  | object .. => true
  | _ => false

def isArray : Schema → Bool
  | list _ | listOf _ _ | tuple _ _ => true
  | _ => false

end Schema

end ApiTypes
