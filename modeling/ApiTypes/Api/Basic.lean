import ApiTypes.Schema.Basic
/-!
API descriptions: named schemas, and routes with the operations on them.
-/
namespace ApiTypes

inductive Verb where
  | get
  | put
  | post
  | delete
  | options
  | head
  | patch
deriving DecidableEq, Repr

namespace Verb

def all : List Verb := [get, put, post, delete, options, head, patch]

def name : Verb → Text
  | get => "GET".toList
  | put => "PUT".toList
  | post => "POST".toList
  | delete => "DELETE".toList
  | options => "OPTIONS".toList
  | head => "HEAD".toList
  | patch => "PATCH".toList

def lowerName (v : Verb) : Text := Text.lowerAscii v.name

def ofKey? (key : Text) : Option Verb := all.find? fun v => v.lowerName == Text.lowerAscii key

end Verb

inductive Location where
  | body
  | query
  | header
  | path
  | formData
deriving DecidableEq, Repr

namespace Location

def all : List Location := [body, query, header, path, formData]

def name : Location → Text
  | body => "body".toList
  | query => "query".toList
  | header => "header".toList
  | path => "path".toList
  | formData => "formData".toList

def ofName? (name : Text) : Option Location := all.find? fun l => l.name == name

end Location

structure Parameter where
  name : Text
  location : Location
  required : Bool
  description : Option Text
  schema : Schema
  /-- The parameter as the description has it. -/
  raw : Json

def Parameter.isBody (p : Parameter) : Bool := p.location == .body

structure Response where
  description : Option Text
  schema : Option Schema
  /-- The schema as the description has it. -/
  raw : Option Json

def Response.satisfies (p : Schema → Bool) (r : Response) : Bool := (r.schema.map p).getD false

structure Operation where
  route : Text
  verb : Verb
  id : Option Text
  parameters : List Parameter
  responses : List (Text × Response)
  summary : Option Text
  description : Option Text

structure Api where
  definitions : List (Text × Schema)
  paths : List (Text × List (Verb × Operation))

end ApiTypes
