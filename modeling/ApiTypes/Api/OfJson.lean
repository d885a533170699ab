import ApiTypes.Api.Basic
import ApiTypes.Schema.OfJson
/-!
Reading an API description from a tree of values. Two layouts are read, one with the named schemas under
`definitions` and the body among the parameters, and one with them under `components` and the body on its own.
-/
namespace ApiTypes.Api

inductive Error where
  | paths
  | item (route : Text)
  | operation (verb : Verb) (route : Text)
deriving DecidableEq, Repr

/-! ### Parameters and responses -/

/-- The schema of the first media type that has to do with JSON, or of the first one if none has. -/
def mediaSchema? (fields : Json.Fields) : Option Json := do
  let content ← (Ordered.get? "content".toList fields).bind Json.asFields?
  let media ← (content.find? fun m => Text.includes "json".toList m.1).or content.head?
  media.2.get? "schema".toList

/-- The type of a parameter stands under `schema`, or, but for the body, beside its name. -/
def parameterSchema (location : Location) (v : Json) : Schema :=
  match v.get? "schema".toList with
  | some schema => Schema.ofJson schema
  | none => if location == .body then .any Notes.none else (Schema.ofJson v).withNotes Notes.none

def flagAt (fields : Json.Fields) (key : Text) : Bool :=
  ((Ordered.get? key fields).bind Json.asBool?).getD false

/-- A parameter that has a name and a known location. -/
def parameter? (v : Json) : Option Parameter := do
  let fields ← v.asFields?
  let name ← Json.textAt? fields "name".toList
  let location ← (Json.textAt? fields "in".toList).bind Location.ofName?
  return {
    name, location
    required := flagAt fields "required".toList
    description := Json.textAt? fields "description".toList
    schema := parameterSchema location v
    raw := v }

def parametersOf (fields : Json.Fields) : List Parameter :=
  match (Ordered.get? "parameters".toList fields).bind Json.asItems? with
  | some items => items.filterMap parameter?
  | none => []

def bodyParameter (fields : Json.Fields) : Parameter where
  name := "body".toList
  location := .body
  required := flagAt fields "required".toList
  description := Json.textAt? fields "description".toList
  schema := ((mediaSchema? fields).map Schema.ofJson).getD (.any Notes.none)
  raw := .obj fields

def bodyParameters (fields : Json.Fields) : List Parameter :=
  match (Ordered.get? "requestBody".toList fields).bind Json.asFields? with
  | some body => [bodyParameter body]
  | none => []

def response (v : Json) : Response :=
  let fields := v.asFields?.getD []
  let raw := (Ordered.get? "schema".toList fields).or (mediaSchema? fields)
  ⟨Json.textAt? fields "description".toList, raw.map Schema.ofJson, raw⟩

def responsesOf (fields : Json.Fields) : List (Text × Response) :=
  match (Ordered.get? "responses".toList fields).bind Json.asFields? with
  | some responses => responses.map fun (code, v) => (code, response v)
  | none => []

/-! ### Operations -/

def inSamePlace (p q : Parameter) : Bool := p.name == q.name && p.location == q.location

/-- Parameters of a route hold for an operation unless it has one of its own in the same place. -/
def inherit (common own : List Parameter) : List Parameter :=
  common.filter (fun c => !own.any (inSamePlace · c)) ++ own

def operation (common : List Parameter) (route : Text) (verb : Verb) (fields : Json.Fields) : Operation where
  route := route
  verb := verb
  id := Json.textAt? fields "operationId".toList
  parameters := inherit common (parametersOf fields) ++ bodyParameters fields
  responses := responsesOf fields
  summary := Json.textAt? fields "summary".toList
  description := Json.textAt? fields "description".toList

/-- The operations of a route. Of two keys that spell the same verb the later one counts. -/
def operationsFrom (common : List Parameter) (route : Text) (read : List (Verb × Operation)) :
    Json.Fields → Except Error (List (Verb × Operation))
  | [] => .ok read
  | (key, v) :: rest =>
    match Verb.ofKey? key with
    | none => operationsFrom common route read rest
    | some verb =>
      match v.asFields? with
      | none => .error (.operation verb route)
      | some fields => operationsFrom common route (Ordered.put verb (operation common route verb fields) read) rest

def routeOf (route : Text) (v : Json) : Except Error (Text × List (Verb × Operation)) :=
  match v.asFields? with
  | none => .error (.item route)
  | some fields => do return (route, ← operationsFrom (parametersOf fields) route [] fields)

def routesOf : Json.Fields → Except Error (List (Text × List (Verb × Operation)))
  | [] => .ok []
  | (route, v) :: rest => do
    let first ← routeOf route v
    return first :: (← routesOf rest)

def definitionsOf (root : Json) : List (Text × Schema) :=
  let named (v : Option Json) : Json.Fields := (v.bind Json.asFields?).getD []
  let sources := named (root.get? "definitions".toList) ++
    named ((root.get? "components".toList).bind (Json.get? "schemas".toList))
  Ordered.ofList (sources.map fun (name, v) => (name, Schema.ofJson v))

def ofJson (root : Json) : Except Error Api :=
  match root.get? "paths".toList with
  | none => .ok ⟨definitionsOf root, []⟩
  | some paths =>
    match paths.asFields? with
    | none => .error .paths
    | some routes => do return ⟨definitionsOf root, ← routesOf routes⟩

end ApiTypes.Api
