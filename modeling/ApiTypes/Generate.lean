import ApiTypes.Api.Basic
import ApiTypes.Artifact
/-!
Generation for a whole description: one text for each named schema, and one artifact for each operation.
Declarations may come out under the same name; a strict run refuses that.
-/
namespace ApiTypes

/-- Two owners of one name, in the order in which they come. -/
structure Collision where
  name : Text
  first : Text
  second : Text
deriving DecidableEq, Repr

namespace Collision

/- `owners` are the names seen so far with those that have them. -/
def findFrom (owners : List (Text × Text)) : List (Text × Text) → Option Collision
  | [] => none
  | (name, owner) :: rest =>
    match Ordered.get? name owners with
    | some first => some ⟨name, first, owner⟩
    | none => findFrom (Ordered.put name owner owners) rest

def find? (names : List (Text × Text)) : Option Collision := findFrom [] names

/-- A result, unless the run is strict and its names collide. -/
def guard {α : Type} (strict : Bool) (names : List (Text × Text)) (result : α) : Except Collision α :=
  match strict, find? names with
  | true, some c => .error c
  | _, _ => .ok result

end Collision

namespace Api

/-! ### Definitions -/

def definitionOwner (key : Text) : Text := "definition '".toList ++ key ++ ['\'']

def definitionNames (definitions : List (Text × Schema)) : List (Text × Text) :=
  definitions.map fun (key, _) => (Naming.ofDefinition key, definitionOwner key)

def definitionText (config : Config) (formatter : Formatter) (key : Text) (s : Schema) : Text × Text :=
  let name := Naming.ofDefinition key
  (name, formatter.orEmpty config.indentWidth (s.declare name .definition))

def generateDefinitions (config : Config) (formatter : Formatter) (definitions : List (Text × Schema)) :
    Except Collision (List (Text × Text)) :=
  Collision.guard config.strictNames (definitionNames definitions)
    (Ordered.ofList (definitions.map fun (key, s) => definitionText config formatter key s))

/-! ### Operations -/

abbrev Artifacts := List (Text × List Artifact)

/- An operation goes by the route and the verb it stands under. -/
def artifacts (api : Api) (config : Config) (formatter : Formatter) : Artifacts :=
  api.paths.map fun (route, operations) =>
    (route, operations.map fun (verb, op) => { op with route, verb }.artifact config formatter)

def artifactNames (artifacts : Artifacts) : List (Text × Text) :=
  artifacts.flatMap fun (_, ofRoute) => ofRoute.flatMap fun a => a.names.map fun name => (name, a.owner)

def generatePaths (config : Config) (formatter : Formatter) (api : Api) : Except Collision Artifacts :=
  let artifacts := api.artifacts config formatter
  Collision.guard config.strictNames (artifactNames artifacts) artifacts

def manifest (artifacts : Artifacts) : Json :=
  .obj (artifacts.map fun (route, ofRoute) => (route, .arr (ofRoute.map Artifact.toJson)))

end Api

end ApiTypes
