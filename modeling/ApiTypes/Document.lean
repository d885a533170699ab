import ApiTypes.Json.Reader
import ApiTypes.Yaml.Node
import ApiTypes.Yaml.ToJson
/-!
A document is a text in JSON or YAML. A text whose first character that is not blank opens a JSON container is
tried as JSON first, and is read as YAML if it is none.
-/
namespace ApiTypes.Document

inductive ReadError where
  | malformed
  | unconvertible (e : Yaml.ToJsonError)
deriving DecidableEq, Repr

def looksLikeJson (t : Text) : Bool :=
  match Text.trimStart t with
  | '{' :: _ | '[' :: _ => true
  | _ => false

def readYaml (t : Text) : Except ReadError Json :=
  match Yaml.read? t with
  | none => .error .malformed
  | some v => v.toJson.mapError .unconvertible

def read (t : Text) : Except ReadError Json :=
  match (if looksLikeJson t then Json.read? t else none) with
  | some v => .ok v
  | none => readYaml t

end ApiTypes.Document
