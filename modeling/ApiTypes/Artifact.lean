import ApiTypes.Config
import ApiTypes.Layout
import ApiTypes.Synthesis
/-!
What is generated for one operation: a declaration of what it answers, a declaration of what it asks for, and,
if wanted, the raw schemas and a form.
-/
namespace ApiTypes

/-- A way to lay out a text with a given indentation, which may fail. -/
abbrev Formatter := (width : Nat) → Text → Except Layout.Error Text

def Formatter.orEmpty (f : Formatter) (width : Nat) (t : Text) : Text :=
  match f width t with
  | .ok laidOut => laidOut
  | .error _ => []

namespace Operation

/-! ### What an operation answers -/

def isRecordOrArray (s : Schema) : Bool := s.isObject || s.isArray

def okResponse? (op : Operation) : Option Response := Ordered.get? "200".toList op.responses

/-- The response under 200 if it is an object or an array, and else the first that is an array. -/
def selected? (op : Operation) : Option Response :=
  (op.okResponse?.filter (Response.satisfies isRecordOrArray)).or
    ((op.responses.map Prod.snd).find? (Response.satisfies Schema.isArray))

/-- A schema that says nothing of itself takes over what the response says. -/
def describe (s : Schema) (description : Option Text) : Schema :=
  match nonempty? description, s.comment? with
  | some d, none => s.withNotes ⟨some d, s.notes.title⟩
  | _, _ => s

def entityText (s : Schema) (r : Response) (name : Text) : Text :=
  (describe s r.description).declare name .entity

/-! ### What an operation asks for -/

open Declaration (Table)

def parameterMembers : List Parameter → (name : Text) → Table → List Text × Table
  | [], _, table => ([], table)
  | p :: rest, name, table =>
    let (type, table) := p.schema.hoist name table
    let (members, table) := parameterMembers rest name table
    (Record.member p.name type.text p.required p.description :: members, table)

/-- A body that is an object, if it is all that is asked for: its requirement, and its properties. -/
def loneBody? : List Parameter → Option ((Text → Bool) × Schema.Properties)
  | [p] =>
    match p.isBody, p.schema with
    | true, .object _ properties required => some (required.isRequiredOr p.required, properties)
    | _, _ => none
  | _ => none

def members (op : Operation) (name : Text) : List Text × Table :=
  match loneBody? op.parameters with
  | some (required, properties) => Schema.hoistMembers required properties name Table.empty
  | none => parameterMembers op.parameters name Table.empty

def paramsComment? (op : Operation) : Option Text := nonempty? (op.description.or op.summary)

def paramsText (op : Operation) (name : Text) : Text :=
  let (members, table) := op.members name
  table.assemble ⟨name, .interface, Record.body members, op.paramsComment?, .params⟩

end Operation

/-- A declaration as it is written, and the values it was made from. -/
structure Declared where
  name : Text
  text : Text
  raw : Option Text
deriving DecidableEq, Repr

structure Artifact where
  route : Text
  verb : Verb
  /-- The last segment of the route. -/
  name : Text
  operationId : Option Text
  summary : Option Text
  isArrayEntity : Bool
  entity : Option Declared
  params : Option Declared
  form : Option Form

namespace Operation

def declarationName (op : Operation) (config : Config) (role : Naming.Role) : Text :=
  Naming.resolve config.namingTemplate (Naming.slug op.verb.lowerName op.route) (op.id.getD []) role

def entity? (op : Operation) (config : Config) (formatter : Formatter) : Option Declared := do
  let response ← op.selected?
  let schema ← response.schema
  let name := op.declarationName config .entity
  return ⟨name, formatter.orEmpty config.indentWidth (entityText schema response name),
    if config.includeRawSchema then response.raw.map Json.pretty else none⟩

def params? (op : Operation) (config : Config) (formatter : Formatter) : Option Declared :=
  if op.parameters.isEmpty then none
  else
    let name := op.declarationName config .params
    some ⟨name, formatter.orEmpty config.indentWidth (op.paramsText name),
      if config.includeRawSchema then some (Json.arr (op.parameters.map (·.raw))).pretty else none⟩

def artifact (op : Operation) (config : Config) (formatter : Formatter) : Artifact :=
  let entity := op.entity? config formatter
  { route := op.route
    verb := op.verb
    name := Naming.short op.route
    operationId := op.id
    summary := op.summary
    isArrayEntity := entity.isSome && (op.okResponse?.map (Response.satisfies Schema.isArray)).getD false
    entity := entity
    params := op.params? config formatter
    form := config.widgets.map fun map => Form.ofParameters map op.parameters }

end Operation

namespace Artifact

def declared (a : Artifact) : List Declared := a.entity.toList ++ a.params.toList

def names (a : Artifact) : List Text := a.declared.map (·.name)

def owner (a : Artifact) : Text := a.verb.name ++ [' '] ++ a.route

/-! ### Writing -/

def optionalText (t : Option Text) : Json := (t.map Json.str).getD .null

def verbFlags (v : Verb) : Json.Fields :=
  [("isGet".toList, Json.bool (v == .get)), ("isPut".toList, .bool (v == .put)), ("isPost".toList, .bool (v == .post)),
    ("isDelete".toList, .bool (v == .delete)), ("isOptions".toList, .bool (v == .options)),
    ("isHead".toList, .bool (v == .head)), ("isPatch".toList, .bool (v == .patch))]

def present (key : Text) (v : Option Json) : Json.Fields := (v.map fun v => (key, v)).toList

def toJson (a : Artifact) : Json :=
  .obj (
    [("route".toList, .str a.route), ("verb".toList, .str a.verb.name)] ++ verbFlags a.verb ++
    [("name".toList, .str a.name), ("operationId".toList, optionalText a.operationId),
      ("summary".toList, optionalText a.summary), ("isArrayEntity".toList, .bool a.isArrayEntity),
      ("entityName".toList, optionalText (a.entity.map (·.name))),
      ("paramsName".toList, optionalText (a.params.map (·.name))),
      ("entity".toList, .str ((a.entity.map (·.text)).getD [])),
      ("params".toList, .str ((a.params.map (·.text)).getD []))] ++
    present "rawEntitySchema".toList ((a.entity.bind (·.raw)).map .str) ++
    present "rawParamsSchema".toList ((a.params.bind (·.raw)).map .str) ++
    present "form".toList (a.form.map Form.toJson))

end Artifact

end ApiTypes
