import ApiTypes.Api.Basic
import ApiTypes.Json.Writer
/-!
Forms: for every parameter of an operation the field of a form that asks for it, made of the widgets of some
library.
-/
namespace ApiTypes.Form

/-- Which widget of a library asks for which kind of value. -/
structure WidgetMap where
  library : Text
  elements : List (Text × Text)
  fallback : Text
deriving DecidableEq, Repr

def WidgetMap.standard : WidgetMap where
  library := "antd".toList
  elements := [
    ("number".toList, "InputNumber".toList),
    ("string".toList, "Input".toList),
    ("boolean".toList, "Switch".toList),
    ("datetime".toList, "DatePicker".toList)]
  fallback := "Input".toList

structure Rule where
  message : Text
  required : Bool
deriving DecidableEq, Repr

structure Field where
  label : Text
  rules : List Rule
  name : Text
  widget : Text
deriving DecidableEq, Repr

structure Imports where
  library : Text
  widgets : List Text
deriving DecidableEq, Repr

end Form

structure Form where
  fields : List Form.Field
  imports : Form.Imports
deriving DecidableEq, Repr

namespace Form

def widgetKey? : Schema → Option Text
  | .primitive _ kind => some kind.name
  | .enumeration _ kind _ => some kind.name
  | .object .. => some "object".toList
  | .list _ | .listOf _ _ | .tuple _ _ => some "array".toList
  | .reference _ _ | .any _ | .unknown _ _ => none

def WidgetMap.widget (map : WidgetMap) (s : Schema) : Text :=
  ((widgetKey? s).bind fun key => Ordered.get? key map.elements).getD map.fallback

def label (description : Option Text) : Text :=
  (description.getD []).filter fun c => !(c == '\t' || c == '\n' || c == '\r')

def field (map : WidgetMap) (p : Parameter) : Field :=
  let label := label p.description
  let rules := if p.required then [⟨"Please enter ".toList ++ label, true⟩] else []
  ⟨label, rules, p.name, map.widget p.schema⟩

def importsOf (library : Text) (fields : List Field) : Imports :=
  ⟨library, (fields.map (·.widget)).eraseDups⟩

def ofParameters (map : WidgetMap) (parameters : List Parameter) : Form :=
  let fields := parameters.map (field map)
  ⟨fields, importsOf map.library fields⟩

/-! ### Writing -/

def Imports.text (i : Imports) : Text :=
  "import ".toList ++ ['{', ' '] ++ Text.joinWith ", ".toList i.widgets ++ [' ', '}'] ++
    " from '".toList ++ i.library ++ ['\'']

def Rule.toJson (r : Rule) : Json := .obj [("message".toList, .str r.message), ("required".toList, .bool r.required)]

def Field.toJson (f : Field) : Json :=
  let rules := Json.arr (f.rules.map Rule.toJson)
  .obj [
    ("label".toList, .str f.label), ("rules".toList, rules), ("name".toList, .str f.name),
    ("widget".toList, .str f.widget), ("rulesRaw".toList, .str rules.pretty)]

def Imports.toJson (i : Imports) : Json :=
  .obj [("raw".toList, .str i.text), ("widgets".toList, .arr (i.widgets.map .str))]

def toJson (f : Form) : Json :=
  .obj [("fields".toList, .arr (f.fields.map Field.toJson)), ("imports".toList, f.imports.toJson)]

end Form

end ApiTypes
