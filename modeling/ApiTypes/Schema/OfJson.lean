import ApiTypes.Schema.Basic
/-!
Reading a schema from a tree of values. Only these keys are looked at: `$ref`, `type`, `enum`, `properties`,
`items`, `required`, `default`, `description` and `title`.
-/
namespace ApiTypes.Schema

inductive Shape where
  | object
  | array
  | primitive (kind : Primitive)
  | unknown (tag : Text)
deriving DecidableEq, Repr

/-- The type tag. Of a list of tags it is the first that is not `null`, and `null` if there is no other. -/
def typeTag? (fields : Json.Fields) : Option Text :=
  match Ordered.get? "type".toList fields with
  | some (.str tag) => some tag
  | some (.arr items) =>
    let tags := items.filterMap Json.asText?
    (tags.find? (· != "null".toList)).or tags.head?
  | _ => none

def shapeOfTag (tag : Text) : Shape :=
  if tag == "string".toList then .primitive .string
  else if tag == "integer".toList then .primitive .number
  else if tag == "number".toList then .primitive .number
  else if tag == "boolean".toList then .primitive .boolean
  else if tag == "null".toList then .primitive .null
  else if tag == "any".toList then .primitive .any
  else if tag == "object".toList then .object
  else if tag == "array".toList then .array
  else .unknown tag

def shapeOfDefault? : Option Json → Option Shape
  | some (.bool _) => some (.primitive .boolean)
  | some (.num _) => some (.primitive .number)
  | some (.str _) => some (.primitive .string)
  | _ => none

/-- The type tag decides; without one the keys that only one shape has, and at last the type of the default. -/
def shape? (fields : Json.Fields) : Option Shape :=
  match typeTag? fields with
  | some tag => some (shapeOfTag tag)
  | none =>
    if (Ordered.get? "properties".toList fields).isSome then some .object
    else if (Ordered.get? "items".toList fields).isSome then some .array
    else shapeOfDefault? (Ordered.get? "default".toList fields)

def isText : Json → Bool
  | .str _ => true
  | _ => false

def isNumber : Json → Bool
  | .num _ => true
  | _ => false

def isBoolean : Json → Bool
  | .bool _ => true
  | _ => false

def kindOfValues (values : List Json) : Primitive :=
  if values.isEmpty then .any
  else if values.all isText then .string
  else if values.all isNumber then .number
  else if values.all isBoolean then .boolean
  else .any

/-- Literal values count for primitive types and where no type is given. -/
def literalKind? (shape : Option Shape) (values : List Json) : Option Primitive :=
  match shape with
  | some (.primitive kind) => some kind
  | none => some (kindOfValues values)
  | _ => none

def requirementOf (fields : Json.Fields) : Requirement :=
  match Ordered.get? "required".toList fields with
  | some (.bool required) => .all required
  | some (.arr names) => .names (names.filterMap Json.asText?).eraseDups
  | _ => .unspecified

def notesOf (fields : Json.Fields) : Notes :=
  ⟨Json.textAt? fields "description".toList, Json.textAt? fields "title".toList⟩

inductive Items where
  | unspecified
  | one (item : Schema)
  | each (members : List Schema)

def ofItems (notes : Notes) : Items → Schema
  | .unspecified => list notes
  | .one item => listOf notes item
  | .each members => tuple notes members

def ofParts (fields : Json.Fields) (properties : Properties) (items : Items) : Schema :=
  let notes := notesOf fields
  match Json.textAt? fields "$ref".toList with
  | some pointer => reference notes pointer
  | none =>
    let shape := shape? fields
    let values? := (Ordered.get? "enum".toList fields).bind Json.asItems?
    match values?.bind fun values => (literalKind? shape values).map (·, values) with
    | some (kind, values) => enumeration notes kind values
    | none =>
      match shape with
      | some (.primitive kind) => primitive notes kind
      | some .object => object notes properties (requirementOf fields)
      | some .array => ofItems notes items
      | some (.unknown tag) => unknown notes tag
      | none => any notes

mutual

def ofJson : Json → Schema
  | .obj fields => ofParts fields (propertiesIn fields) (itemsIn fields)
  | _ => any Notes.none

def propertiesIn : Json.Fields → Properties
  | [] => []
  | (key, v) :: rest => if key == "properties".toList then propertiesOf v else propertiesIn rest

def propertiesOf : Json → Properties
  | .obj fields => eachProperty fields
  | _ => []

def eachProperty : Json.Fields → Properties
  | [] => []
  | (name, v) :: rest => (name, ofJson v) :: eachProperty rest

def itemsIn : Json.Fields → Items
  | [] => .unspecified
  | (key, v) :: rest =>
    if key == "items".toList then
      if v.isObject then .one (ofJson v) else membersOf v
    else itemsIn rest

def membersOf : Json → Items
  | .arr items => .each (eachMember items)
  | _ => .unspecified

def eachMember : List Json → List Schema
  | [] => []
  | v :: rest => ofJson v :: eachMember rest

end

/-! ### Parts by their keys -/

def itemsOf (v : Json) : Items := if v.isObject then .one (ofJson v) else membersOf v

theorem properties_in_eq (fields : Json.Fields) :
    propertiesIn fields = ((Ordered.get? "properties".toList fields).map propertiesOf).getD [] := by
  induction fields with
  | nil => rfl
  | cons field rest ih =>
    obtain ⟨key, v⟩ := field
    rw [propertiesIn, Ordered.get?]
    split
    · rfl
    · exact ih

theorem items_in_eq (fields : Json.Fields) :
    itemsIn fields = ((Ordered.get? "items".toList fields).map itemsOf).getD .unspecified := by
  induction fields with
  | nil => rfl
  | cons field rest ih =>
    obtain ⟨key, v⟩ := field
    rw [itemsIn, Ordered.get?]
    split
    · rfl
    · exact ih

theorem each_property_eq (fields : Json.Fields) : eachProperty fields = fields.map fun e => (e.1, ofJson e.2) := by
  induction fields with
  | nil => rfl
  | cons field rest ih => rw [eachProperty, ih, List.map_cons]

theorem each_member_eq (items : List Json) : eachMember items = items.map ofJson := by
  induction items with
  | nil => rfl
  | cons v rest ih => rw [eachMember, ih, List.map_cons]

end ApiTypes.Schema
