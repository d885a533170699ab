import Mathlib.Data.List.Basic
import ApiTypes.Api.OfJson
import ApiTypes.Generate
import ApiTypes.Proofs.Ordered
/-!
The two layouts of descriptions agree. A description in the classic layout, with the body among the parameters and types
beside the names of parameters, is translated into the modern one, and both are read as the same API, but for the raw
values of the parameters.
-/
namespace ApiTypes

/-! ### From the classic layout to the modern one -/

namespace Json

def mapFields (f : Fields → Fields) : Json → Json
  | obj fields => obj (f fields)
  | v => v

def mapItems (f : List Json → List Json) : Json → Json
  | arr items => arr (f items)
  | v => v

def mapUnder (f : Text → Json → Json) (fields : Fields) : Fields := fields.map fun e => (e.1, f e.1 e.2)

def itemsAt (fields : Fields) (key : Text) : List Json := ((Ordered.get? key fields).bind asItems?).getD []

end Json

namespace Modern

def parameterKeys : List Text :=
  ["name".toList, "in".toList, "required".toList, "description".toList, "title".toList]

def typeFields (fields : Json.Fields) : Json.Fields := fields.filter (!parameterKeys.contains ·.1)

def parameterFields (fields : Json.Fields) : Json.Fields :=
  fields.filter (parameterKeys.contains ·.1) ++ [("schema".toList, .obj (typeFields fields))]

def parameter : Json → Json := Json.mapFields parameterFields

def isBody (v : Json) : Bool := (v.get? "in".toList).bind Json.asText? == some "body".toList

def content (schema : Option Json) : Json :=
  .obj [("application/json".toList, .obj (schema.toList.map fun s => ("schema".toList, s)))]

def bodyKeys : List Text := ["required".toList, "description".toList]

def bodyFields (fields : Json.Fields) : Json.Fields :=
  fields.filter (bodyKeys.contains ·.1) ++ [("content".toList, content (Ordered.get? "schema".toList fields))]

def requestBody : Json → Json := Json.mapFields bodyFields

def response : Json → Json :=
  Json.mapFields fun fields =>
    match Ordered.get? "schema".toList fields with
    | some schema => fields.filter (·.1 != "schema".toList) ++ [("content".toList, content (some schema))]
    | none => fields

def parameters : Json → Json := Json.mapItems fun items => (items.filter (!isBody ·)).map parameter

def operationValue (key : Text) : Json → Json :=
  if key = "parameters".toList then parameters
  else if key = "responses".toList then Json.mapFields (Json.mapUnder fun _ => response)
  else id

def operation (fields : Json.Fields) : Json.Fields :=
  Json.mapUnder operationValue fields ++
    (((Json.itemsAt fields "parameters".toList).find? isBody).toList.map fun v => ("requestBody".toList, requestBody v))

def itemValue (key : Text) : Json → Json :=
  if key = "parameters".toList then parameters
  else if (Verb.ofKey? key).isSome then Json.mapFields operation
  else id

def rootValue (key : Text) : Json → Json :=
  if key = "paths".toList then Json.mapFields (Json.mapUnder fun _ => Json.mapFields (Json.mapUnder itemValue)) else id

def documentFields (fields : Json.Fields) : Json.Fields :=
  Json.mapUnder rootValue (fields.filter (·.1 != "definitions".toList)) ++
    ((Ordered.get? "definitions".toList fields).toList.map fun v => ("components".toList, .obj [("schemas".toList, v)]))

def document : Json → Json := Json.mapFields documentFields

end Modern

/-! ### Descriptions in the classic layout -/

namespace Classic

open Modern (isBody)

/-- No body, and with its type beside its name. An object would take over whether the parameter is required. -/
def isPlain (v : Json) : Bool :=
  !isBody v && (v.get? "schema".toList).isNone && !(Schema.ofJson v).isObject

def isNamedBody (v : Json) : Bool := isBody v && (v.get? "name".toList).bind Json.asText? == some "body".toList

def ofOperation (fields : Json.Fields) : Bool :=
  let items := Json.itemsAt fields "parameters".toList
  let responses := ((Ordered.get? "responses".toList fields).bind Json.asFields?).getD []
  (Ordered.get? "requestBody".toList fields).isNone && items.dropLast.all isPlain &&
    items.getLast?.all (fun v => isPlain v || isNamedBody v) &&
    responses.all fun r => (r.2.get? "content".toList).isNone

def ofItem (fields : Json.Fields) : Bool :=
  (Json.itemsAt fields "parameters".toList).all isPlain &&
    fields.all fun e => (Verb.ofKey? e.1).isNone || e.2.asFields?.all ofOperation

def isClassic (doc : Json) : Bool :=
  let routes := ((doc.get? "paths".toList).bind Json.asFields?).getD []
  (doc.get? "components".toList).isNone && routes.all fun e => e.2.asFields?.all ofItem

end Classic

/-! ### What is compared -/

def Parameter.withoutRaw (p : Parameter) : Parameter := { p with raw := .null }

def Operation.withoutRaw (op : Operation) : Operation := { op with parameters := op.parameters.map (·.withoutRaw) }

def Api.routeWithoutRaw (route : Text × List (Verb × Operation)) : Text × List (Verb × Operation) :=
  (route.1, route.2.map fun e => (e.1, e.2.withoutRaw))

def Api.withoutRaw (api : Api) : Api := { api with paths := api.paths.map routeWithoutRaw }

/-! ### Parameters -/

namespace Schema

theorem items_in_filter (keep : Text → Bool) (kept : keep "items".toList = true) (fields : Json.Fields) :
    itemsIn (fields.filter fun e => keep e.1) = itemsIn fields := by
  rw [items_in_eq, items_in_eq, Ordered.get_filter, kept, if_pos rfl]

open Modern (typeFields parameterKeys)

theorem get_type_field {key : Text} (kept : parameterKeys.contains key = false) (fields : Json.Fields) :
    Ordered.get? key (typeFields fields) = Ordered.get? key fields := by
  rw [typeFields, Ordered.get_filter key (!parameterKeys.contains ·), kept, Bool.not_false, if_pos rfl]

theorem type_fields_notes (fields : Json.Fields) : notesOf (typeFields fields) = Notes.none := by
  have gone : ∀ key, parameterKeys.contains key = true → Ordered.get? key (typeFields fields) = none := by
    intro key own
    rw [typeFields, Ordered.get_filter key (!parameterKeys.contains ·), own, Bool.not_true, if_neg Bool.false_ne_true]
  rw [notesOf, Json.textAt?, gone _ (by decide), Json.textAt?, gone _ (by decide)]
  rfl

theorem type_fields_shape (fields : Json.Fields) : shape? (typeFields fields) = shape? fields := by
  have tag : typeTag? (typeFields fields) = typeTag? fields := by
    unfold typeTag?
    rw [get_type_field (by decide)]
  unfold shape?
  rw [tag, get_type_field (by decide), get_type_field (by decide), get_type_field (by decide)]

theorem of_type_fields {fields : Json.Fields} (plain : (ofJson (.obj fields)).isObject = false) :
    ofJson (.obj (typeFields fields)) = (ofJson (.obj fields)).withNotes Notes.none := by
  have items : itemsIn (typeFields fields) = itemsIn fields :=
    items_in_filter (!parameterKeys.contains ·) (by decide) fields
  have pointer : Json.textAt? (typeFields fields) "$ref".toList = Json.textAt? fields "$ref".toList := by
    rw [Json.textAt?, get_type_field (by decide), Json.textAt?]
  have values : Ordered.get? "enum".toList (typeFields fields) = Ordered.get? "enum".toList fields :=
    get_type_field (by decide) fields
  rw [ofJson] at plain
  rw [ofJson, ofJson]
  unfold ofParts at plain ⊢
  rw [type_fields_notes, pointer, type_fields_shape, values, items]
  revert plain
  cases Json.textAt? fields "$ref".toList with
  | some pointer => exact fun _ => rfl
  | none =>
    dsimp only
    cases ((Ordered.get? "enum".toList fields).bind Json.asItems?).bind fun values =>
      (literalKind? (shape? fields) values).map (·, values) with
    | some literal => exact fun _ => rfl
    | none =>
      cases shape? fields with
      | none => exact fun _ => rfl
      | some shape =>
        cases shape with
        | object => exact fun plain => absurd plain (by simp [isObject])
        | array => cases itemsIn fields <;> exact fun _ => rfl
        | primitive kind => exact fun _ => rfl
        | unknown tag => exact fun _ => rfl

end Schema

namespace Modern

theorem location_name {name : Text} {l : Location} (known : Location.ofName? name = some l) : name = l.name := by
  have same := List.find?_some known
  exact (beq_iff_eq.mp same).symm

theorem body_of_location {fields : Json.Fields}
    (located : (Json.textAt? fields "in".toList).bind Location.ofName? = some .body) : isBody (.obj fields) = true := by
  obtain ⟨name, found, known⟩ := Option.bind_eq_some_iff.mp located
  rw [location_name known] at found
  exact beq_iff_eq.mpr found

theorem get_parameter_key {key : Text} (own : parameterKeys.contains key = true) (fields : Json.Fields) :
    Ordered.get? key (parameterFields fields) = Ordered.get? key fields := by
  have other : key ≠ "schema".toList := by
    rintro rfl
    exact absurd own (by decide)
  rw [parameterFields, Ordered.get_append_other other, Ordered.get_filter key (parameterKeys.contains ·), if_pos own]

theorem get_parameter_schema (fields : Json.Fields) :
    Ordered.get? "schema".toList (parameterFields fields) = some (.obj (typeFields fields)) := by
  rw [parameterFields, Ordered.get_append, Ordered.get_filter _ (parameterKeys.contains ·), if_neg (by decide)]
  rfl

theorem plain_parameter_schema {fields : Json.Fields} {location : Location} (plain : Classic.isPlain (.obj fields) = true)
    (located : (Json.textAt? fields "in".toList).bind Location.ofName? = some location) :
    Api.parameterSchema location (.obj (parameterFields fields)) = Api.parameterSchema location (.obj fields) := by
  simp only [Classic.isPlain, Bool.and_eq_true, Bool.not_eq_true', Option.isNone_iff_eq_none] at plain
  obtain ⟨⟨notBody, inline⟩, notObject⟩ := plain
  have other : ¬ (location == .body) = true := by
    intro body
    rw [beq_iff_eq.mp body] at located
    rw [body_of_location located] at notBody
    exact absurd notBody (by decide)
  have nested : (Json.obj (parameterFields fields)).get? "schema".toList = _ := get_parameter_schema fields
  rw [Api.parameterSchema, Api.parameterSchema, nested, inline]
  simp only [if_neg other]
  exact Schema.of_type_fields notObject

theorem parameter_of_fields (fields : Json.Fields) :
    Api.parameter? (.obj fields) =
      (Json.textAt? fields "name".toList).bind fun name =>
        ((Json.textAt? fields "in".toList).bind Location.ofName?).bind fun location =>
          some ⟨name, location, Api.flagAt fields "required".toList, Json.textAt? fields "description".toList,
            Api.parameterSchema location (.obj fields), .obj fields⟩ := rfl

theorem parameter_translates {v : Json} (plain : Classic.isPlain v = true) :
    (Api.parameter? (parameter v)).map Parameter.withoutRaw = (Api.parameter? v).map Parameter.withoutRaw := by
  cases v with
  | obj fields =>
    have text : ∀ key, parameterKeys.contains key = true →
        Json.textAt? (parameterFields fields) key = Json.textAt? fields key := by
      intro key own
      rw [Json.textAt?, get_parameter_key own, Json.textAt?]
    have flag : Api.flagAt (parameterFields fields) "required".toList = Api.flagAt fields "required".toList := by
      rw [Api.flagAt, get_parameter_key (by decide), Api.flagAt]
    rw [parameter, Json.mapFields, parameter_of_fields, parameter_of_fields, text "name".toList (by decide),
      text "in".toList (by decide), text "description".toList (by decide), flag]
    cases Json.textAt? fields "name".toList with
    | none => rfl
    | some name =>
      cases located : (Json.textAt? fields "in".toList).bind Location.ofName? with
      | none => rfl
      | some location =>
        have schema := plain_parameter_schema plain located
        exact congrArg (fun schema => some (Parameter.mk name location _ _ schema .null)) schema
  | _ => rfl

theorem plain_not_body {v : Json} {p : Parameter} (plain : Classic.isPlain v = true) (read : Api.parameter? v = some p) :
    p.location ≠ .body := by
  intro body
  cases v with
  | obj fields =>
    rw [parameter_of_fields] at read
    obtain ⟨name, -, rest⟩ := Option.bind_eq_some_iff.mp read
    obtain ⟨location, located, made⟩ := Option.bind_eq_some_iff.mp rest
    cases made
    dsimp only at body
    rw [body] at located
    simp [Classic.isPlain, body_of_location located] at plain
  | _ => simp [Api.parameter?, Json.asFields?] at read

theorem parameters_translate {items : List Json} (plain : ∀ v ∈ items, Classic.isPlain v = true) :
    ((items.map parameter).filterMap Api.parameter?).map Parameter.withoutRaw =
      (items.filterMap Api.parameter?).map Parameter.withoutRaw := by
  rw [List.filterMap_map, List.map_filterMap, List.map_filterMap]
  exact List.filterMap_congr fun v mem => parameter_translates (plain v mem)

/-! ### Bodies and responses -/

theorem get_map_under (f : Text → Json → Json) (fields : Json.Fields) (key : Text) :
    Ordered.get? key (Json.mapUnder f fields) = (Ordered.get? key fields).map (f key) := Ordered.get_map key f fields

theorem get_beside_content (key : Text) (keep : Text → Bool) (kept : keep key = true) (other : key ≠ "content".toList)
    (fields : Json.Fields) (schema : Option Json) :
    Ordered.get? key (fields.filter (keep ·.1) ++ [("content".toList, content schema)]) = Ordered.get? key fields := by
  rw [Ordered.get_append_other other, Ordered.get_filter key keep, if_pos kept]

theorem media_schema_translates (keep : Text → Bool) {fields : Json.Fields}
    (free : Ordered.get? "content".toList (fields.filter (keep ·.1)) = none) (schema : Option Json) :
    Api.mediaSchema? (fields.filter (keep ·.1) ++ [("content".toList, content schema)]) = schema := by
  rw [Api.mediaSchema?, Ordered.get_append, free]
  cases schema <;> rfl

theorem response_translates {v : Json} (plain : (v.get? "content".toList).isNone = true) :
    Api.response (response v) = Api.response v := by
  cases v with
  | obj fields =>
    simp only [response, Json.mapFields]
    cases found : Ordered.get? "schema".toList fields with
    | none => rfl
    | some schema =>
      have free : Ordered.get? "content".toList (fields.filter (·.1 != "schema".toList)) = none := by
        rw [Ordered.get_filter _ (· != "schema".toList), if_pos (by decide)]
        exact Option.isNone_iff_eq_none.mp plain
      have gone : Ordered.get? "schema".toList
          (fields.filter (·.1 != "schema".toList) ++ [("content".toList, content (some schema))]) = none := by
        rw [Ordered.get_append_other (by decide), Ordered.get_filter _ (· != "schema".toList), if_neg (by decide)]
      have description := get_beside_content "description".toList (· != "schema".toList) (by decide) (by decide) fields
        (some schema)
      have media := media_schema_translates (· != "schema".toList) free (some schema)
      simp only [Api.response, Json.asFields?, Option.getD_some, Json.textAt?, description, gone, media, found,
        Option.none_or, Option.some_or]
  | _ => rfl

theorem body_fields_read (fields : Json.Fields) :
    (Api.bodyParameter (bodyFields fields)).withoutRaw =
      ⟨"body".toList, .body, Api.flagAt fields "required".toList, Json.textAt? fields "description".toList,
        Api.parameterSchema .body (.obj fields), .null⟩ := by
  have beside := fun key kept other =>
    get_beside_content key (bodyKeys.contains ·) kept other fields (Ordered.get? "schema".toList fields)
  have required : Api.flagAt (bodyFields fields) "required".toList = Api.flagAt fields "required".toList := by
    rw [Api.flagAt, bodyFields, beside _ (by decide) (by decide), Api.flagAt]
  have description : Json.textAt? (bodyFields fields) "description".toList = Json.textAt? fields "description".toList := by
    rw [Json.textAt?, bodyFields, beside _ (by decide) (by decide), Json.textAt?]
  have media : Api.mediaSchema? (bodyFields fields) = Ordered.get? "schema".toList fields := by
    refine media_schema_translates (bodyKeys.contains ·) ?_ _
    rw [Ordered.get_filter _ (bodyKeys.contains ·), if_neg (by decide)]
  -- A body that gives no schema may be anything, in either layout.
  have schema : ((Ordered.get? "schema".toList fields).map Schema.ofJson).getD (.any Notes.none) =
      Api.parameterSchema .body (.obj fields) := by
    rw [Api.parameterSchema, Json.get?]
    cases Ordered.get? "schema".toList fields <;> rfl
  simp only [Api.bodyParameter, Parameter.withoutRaw, required, description, media, schema]

/-- A body among the parameters is read as the body on its own. -/
theorem body_translates {v : Json} (body : Classic.isNamedBody v = true) :
    ∃ fields p, requestBody v = .obj fields ∧ Api.parameter? v = some p ∧ p.location = .body ∧
      (Api.bodyParameter fields).withoutRaw = p.withoutRaw := by
  simp only [Classic.isNamedBody, isBody, Bool.and_eq_true, beq_iff_eq] at body
  cases v with
  | obj fields =>
    have located : Json.textAt? fields "in".toList = some "body".toList := body.1
    have named : Json.textAt? fields "name".toList = some "body".toList := body.2
    have read := parameter_of_fields fields
    rw [located, named] at read
    exact ⟨bodyFields fields, _, rfl, read, rfl, body_fields_read fields⟩
  | _ => simp [Json.get?] at body

/-! ### Operations -/

/- A value that may be there is put at the end, under a key of its own. -/
theorem get_moved {key place : Text} (other : key ≠ place) (fields : Json.Fields) (v : Option Json) (f : Json → Json) :
    Ordered.get? key (fields ++ v.toList.map fun v => (place, f v)) = Ordered.get? key fields := by
  cases v with
  | none => rw [Option.toList_none, List.map_nil, List.append_nil]
  | some v => exact Ordered.get_append_other other fields (f v)

theorem get_moved_at (place : Text) (fields : Json.Fields) (v : Option Json) (f : Json → Json) :
    Ordered.get? place (fields ++ v.toList.map fun v => (place, f v)) = (Ordered.get? place fields).or (v.map f) := by
  rw [Ordered.get_append]
  cases v with
  | none => rfl
  | some v => rw [Option.toList_some, List.map_singleton, Ordered.get?, beq_self_eq_true, if_pos rfl, Option.map_some]

theorem get_operation {key : Text} (other : key ≠ "requestBody".toList) (fields : Json.Fields) :
    Ordered.get? key (operation fields) = (Ordered.get? key fields).map (operationValue key) := by
  rw [operation, get_moved other, get_map_under]

theorem operation_text {key : Text} (plain : operationValue key = id) (other : key ≠ "requestBody".toList)
    (fields : Json.Fields) : Json.textAt? (operation fields) key = Json.textAt? fields key := by
  rw [Json.textAt?, get_operation other, plain, Option.map_id, id, Json.textAt?]

theorem parameters_of_items (fields : Json.Fields) :
    Api.parametersOf fields = (Json.itemsAt fields "parameters".toList).filterMap Api.parameter? := by
  unfold Api.parametersOf Json.itemsAt
  cases (Ordered.get? "parameters".toList fields).bind Json.asItems? <;> rfl

theorem items_translate {fields translated : Json.Fields}
    (found : Ordered.get? "parameters".toList translated = (Ordered.get? "parameters".toList fields).map parameters) :
    Json.itemsAt translated "parameters".toList =
      ((Json.itemsAt fields "parameters".toList).filter (!isBody ·)).map parameter := by
  rw [Json.itemsAt, Json.itemsAt, found]
  cases Ordered.get? "parameters".toList fields with
  | none => rfl
  | some v => cases v <;> rfl

theorem plain_items {items : List Json} (plain : ∀ v ∈ items, Classic.isPlain v = true) :
    items.filter (!isBody ·) = items ∧ items.find? isBody = none := by
  have none : ∀ v ∈ items, isBody v = false := by
    intro v mem
    have own := plain v mem
    simp only [Classic.isPlain, Bool.and_eq_true, Bool.not_eq_true'] at own
    exact own.1.1
  constructor
  · exact List.filter_eq_self.mpr fun v mem => by simp [none v mem]
  · exact List.find?_eq_none.mpr fun v mem => by simp [none v mem]

theorem own_items {fields : Json.Fields} (classic : Classic.ofOperation fields = true) :
    (∀ v ∈ Json.itemsAt fields "parameters".toList, Classic.isPlain v = true) ∨
      ∃ others body, Json.itemsAt fields "parameters".toList = others ++ [body] ∧
        (∀ v ∈ others, Classic.isPlain v = true) ∧ Classic.isNamedBody body = true := by
  simp only [Classic.ofOperation, Bool.and_eq_true] at classic
  obtain ⟨⟨⟨-, before⟩, last⟩, -⟩ := classic
  rcases List.eq_nil_or_concat (Json.itemsAt fields "parameters".toList) with empty | ⟨others, v, shape⟩
  · rw [empty]
    exact Or.inl (by simp)
  · rw [List.concat_eq_append] at shape
    rw [shape, List.dropLast_concat, List.all_eq_true] at before
    rw [shape, List.getLast?_concat, Option.all_some, Bool.or_eq_true] at last
    rcases last with plain | body
    · refine Or.inl fun u mem => ?_
      rw [shape] at mem
      rcases List.mem_append.mp mem with early | late
      · exact before u early
      · rwa [List.mem_singleton.mp late]
    · exact Or.inr ⟨others, v, shape, before, body⟩

theorem inherit_without_raw (common own : List Parameter) :
    (Api.inherit common own).map Parameter.withoutRaw =
      Api.inherit (common.map Parameter.withoutRaw) (own.map Parameter.withoutRaw) := by
  have place : ∀ p q : Parameter, Api.inSamePlace p.withoutRaw q.withoutRaw = Api.inSamePlace p q := fun _ _ => rfl
  simp [Api.inherit, List.filter_map, List.any_map, Function.comp_def, place]

theorem inherit_body {common : List Parameter} (own : List Parameter) {b : Parameter}
    (elsewhere : ∀ c ∈ common, c.location ≠ .body) (body : b.location = .body) :
    Api.inherit common (own ++ [b]) = Api.inherit common own ++ [b] := by
  have kept : common.filter (fun c => !(own ++ [b]).any (Api.inSamePlace · c)) =
      common.filter (fun c => !own.any (Api.inSamePlace · c)) := by
    refine List.filter_congr fun c mem => ?_
    have apart : Api.inSamePlace b c = false := by
      simp [Api.inSamePlace, body, Ne.symm (elsewhere c mem)]
    simp [apart]
  rw [Api.inherit, kept, Api.inherit, List.append_assoc]

theorem inherit_translates {items : List Json} {common translated : List Parameter}
    (same : translated.map Parameter.withoutRaw = common.map Parameter.withoutRaw)
    (plain : ∀ v ∈ items, Classic.isPlain v = true) :
    (Api.inherit translated ((items.map parameter).filterMap Api.parameter?)).map Parameter.withoutRaw =
      (Api.inherit common (items.filterMap Api.parameter?)).map Parameter.withoutRaw := by
  rw [inherit_without_raw, inherit_without_raw, same, parameters_translate plain]

theorem get_request_body {fields : Json.Fields} (free : Ordered.get? "requestBody".toList fields = none) :
    Ordered.get? "requestBody".toList (operation fields) =
      ((Json.itemsAt fields "parameters".toList).find? isBody).map requestBody := by
  rw [operation, get_moved_at, get_map_under, free, Option.map_none, Option.none_or]

theorem operation_parameters_translate {fields : Json.Fields} {common translated : List Parameter}
    (classic : Classic.ofOperation fields = true)
    (same : translated.map Parameter.withoutRaw = common.map Parameter.withoutRaw)
    (elsewhere : ∀ c ∈ common, c.location ≠ .body) :
    (Api.inherit translated (Api.parametersOf (operation fields)) ++ Api.bodyParameters (operation fields)).map
        Parameter.withoutRaw =
      (Api.inherit common (Api.parametersOf fields) ++ Api.bodyParameters fields).map Parameter.withoutRaw := by
  have free : Ordered.get? "requestBody".toList fields = none := by
    simp only [Classic.ofOperation, Bool.and_eq_true, Option.isNone_iff_eq_none] at classic
    exact classic.1.1.1
  have alone : Api.bodyParameters fields = [] := by rw [Api.bodyParameters, free]; rfl
  have items := items_translate (get_operation (by decide) fields)
  rw [alone, List.append_nil, parameters_of_items, items, parameters_of_items, Api.bodyParameters,
    get_request_body free]
  rcases own_items classic with plain | ⟨others, body, shape, plain, named⟩
  · obtain ⟨all, noBody⟩ := plain_items plain
    rw [all, noBody, List.map_append, inherit_translates same plain]
    exact List.append_nil _
  · obtain ⟨all, noBody⟩ := plain_items plain
    obtain ⟨moved, b, made, read, location, agree⟩ := body_translates named
    have last : isBody body = true := by
      rw [Classic.isNamedBody, Bool.and_eq_true] at named
      exact named.1
    have left : (others ++ [body]).filter (!isBody ·) = others := by simp [all, last]
    have found : (others ++ [body]).find? isBody = some body := by simp [noBody, last]
    have listed : (others ++ [body]).filterMap Api.parameter? = others.filterMap Api.parameter? ++ [b] := by simp [read]
    rw [shape, left, found, listed, inherit_body _ elsewhere location, List.map_append, List.map_append,
      inherit_translates same plain, Option.map_some, made]
    exact congrArg (_ ++ [·]) agree

theorem responses_translate {fields : Json.Fields} (classic : Classic.ofOperation fields = true) :
    Api.responsesOf (operation fields) = Api.responsesOf fields := by
  simp only [Classic.ofOperation, Bool.and_eq_true, List.all_eq_true] at classic
  have plain := classic.2
  have value : operationValue "responses".toList = Json.mapFields (Json.mapUnder fun _ => response) := rfl
  rw [Api.responsesOf, get_operation (by decide), value, Api.responsesOf]
  cases found : Ordered.get? "responses".toList fields with
  | none => rfl
  | some v =>
    cases v with
    | obj responses =>
      rw [found] at plain
      simp only [Option.map_some, Json.mapFields, Option.bind_some, Json.asFields?, Json.mapUnder, List.map_map]
      exact List.map_congr_left fun r mem => congrArg (r.1, ·) (response_translates (plain r mem))
    | _ => rfl

theorem operation_translates {fields : Json.Fields} {common translated : List Parameter}
    (classic : Classic.ofOperation fields = true)
    (same : translated.map Parameter.withoutRaw = common.map Parameter.withoutRaw)
    (elsewhere : ∀ c ∈ common, c.location ≠ .body) (route : Text) (verb : Verb) :
    (Api.operation translated route verb (operation fields)).withoutRaw =
      (Api.operation common route verb fields).withoutRaw := by
  have parameters := operation_parameters_translate classic same elsewhere
  have responses := responses_translate classic
  simp only [Api.operation, Operation.withoutRaw, parameters, responses]
  rw [operation_text rfl (by decide), operation_text rfl (by decide), operation_text rfl (by decide)]

/-! ### Routes -/

theorem bind_translates {ε α β γ δ : Type} {x y : Except ε α} {f : α → γ} (same : x.map f = y.map f)
    {next after : α → Except ε β} {g : β → δ} (agree : ∀ a b, f a = f b → (next a).map g = (after b).map g) :
    (x >>= next).map g = (y >>= after).map g := by
  cases x with
  | error e =>
    cases y with
    | error e' =>
      cases same
      rfl
    | ok b => cases same
  | ok a =>
    cases y with
    | error e => cases same
    | ok b => exact agree a b (Except.ok.inj same)

/- Both layouts have the same keys, so a key that is no verb is passed over in both, and a value that is no object
is refused in both. -/
theorem operations_translate {fields : Json.Fields} {common translated : List Parameter}
    (classic : ∀ e ∈ fields, ((Verb.ofKey? e.1).isNone || e.2.asFields?.all Classic.ofOperation) = true)
    (same : translated.map Parameter.withoutRaw = common.map Parameter.withoutRaw)
    (elsewhere : ∀ c ∈ common, c.location ≠ .body) (route : Text) (read moved : List (Verb × Operation))
    (agree : moved.map (fun e => (e.1, e.2.withoutRaw)) = read.map fun e => (e.1, e.2.withoutRaw)) :
    (Api.operationsFrom translated route moved (Json.mapUnder itemValue fields)).map
        (List.map fun e => (e.1, e.2.withoutRaw)) =
      (Api.operationsFrom common route read fields).map (List.map fun e => (e.1, e.2.withoutRaw)) := by
  induction fields generalizing read moved with
  | nil => exact congrArg Except.ok agree
  | cons e fields ih =>
    obtain ⟨key, v⟩ := e
    have later := fun read moved => ih (fun e mem => classic e (List.mem_cons_of_mem _ mem)) read moved
    have own := classic (key, v) (by simp)
    simp only [Json.mapUnder, List.map_cons, Api.operationsFrom] at later ⊢
    cases known : Verb.ofKey? key with
    | none => exact later read moved agree
    | some verb =>
      have other : key ≠ "parameters".toList := by
        rintro rfl
        have unknown : Verb.ofKey? "parameters".toList = none := by decide
        rw [unknown] at known
        cases known
      have value : itemValue key = Json.mapFields operation := by
        rw [itemValue, if_neg other, known, Option.isSome_some, if_pos rfl]
      rw [value]
      cases v with
      | obj inner =>
        have whole : Classic.ofOperation inner = true := by simpa [known, Json.asFields?] using own
        refine later _ _ ?_
        have put := Ordered.put_map (f := id) (fun _ _ equal => equal) Operation.withoutRaw verb
        simp only [id] at put
        rw [put, put, agree, operation_translates whole same elsewhere]
      | _ => rfl

theorem route_translates {v : Json} (classic : v.asFields?.all Classic.ofItem = true) (route : Text) :
    (Api.routeOf route (v.mapFields (Json.mapUnder itemValue))).map Api.routeWithoutRaw =
      (Api.routeOf route v).map Api.routeWithoutRaw := by
  cases v with
  | obj fields =>
    simp only [Json.asFields?, Option.all_some, Classic.ofItem, Bool.and_eq_true, List.all_eq_true] at classic
    obtain ⟨plain, operations⟩ := classic
    have common : (Api.parametersOf (Json.mapUnder itemValue fields)).map Parameter.withoutRaw =
        (Api.parametersOf fields).map Parameter.withoutRaw := by
      rw [parameters_of_items, parameters_of_items, items_translate (get_map_under itemValue fields _),
        (plain_items plain).1, parameters_translate plain]
    have elsewhere : ∀ c ∈ Api.parametersOf fields, c.location ≠ .body := by
      intro c mem
      rw [parameters_of_items] at mem
      obtain ⟨item, listed, read⟩ := List.mem_filterMap.mp mem
      exact plain_not_body (plain item listed) read
    have all := operations_translate operations common elsewhere route [] [] rfl
    refine bind_translates all fun ops moved agree => ?_
    exact congrArg (fun ops => Except.ok (route, ops)) agree
  | _ => rfl

theorem routes_translate {routes : Json.Fields} (classic : ∀ e ∈ routes, e.2.asFields?.all Classic.ofItem = true) :
    (Api.routesOf (Json.mapUnder (fun _ => Json.mapFields (Json.mapUnder itemValue)) routes)).map
        (List.map Api.routeWithoutRaw) =
      (Api.routesOf routes).map (List.map Api.routeWithoutRaw) := by
  induction routes with
  | nil => rfl
  | cons e routes ih =>
    obtain ⟨route, v⟩ := e
    have first := route_translates (classic (route, v) (by simp)) route
    have later := ih fun e mem => classic e (List.mem_cons_of_mem _ mem)
    refine bind_translates first fun r s same => bind_translates later fun rs ss alike => ?_
    exact congrArg Except.ok (congrArg₂ List.cons same alike)

/-! ### Descriptions -/

theorem get_document {key : Text} (kept : key ≠ "definitions".toList) (other : key ≠ "components".toList)
    (fields : Json.Fields) : Ordered.get? key (documentFields fields) = (Ordered.get? key fields).map (rootValue key) := by
  rw [documentFields, get_moved other, get_map_under, Ordered.get_filter key (· != "definitions".toList),
    if_pos (bne_iff_ne.mpr kept)]

theorem definitions_translate {doc : Json} (free : doc.get? "components".toList = none) :
    Api.definitionsOf (document doc) = Api.definitionsOf doc := by
  cases doc with
  | obj fields =>
    have moved : (document (.obj fields)).get? "definitions".toList = none := by
      rw [document, Json.mapFields, Json.get?, documentFields, get_moved (by decide), get_map_under,
        Ordered.get_filter _ (· != "definitions".toList), if_neg (by decide), Option.map_none]
    have gained : (document (.obj fields)).get? "components".toList =
        ((Json.obj fields).get? "definitions".toList).map fun v => .obj [("schemas".toList, v)] := by
      rw [Json.get?] at free
      rw [document, Json.mapFields, Json.get?, documentFields, get_moved_at, get_map_under,
        Ordered.get_filter _ (· != "definitions".toList), if_pos (by decide), free, Option.map_none, Option.none_or,
        Json.get?]
    rw [Api.definitionsOf, moved, gained, Api.definitionsOf, free]
    cases (Json.obj fields).get? "definitions".toList with
    | none => rfl
    | some v =>
      have found : (Json.obj [("schemas".toList, v)]).get? "schemas".toList = some v := rfl
      simp only [Option.bind_none, Option.getD_none, List.nil_append, Option.map_some, Option.bind_some, found,
        List.append_nil]
  | _ => rfl

theorem document_translates {doc : Json} (classic : Classic.isClassic doc = true) :
    (Api.ofJson (document doc)).map Api.withoutRaw = (Api.ofJson doc).map Api.withoutRaw := by
  simp only [Classic.isClassic, Bool.and_eq_true, Option.isNone_iff_eq_none, List.all_eq_true] at classic
  obtain ⟨free, routes⟩ := classic
  have definitions := definitions_translate free
  cases doc with
  | obj fields =>
    have paths : (document (.obj fields)).get? "paths".toList =
        ((Json.obj fields).get? "paths".toList).map (rootValue "paths".toList) :=
      get_document (by decide) (by decide) fields
    rw [Api.ofJson, Api.ofJson, paths, definitions]
    cases found : (Json.obj fields).get? "paths".toList with
    | none => rfl
    | some v =>
      rw [found] at routes
      cases v with
      | obj inner =>
        refine bind_translates (routes_translate routes) fun moved read agree => ?_
        exact congrArg (fun paths => Except.ok (Api.mk _ paths)) agree
      | _ => rfl
  | _ => rfl

end Modern

/-! ### Generation -/

namespace Operation

theorem parameter_members_without_raw (ps : List Parameter) (name : Text) (table : Declaration.Table) :
    parameterMembers (ps.map Parameter.withoutRaw) name table = parameterMembers ps name table := by
  induction ps generalizing table with
  | nil => rfl
  | cons p ps ih => simp [parameterMembers, ih, Parameter.withoutRaw]

theorem lone_body_without_raw (ps : List Parameter) : loneBody? (ps.map Parameter.withoutRaw) = loneBody? ps := by
  match ps with
  | [] => rfl
  | [_] => rfl
  | _ :: _ :: _ => rfl

theorem params_without_raw (op : Operation) (name : Text) : op.withoutRaw.paramsText name = op.paramsText name := by
  have members : op.withoutRaw.members name = op.members name := by
    unfold Operation.members
    rw [Operation.withoutRaw, lone_body_without_raw, parameter_members_without_raw]
  rw [paramsText, members, paramsText]
  rfl

theorem form_without_raw (map : Form.WidgetMap) (ps : List Parameter) :
    Form.ofParameters map (ps.map Parameter.withoutRaw) = Form.ofParameters map ps := by
  rw [Form.ofParameters, List.map_map]
  rfl

/-- Nothing but the raw schemas shows the raw values of the parameters. -/
theorem artifact_without_raw {config : Config} (off : config.includeRawSchema = false) (formatter : Formatter)
    (op : Operation) : op.withoutRaw.artifact config formatter = op.artifact config formatter := by
  have params : op.withoutRaw.params? config formatter = op.params? config formatter := by
    unfold params?
    simp only [params_without_raw, off]
    simp [Operation.withoutRaw, declarationName]
  have form : (config.widgets.map fun map => Form.ofParameters map op.withoutRaw.parameters) =
      config.widgets.map fun map => Form.ofParameters map op.parameters := by
    cases config.widgets with
    | none => rfl
    | some map => exact congrArg some (form_without_raw map op.parameters)
  unfold artifact
  rw [params, form]
  rfl

end Operation

theorem Api.paths_without_raw {config : Config} (off : config.includeRawSchema = false) (formatter : Formatter)
    (api : Api) : generatePaths config formatter api.withoutRaw = generatePaths config formatter api := by
  have same : api.withoutRaw.artifacts config formatter = api.artifacts config formatter := by
    unfold artifacts
    rw [withoutRaw, List.map_map]
    refine List.map_congr_left fun route _ => ?_
    simp only [Function.comp_apply, routeWithoutRaw, List.map_map]
    refine congrArg (route.1, ·) (List.map_congr_left fun e _ => ?_)
    exact Operation.artifact_without_raw off formatter { e.2 with route := route.1, verb := e.1 }
  rw [generatePaths, same, generatePaths]

def Api.generated (config : Config) (formatter : Formatter) (api : Api) :
    Except Collision (List (Text × Text)) × Except Collision Artifacts :=
  (generateDefinitions config formatter api.definitions, generatePaths config formatter api)

theorem Api.generated_without_raw {config : Config} (off : config.includeRawSchema = false) (formatter : Formatter)
    (x : Except Error Api) : x.map (generated config formatter) = (x.map withoutRaw).map (generated config formatter) := by
  cases x with
  | error e => rfl
  | ok api =>
    have paths := paths_without_raw off formatter api
    exact congrArg (fun paths => Except.ok (generateDefinitions config formatter api.definitions, paths)) paths.symm

/-- A description and its translation are read alike, errors included, but for the raw values of parameters. So the same
is generated for both of them, unless the raw schemas are asked for. -/
theorem classic_and_modern_agree (doc : Json) (classic : Classic.isClassic doc = true) :
    (Api.ofJson (Modern.document doc)).map Api.withoutRaw = (Api.ofJson doc).map Api.withoutRaw ∧
      ∀ (config : Config) (formatter : Formatter), config.includeRawSchema = false →
        (Api.ofJson (Modern.document doc)).map (Api.generated config formatter) =
          (Api.ofJson doc).map (Api.generated config formatter) := by
  have alike := Modern.document_translates classic
  refine ⟨alike, fun config formatter off => ?_⟩
  rw [Api.generated_without_raw off, alike, ← Api.generated_without_raw off]

def crate : Json :=
  .obj [("required".toList, .arr [.str "id".toList]),
    ("properties".toList, .obj [("id".toList, .obj [("type".toList, .str "integer".toList)]),
      ("label".toList, .obj [("type".toList, .str "string".toList)])])]

/- A parameter of the route that the operation replaces, an array, a body, and a response with an array. -/
def depot : Json :=
  .obj [("definitions".toList, .obj [("Crate".toList, crate)]),
    ("paths".toList, .obj [("/crates".toList, .obj [
      ("parameters".toList, .arr [.obj [("name".toList, .str "shelf".toList), ("in".toList, .str "query".toList),
        ("type".toList, .str "integer".toList), ("description".toList, .str "Where".toList)]]),
      ("put".toList, .obj [
        ("parameters".toList, .arr [
          .obj [("name".toList, .str "shelf".toList), ("in".toList, .str "query".toList),
            ("required".toList, .bool true), ("type".toList, .str "array".toList),
            ("items".toList, .obj [("enum".toList, .arr [.str "a".toList, .str "b".toList])])],
          .obj [("name".toList, .str "body".toList), ("in".toList, .str "body".toList), ("schema".toList, crate),
            ("required".toList, .bool true)]]),
        ("responses".toList, .obj [("200".toList, .obj [
          ("schema".toList, .obj [("type".toList, .str "array".toList), ("items".toList, crate)]),
          ("description".toList, .str "All".toList)])])])])])]

def modernDepot : Json :=
  .obj [
    ("paths".toList, .obj [("/crates".toList, .obj [
      ("parameters".toList, .arr [.obj [("name".toList, .str "shelf".toList), ("in".toList, .str "query".toList),
        ("description".toList, .str "Where".toList),
        ("schema".toList, .obj [("type".toList, .str "integer".toList)])]]),
      ("put".toList, .obj [
        ("parameters".toList, .arr [
          .obj [("name".toList, .str "shelf".toList), ("in".toList, .str "query".toList),
            ("required".toList, .bool true),
            ("schema".toList, .obj [("type".toList, .str "array".toList),
              ("items".toList, .obj [("enum".toList, .arr [.str "a".toList, .str "b".toList])])])]]),
        ("responses".toList, .obj [("200".toList, .obj [
          ("description".toList, .str "All".toList),
          ("content".toList, .obj [("application/json".toList, .obj [
            ("schema".toList, .obj [("type".toList, .str "array".toList), ("items".toList, crate)])])])])]),
        ("requestBody".toList, .obj [("required".toList, .bool true),
          ("content".toList, .obj [("application/json".toList, .obj [("schema".toList, crate)])])])])])]),
    ("components".toList, .obj [("schemas".toList, .obj [("Crate".toList, crate)])])]

theorem depot_layouts_agree :
    Classic.isClassic depot = true ∧ Modern.document depot = modernDepot ∧
      (Api.ofJson modernDepot).map Api.withoutRaw = (Api.ofJson depot).map Api.withoutRaw ∧
      (Api.ofJson modernDepot).map (Api.generated Config.standard Layout.format) =
        (Api.ofJson depot).map (Api.generated Config.standard Layout.format) := by
  have classic : Classic.isClassic depot = true := by decide
  have translated : Modern.document depot = modernDepot := rfl
  have agree := classic_and_modern_agree depot classic
  rw [translated] at agree
  exact ⟨classic, translated, agree.1, agree.2 Config.standard Layout.format rfl⟩

end ApiTypes
