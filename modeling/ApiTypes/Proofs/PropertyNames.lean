import Mathlib.Data.List.Nodup
import ApiTypes.Proofs.CommentRule
import ApiTypes.Proofs.Keyed
import ApiTypes.Proofs.Pointers
/-!
The names of the properties in what an operation asks for. Parameters are told apart by their names and their locations, and
properties by their names alone. So a property is declared twice where two parameters in different locations share a name,
or where the body of a request meets a parameter that is called `body`, and nowhere else.
-/
namespace ApiTypes

open Remarks (ofText)

/-! ### Names in a text -/

namespace Remarks

def nameOf? (key : Text) : Option Text :=
  match Script.tokens? key with
  | some [token] => Script.key? token
  | _ => none

theorem name_of_key (name : Text) : nameOf? (Record.key name) = some name := by
  obtain ⟨token, scans, read⟩ := Script.key_scans name
  rw [nameOf?, scans.tokens]
  exact read

/-- The names of members before the first declaration, and the declarations, each with the names of its members. Members
further inside are passed over. -/
def outline : List Remark → List Text × List (Text × List Text)
  | [] => ([], [])
  | r :: rs =>
    match r.depth with
    | 0 => ([], (r.subject, (outline rs).1) :: (outline rs).2)
    | 1 => ((nameOf? r.subject).toList ++ (outline rs).1, (outline rs).2)
    | _ => outline rs

def lastDeclaration? (t : Text) : Option (Text × List Text) := (outline (ofText t)).2.getLast?

theorem outline_suffix (qs rs : List Remark) : (outline rs).2 <:+ (outline (qs ++ rs)).2 := by
  induction qs with
  | nil => exact List.suffix_rfl
  | cons q qs ih =>
    rw [List.cons_append, outline]
    split
    · exact ih.trans (List.suffix_cons _ _)
    · exact ih
    · exact ih

theorem outline_inner {qs : List Remark} (deep : ∀ q ∈ qs, 1 < q.depth) (rs : List Remark) :
    outline (qs ++ rs) = outline rs := by
  induction qs with
  | nil => rfl
  | cons q qs ih =>
    obtain ⟨first, others⟩ := List.forall_mem_cons.mp deep
    rw [List.cons_append, outline]
    split
    · omega
    · omega
    · exact ih others

theorem last_declaration {t name : Text} {above : List Remark} {comment : Option (List Text)} {members : List Remark}
    {names : List Text} (read : ofText t = above ++ ⟨0, name, comment⟩ :: members)
    (named : outline members = (names, [])) : lastDeclaration? t = some (name, names) := by
  obtain ⟨before, split⟩ := outline_suffix above (⟨0, name, comment⟩ :: members)
  rw [lastDeclaration?, read, ← split, outline, named]
  exact List.getLast?_concat

theorem member_outline {name : Text} {candidates : List (Option Text)} {inner others : List Topic} {names : List Text}
    (deep : ∀ p ∈ inner, 1 < p.depth) (later : outline (others.map Topic.remark) = (names, [])) :
    outline ((⟨1, Record.key name, candidates⟩ :: (inner ++ others) : List Topic).map Topic.remark) = (name :: names, []) := by
  have inside : ∀ q ∈ inner.map Topic.remark, 1 < q.depth := by
    intro q mem
    obtain ⟨p, listed, rfl⟩ := List.mem_map.mp mem
    exact deep p listed
  have rest := (outline_inner inside (others.map Topic.remark)).trans later
  rw [List.map_cons, List.map_append, Topic.remark, outline]
  simp [name_of_key, rest]

end Remarks

namespace Schema

mutual

theorem member_topics_inside (depth : Nat) (s : Schema) : ∀ p ∈ s.memberTopics depth, depth < p.depth := by
  match s with
  | .object _ properties _ =>
    intro p mem
    exact property_topics_inside (depth + 1) properties p mem
  | .list _ | .listOf _ _ | .tuple _ _ | .primitive _ _ | .enumeration _ _ _ | .reference _ _ | .any _ | .unknown _ _ =>
    simp [memberTopics]

theorem property_topics_inside (depth : Nat) (properties : Properties) :
    ∀ p ∈ propertyTopics depth properties, depth ≤ p.depth := by
  match properties with
  | [] => simp [propertyTopics]
  | (key, s) :: rest =>
    intro p mem
    rw [propertyTopics, List.mem_cons, List.mem_append] at mem
    rcases mem with rfl | inner | later
    · exact Nat.le_refl depth
    · exact Nat.le_of_lt (member_topics_inside depth s p inner)
    · exact property_topics_inside depth rest p later

end

theorem properties_outline (properties : Properties) :
    Remarks.outline ((propertyTopics 1 properties).map Topic.remark) = (properties.map Prod.fst, []) := by
  induction properties with
  | nil => rfl
  | cons property rest ih =>
    obtain ⟨key, s⟩ := property
    rw [propertyTopics]
    exact Remarks.member_outline (s.member_topics_inside 1) ih

def propertyNames : Schema → List Text
  | object _ properties _ => properties.map Prod.fst
  | list _ | listOf _ _ | tuple _ _ | primitive _ _ | enumeration _ _ _ | reference _ _ | any _ | unknown _ _ => []

end Schema

namespace Operation

theorem parameters_outline (ps : List Parameter) :
    Remarks.outline ((ps.flatMap fun p => ⟨1, Record.key p.name, [p.description]⟩ :: p.schema.memberTopics 1).map
      Topic.remark) = (ps.map (·.name), []) := by
  induction ps with
  | nil => rfl
  | cons p ps ih =>
    rw [List.flatMap_cons, List.cons_append]
    exact Remarks.member_outline (p.schema.member_topics_inside 1) ih

/-- The properties of what an operation asks for: those of a lone body that is an object, and else one for each parameter. -/
def propertyNames (op : Operation) : List Text :=
  match loneBody? op.parameters with
  | some (_, properties) => properties.map Prod.fst
  | none => op.parameters.map (·.name)

theorem asked_properties {op : Operation} {config : Config} {d : Declared} (made : op.params? config Layout.format = some d) :
    Remarks.lastDeclaration? d.text = some (d.name, op.propertyNames) := by
  have read := asked_remarks made
  rw [topics] at read
  rw [propertyNames]
  cases lone : loneBody? op.parameters with
  | some body =>
    simp only [lone, topicsOfText, List.map_append, List.map_cons] at read
    exact Remarks.last_declaration read (Schema.properties_outline body.2)
  | none =>
    simp only [lone, topicsOfText, List.map_append, List.map_cons] at read
    exact Remarks.last_declaration read (parameters_outline op.parameters)

theorem lone_body_eq {ps : List Parameter} {required : Text → Bool} {properties : Schema.Properties}
    (lone : loneBody? ps = some (required, properties)) :
    ∃ p, ps = [p] ∧ p.schema.propertyNames = properties.map Prod.fst := by
  unfold loneBody? at lone
  split at lone
  · rename_i p
    split at lone
    · rename_i object
      cases lone
      exact ⟨p, rfl, by rw [object, Schema.propertyNames]⟩
    · cases lone
  · cases lone

end Operation

/-! ### Distinct keys -/

namespace Schema

theorem with_notes_names (s : Schema) (notes : Notes) : (s.withNotes notes).propertyNames = s.propertyNames := by
  cases s <;> rfl

theorem of_parts_names (fields : Json.Fields) (properties : Properties) (items : Items) :
    (ofParts fields properties items).propertyNames = properties.map Prod.fst ∨
    (ofParts fields properties items).propertyNames = [] := by
  unfold ofParts
  cases Json.textAt? fields "$ref".toList with
  | some pointer => exact Or.inr rfl
  | none =>
    simp only
    split
    · exact Or.inr rfl
    · split
      · exact Or.inr rfl
      · exact Or.inl rfl
      · cases items <;> exact Or.inr rfl
      · exact Or.inr rfl
      · exact Or.inr rfl

theorem each_property_names (fields : Json.Fields) : (eachProperty fields).map Prod.fst = Ordered.keys fields := by
  rw [each_property_eq, List.map_map]
  rfl

theorem properties_in_names {fields : Json.Fields} (values : ∀ field ∈ fields, field.2.isKeyed = true) :
    ((propertiesIn fields).map Prod.fst).Nodup := by
  rw [properties_in_eq]
  cases found : Ordered.get? "properties".toList fields with
  | none => simp
  | some v =>
    have keyed := values _ (Ordered.get_mem found)
    cases v with
    | obj inner =>
      rw [Option.map_some, Option.getD_some, propertiesOf, each_property_names]
      exact Json.keyed_keys keyed
    | _ => simp [propertiesOf]

theorem of_json_names {v : Json} (keyed : v.isKeyed = true) : (ofJson v).propertyNames.Nodup := by
  cases v with
  | obj fields =>
    rw [ofJson]
    rcases of_parts_names fields (propertiesIn fields) (itemsIn fields) with own | none
    · rw [own]
      exact properties_in_names fun field mem => Json.keyed_field keyed mem
    · simp [none]
  | _ => simp [ofJson, propertyNames]

end Schema

namespace Api

theorem parameter_names {v : Json} {p : Parameter} (keyed : v.isKeyed = true) (made : parameter? v = some p) :
    p.schema.propertyNames.Nodup := by
  rcases parameter_schema_source made with ⟨schema, found, own⟩ | beside | free
  · rw [own]
    exact Schema.of_json_names (Json.keyed_get keyed found)
  · rw [beside, Schema.with_notes_names]
    exact Schema.of_json_names keyed
  · simp [free, Schema.propertyNames]

theorem parameters_names {fields : Json.Fields} {p : Parameter} (keyed : (Json.obj fields).isKeyed = true)
    (mem : p ∈ parametersOf fields) : p.schema.propertyNames.Nodup := by
  obtain ⟨items, v, there, inside, made⟩ := parameters_source mem
  have itemsKeyed : (Json.arr items).isKeyed = true := Json.keyed_field keyed (Ordered.get_mem there)
  exact parameter_names (Json.keyed_item itemsKeyed inside) made

theorem body_names {fields : Json.Fields} {p : Parameter} (keyed : (Json.obj fields).isKeyed = true)
    (mem : p ∈ bodyParameters fields) : p.schema.propertyNames.Nodup := by
  obtain ⟨body, found, ⟨schema, media, own⟩ | free⟩ := body_schema_source mem
  · obtain ⟨content, medium, inner, listed, there⟩ := media_schema_source media
    have contentKeyed : (Json.obj content).isKeyed = true := Json.keyed_inner (Json.keyed_inner keyed found) inner
    rw [own]
    exact Schema.of_json_names (Json.keyed_get (Json.keyed_field contentKeyed listed) there)
  · simp [free, Schema.propertyNames]

/-! ### Operations of a document -/

def itemAt? (doc : Json) (route : Text) : Option Json.Fields :=
  ((doc.get? "paths".toList).bind (Json.get? route)).bind Json.asFields?

def verbAt? (verb : Verb) : Json.Fields → Option Json
  | [] => none
  | (key, v) :: rest => (verbAt? verb rest).or (if Verb.ofKey? key = some verb then some v else none)

def operationAt? (item : Json.Fields) (verb : Verb) : Option Json.Fields := (verbAt? verb item).bind Json.asFields?

theorem verb_at_mem {verb : Verb} {fields : Json.Fields} {v : Json} (found : verbAt? verb fields = some v) :
    ∃ key, (key, v) ∈ fields := by
  induction fields with
  | nil => simp [verbAt?] at found
  | cons field rest ih =>
    obtain ⟨key, w⟩ := field
    rw [verbAt?, Option.or_eq_some_iff] at found
    rcases found with later | ⟨-, own⟩
    · obtain ⟨other, mem⟩ := ih later
      exact ⟨other, List.mem_cons_of_mem _ mem⟩
    · obtain ⟨-, same⟩ := Option.ite_none_right_eq_some.mp own
      cases same
      exact ⟨key, List.mem_cons_self⟩

theorem operations_get {common : List Parameter} {route : Text} {read operations : List (Verb × Operation)}
    {fields : Json.Fields} (made : operationsFrom common route read fields = .ok operations) (verb : Verb) :
    Ordered.get? verb operations = match verbAt? verb fields with
      | some v => v.asFields?.map (operation common route verb)
      | none => Ordered.get? verb read := by
  induction fields generalizing read with
  | nil =>
    cases made
    rfl
  | cons field rest ih =>
    obtain ⟨key, v⟩ := field
    rw [operationsFrom] at made
    rw [verbAt?]
    cases spelled : Verb.ofKey? key with
    | none =>
      simp only [spelled] at made
      rw [ih made]
      simp
    | some own =>
      simp only [spelled] at made
      cases isObject : v.asFields? with
      | none => simp [isObject] at made
      | some inner =>
        simp only [isObject] at made
        rw [ih made, Ordered.get_put]
        cases later : verbAt? verb rest with
        | some w => simp
        | none =>
          by_cases same : own = verb
          · simp [same, isObject]
          · simp [same]

theorem operations_apart {common : List Parameter} {route : Text} {read operations : List (Verb × Operation)}
    {fields : Json.Fields} (made : operationsFrom common route read fields = .ok operations)
    (before : Ordered.WellFormed read) : Ordered.WellFormed operations := by
  obtain ⟨entries, -, -, rfl⟩ := operations_put made
  exact Ordered.put_all_keys_apart before

theorem operation_source {doc : Json} {api : Api} {route : Text} {operations : List (Verb × Operation)} {verb : Verb}
    {op : Operation} (keyed : doc.isKeyed = true) (read : ofJson doc = .ok api) (atRoute : (route, operations) ∈ api.paths)
    (under : (verb, op) ∈ operations) :
    ∃ item fields, itemAt? doc route = some item ∧ operationAt? item verb = some fields ∧
      (Json.obj item).isKeyed = true ∧ (Json.obj fields).isKeyed = true ∧
      op = operation (parametersOf item) route verb fields := by
  obtain ⟨-, ⟨-, none⟩ | ⟨routes, found, made⟩⟩ := of_json_source read
  · simp [none] at atRoute
  · have routesKeyed : (Json.obj routes).isKeyed = true := Json.keyed_get keyed found
    obtain ⟨item, listed, ran⟩ := routes_mem made atRoute
    have itemKeyed : (Json.obj item).isKeyed = true := Json.keyed_field routesKeyed listed
    have here : Ordered.get? route routes = some (.obj item) := Ordered.get_of_mem (Json.keyed_keys routesKeyed) listed
    have there : Ordered.get? verb operations = some op :=
      Ordered.get_of_mem (operations_apart ran (by simp [Ordered.WellFormed, Ordered.keys])) under
    rw [operations_get ran verb] at there
    cases spelled : verbAt? verb item with
    | none => simp [spelled, Ordered.get?] at there
    | some v =>
      simp only [spelled] at there
      obtain ⟨fields, own, same⟩ := Option.map_eq_some_iff.mp there
      have object := fields_eq own
      subst object
      obtain ⟨key, mem⟩ := verb_at_mem spelled
      refine ⟨item, fields, ?_, ?_, itemKeyed, Json.keyed_field itemKeyed mem, same.symm⟩
      · rw [itemAt?, found]
        exact congrArg (Option.bind · Json.asFields?) here
      · rw [operationAt?, spelled]
        rfl

end Api

/-! ### Parameters that share a name -/

def Parameter.place (p : Parameter) : Text × Location := (p.name, p.location)

namespace Api

theorem same_place_iff (p q : Parameter) : inSamePlace p q = true ↔ p.place = q.place := by
  simp [inSamePlace, Parameter.place]

theorem inherit_places {common own : List Parameter} (ofRoute : (common.map Parameter.place).Nodup)
    (ofOperation : (own.map Parameter.place).Nodup) : ((inherit common own).map Parameter.place).Nodup := by
  rw [inherit, List.map_append, List.nodup_append]
  refine ⟨(List.Sublist.map _ List.filter_sublist).nodup ofRoute, ofOperation, ?_⟩
  intro place left other right same
  obtain ⟨c, kept, rfl⟩ := List.mem_map.mp left
  obtain ⟨o, stated, rfl⟩ := List.mem_map.mp right
  have free := (List.mem_filter.mp kept).2
  simp only [Bool.not_eq_true', List.any_eq_false] at free
  exact free o stated ((same_place_iff o c).mpr same.symm)

/-- Of parameters in different places no two share a name, unless it is one name in two locations. -/
theorem names_apart_iff {ps : List Parameter} (apart : (ps.map Parameter.place).Nodup) :
    (ps.map (·.name)).Nodup ↔ ∀ p ∈ ps, ∀ q ∈ ps, p.name = q.name → p.location = q.location := by
  have once : ps.Nodup := List.Nodup.of_map _ apart
  rw [List.nodup_map_iff_inj_on once]
  constructor
  · intro unique p inP q inQ same
    rw [unique p inP q inQ same]
  · intro located p inP q inQ same
    have place : p.place = q.place := Prod.ext same (located p inP q inQ same)
    exact List.inj_on_of_nodup_map apart inP inQ place

/-- The body of a request is one more parameter, and its name is always the same. -/
theorem names_with_body_iff {ps : List Parameter} (apart : (ps.map Parameter.place).Nodup) (fields : Json.Fields) :
    ((ps ++ bodyParameters fields).map (·.name)).Nodup ↔
      (∀ p ∈ ps, ∀ q ∈ ps, p.name = q.name → p.location = q.location) ∧
      (bodyParameters fields ≠ [] → ∀ p ∈ ps, p.name ≠ "body".toList) := by
  rw [List.map_append, List.nodup_append, names_apart_iff apart]
  unfold bodyParameters
  split
  · simp [bodyParameter]
  · simp

theorem operation_schema_names {item fields : Json.Fields} (itemKeyed : (Json.obj item).isKeyed = true)
    (fieldsKeyed : (Json.obj fields).isKeyed = true) (route : Text) (verb : Verb) :
    ∀ p ∈ (operation (parametersOf item) route verb fields).parameters, p.schema.propertyNames.Nodup := by
  intro p mem
  rcases List.mem_append.mp mem with plain | body
  · rcases List.mem_append.mp plain with kept | stated
    · exact parameters_names itemKeyed (List.mem_of_mem_filter kept)
    · exact parameters_names fieldsKeyed stated
  · exact body_names fieldsKeyed body

end Api

/-- A lone body is one parameter, so the names of parameters decide whether it comes as an object or not. -/
theorem Operation.property_names_iff {op : Operation} (objects : ∀ p ∈ op.parameters, p.schema.propertyNames.Nodup) :
    op.propertyNames.Nodup ↔ (op.parameters.map (·.name)).Nodup := by
  rw [propertyNames]
  cases lone : loneBody? op.parameters with
  | none => exact Iff.rfl
  | some body =>
    obtain ⟨p, single, own⟩ := lone_body_eq lone
    have object := objects p (single ▸ List.mem_singleton_self p)
    rw [own] at object
    simp [single, object]

open Api in
/-- What an operation asks for declares each of its properties once, unless two of its parameters share a name in different
locations, or one is called `body` and the operation has a body besides. -/
theorem Operation.properties_distinct_iff (doc : Json) (api : Api) (route : Text) (operations : List (Verb × Operation))
    (verb : Verb) (op : Operation) (config : Config) (keyed : doc.isKeyed = true) (read : Api.ofJson doc = .ok api)
    (atRoute : (route, operations) ∈ api.paths) (under : (verb, op) ∈ operations) (asks : op.parameters ≠ []) :
    ∃ item fields, itemAt? doc route = some item ∧ operationAt? item verb = some fields ∧
      (((parametersOf item).map Parameter.place).Nodup → ((parametersOf fields).map Parameter.place).Nodup →
        ∃ d names, op.params? config Layout.format = some d ∧ Remarks.lastDeclaration? d.text = some (d.name, names) ∧
          (names.Nodup ↔
            (∀ p ∈ inherit (parametersOf item) (parametersOf fields),
              ∀ q ∈ inherit (parametersOf item) (parametersOf fields), p.name = q.name → p.location = q.location) ∧
            (bodyParameters fields ≠ [] →
              ∀ p ∈ inherit (parametersOf item) (parametersOf fields), p.name ≠ "body".toList))) := by
  obtain ⟨item, fields, atItem, atVerb, itemKeyed, fieldsKeyed, source⟩ := operation_source keyed read atRoute under
  refine ⟨item, fields, atItem, atVerb, ?_⟩
  intro ofRoute ofOperation
  obtain ⟨d, made⟩ : ∃ d, op.params? config Layout.format = some d := by simp [Operation.params?, asks]
  refine ⟨d, op.propertyNames, made, Operation.asked_properties made, ?_⟩
  subst source
  rw [Operation.property_names_iff (operation_schema_names itemKeyed fieldsKeyed route verb)]
  exact names_with_body_iff (inherit_places ofRoute ofOperation) fields

def parameterValue (name location type : String) : Json :=
  .obj [("name".toList, .str name.toList), ("in".toList, .str location.toList), ("type".toList, .str type.toList)]

def documentOf (route : String) (common : List Json) (verb : String) (fields : Json.Fields) : Json :=
  .obj [("paths".toList, .obj [(route.toList,
    .obj [("parameters".toList, .arr common), (verb.toList, .obj fields)])])]

def updateFields : Json.Fields :=
  [("parameters".toList, .arr [parameterValue "id" "path" "integer", parameterValue "dry run" "query" "boolean"]),
    ("requestBody".toList, .obj [("content".toList, .obj [("application/json".toList, .obj [("schema".toList,
      .obj [("properties".toList, .obj [("id".toList, .obj [("type".toList, .str "string".toList)])])])])])])]

def updateDocument : Json :=
  documentOf "/pets/\x7bid\x7d" [parameterValue "id" "path" "string", parameterValue "trace" "header" "string"] "put"
    updateFields

theorem update_properties_distinct :
    updateDocument.isKeyed = true ∧ ∃ api operations op d names, Api.ofJson updateDocument = .ok api ∧
      ("/pets/\x7bid\x7d".toList, operations) ∈ api.paths ∧ (Verb.put, op) ∈ operations ∧
      op.params? .standard Layout.format = some d ∧ Remarks.lastDeclaration? d.text = some (d.name, names) ∧ names.Nodup := by
  have keyed : updateDocument.isKeyed = true := by decide +kernel
  obtain ⟨item, fields, atItem, atVerb, rule⟩ := Operation.properties_distinct_iff updateDocument _ "/pets/\x7bid\x7d".toList
    _ .put _ .standard keyed rfl List.mem_cons_self List.mem_cons_self (List.cons_ne_nil _ _)
  cases atItem
  cases atVerb
  obtain ⟨d, names, made, declared, distinct⟩ := rule (by decide +kernel) (by decide +kernel)
  exact ⟨keyed, _, _, _, d, names, rfl, List.mem_cons_self, List.mem_cons_self, made, declared,
    distinct.mpr ⟨by decide +kernel, by decide +kernel⟩⟩

def doubledDocument : Json :=
  documentOf "/pets/\x7bid\x7d" [parameterValue "id" "path" "string"] "get"
    [("parameters".toList, .arr [parameterValue "id" "query" "string"])]

/-- A parameter of the route and one of the operation share a name in different locations. -/
theorem shared_name_declared_twice :
    doubledDocument.isKeyed = true ∧ ∃ api operations op item fields d, Api.ofJson doubledDocument = .ok api ∧
      ("/pets/\x7bid\x7d".toList, operations) ∈ api.paths ∧ (Verb.get, op) ∈ operations ∧
      Api.itemAt? doubledDocument "/pets/\x7bid\x7d".toList = some item ∧ Api.operationAt? item .get = some fields ∧
      ((Api.parametersOf item).map Parameter.place).Nodup ∧ ((Api.parametersOf fields).map Parameter.place).Nodup ∧
      op.params? .standard Layout.format = some d ∧
      Remarks.lastDeclaration? d.text = some (d.name, ["id".toList, "id".toList]) :=
  ⟨by decide +kernel, _, _, _, _, _, _, rfl, List.mem_cons_self, List.mem_cons_self, rfl, rfl, by decide +kernel,
    by decide +kernel, rfl, by decide +kernel⟩

end ApiTypes
