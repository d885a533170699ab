import ApiTypes.Api.OfJson
import ApiTypes.Proofs.Hoisting
import ApiTypes.Proofs.Resolve.Termination
/-!
References in schemas. A description is read from a tree of values, and every reference that is left in its schemas is a
reference of the tree.
-/
namespace ApiTypes

open Resolve (refsIn refsInItems refsInFields refs_of_field refs_of_item refs_of_object)

namespace Schema

mutual

def pointers : Schema → List Text
  | object _ properties _ => propertyPointers properties
  | listOf _ item => item.pointers
  | tuple _ members => memberPointers members
  | reference _ pointer => [pointer]
  | list _ | primitive _ _ | enumeration _ _ _ | any _ | unknown _ _ => []

def propertyPointers : Properties → List Text
  | [] => []
  | (_, s) :: rest => s.pointers ++ propertyPointers rest

def memberPointers : List Schema → List Text
  | [] => []
  | s :: rest => s.pointers ++ memberPointers rest

end

def Items.pointers : Items → List Text
  | .unspecified => []
  | .one item => item.pointers
  | .each members => memberPointers members

theorem of_items_pointers (notes : Notes) (items : Items) : (ofItems notes items).pointers = items.pointers := by
  cases items <;> rfl

theorem with_notes_pointers (s : Schema) (notes : Notes) : (s.withNotes notes).pointers = s.pointers := by
  cases s <;> rfl

theorem of_parts_pointers (fields : Json.Fields) (properties : Properties) (items : Items) :
    (ofParts fields properties items).pointers ⊆
      (Resolve.ref? (.obj fields)).toList ++ (propertyPointers properties ++ items.pointers) := by
  unfold ofParts
  cases own : Json.textAt? fields "$ref".toList with
  | some pointer =>
    have same : Resolve.ref? (.obj fields) = some pointer := own
    rw [same]
    exact List.subset_append_left _ _
  | none =>
    intro pointer mem
    apply List.mem_append_right
    simp only at mem
    split at mem
    · simp [pointers] at mem
    · split at mem
      · simp [pointers] at mem
      · exact List.mem_append_left _ mem
      · rw [of_items_pointers] at mem
        exact List.mem_append_right _ mem
      · simp [pointers] at mem
      · simp [pointers] at mem

mutual

theorem of_json_pointers (v : Json) : (ofJson v).pointers ⊆ refsIn v := by
  match v with
  | .obj fields =>
    have properties := properties_in_pointers fields
    have items := items_in_pointers fields
    rw [ofJson, refsIn]
    apply List.Subset.trans (of_parts_pointers fields _ _)
    exact List.append_subset.mpr ⟨List.subset_append_left _ _,
      List.Subset.trans (List.append_subset.mpr ⟨properties, items⟩) (List.subset_append_right _ _)⟩
  | .null | .bool _ | .num _ | .str _ | .arr _ => simp [ofJson, pointers]

theorem properties_in_pointers (fields : Json.Fields) : propertyPointers (propertiesIn fields) ⊆ refsInFields fields := by
  match fields with
  | [] => simp [propertiesIn, propertyPointers]
  | (key, v) :: rest =>
    rw [propertiesIn, refsInFields]
    split
    · exact List.Subset.trans (properties_of_pointers v) (List.subset_append_left _ _)
    · exact List.Subset.trans (properties_in_pointers rest) (List.subset_append_right _ _)

theorem properties_of_pointers (v : Json) : propertyPointers (propertiesOf v) ⊆ refsIn v := by
  match v with
  | .obj fields =>
    rw [propertiesOf]
    exact List.Subset.trans (each_property_pointers fields) (refs_of_object fields)
  | .null | .bool _ | .num _ | .str _ | .arr _ => simp [propertiesOf, propertyPointers]

theorem each_property_pointers (fields : Json.Fields) : propertyPointers (eachProperty fields) ⊆ refsInFields fields := by
  match fields with
  | [] => simp [eachProperty, propertyPointers]
  | (_, v) :: rest =>
    rw [eachProperty, propertyPointers, refsInFields]
    exact List.append_subset.mpr ⟨List.Subset.trans (of_json_pointers v) (List.subset_append_left _ _),
      List.Subset.trans (each_property_pointers rest) (List.subset_append_right _ _)⟩

theorem items_in_pointers (fields : Json.Fields) : (itemsIn fields).pointers ⊆ refsInFields fields := by
  match fields with
  | [] => simp [itemsIn, Items.pointers]
  | (key, v) :: rest =>
    rw [itemsIn, refsInFields]
    split
    · apply List.Subset.trans _ (List.subset_append_left _ _)
      split
      · exact of_json_pointers v
      · exact members_of_pointers v
    · exact List.Subset.trans (items_in_pointers rest) (List.subset_append_right _ _)

theorem members_of_pointers (v : Json) : (membersOf v).pointers ⊆ refsIn v := by
  match v with
  | .arr items =>
    rw [membersOf, refsIn]
    exact each_member_pointers items
  | .null | .bool _ | .num _ | .str _ | .obj _ => simp [membersOf, Items.pointers]

theorem each_member_pointers (items : List Json) : memberPointers (eachMember items) ⊆ refsInItems items := by
  match items with
  | [] => simp [eachMember, memberPointers]
  | v :: rest =>
    rw [eachMember, memberPointers, refsInItems]
    exact List.append_subset.mpr ⟨List.Subset.trans (of_json_pointers v) (List.subset_append_left _ _),
      List.Subset.trans (each_member_pointers rest) (List.subset_append_right _ _)⟩

end

end Schema

/-! ### Descriptions -/

def Operation.schemas (op : Operation) : List Schema :=
  op.parameters.map (·.schema) ++ op.responses.filterMap (·.2.schema)

def Api.schemas (api : Api) : List Schema :=
  api.definitions.map Prod.snd ++ api.paths.flatMap fun (_, operations) => operations.flatMap fun (_, op) => op.schemas

namespace Api

theorem fields_eq {v : Json} {fields : Json.Fields} (isObject : v.asFields? = some fields) : v = .obj fields := by
  cases v with
  | obj fs => exact congrArg Json.obj (Option.some.inj isObject)
  | _ => simp [Json.asFields?] at isObject

theorem items_eq {v : Json} {items : List Json} (isList : v.asItems? = some items) : v = .arr items := by
  cases v with
  | arr vs => exact congrArg Json.arr (Option.some.inj isList)
  | _ => simp [Json.asItems?] at isList

theorem refs_under {fields : Json.Fields} {k : Text} {w : Json} (found : Ordered.get? k fields = some w) :
    refsIn w ⊆ refsInFields fields :=
  refs_of_field (Ordered.get_mem found)

theorem refs_of_get {v w : Json} {k : Text} (found : v.get? k = some w) : refsIn w ⊆ refsIn v := by
  cases v with
  | obj fields => exact List.Subset.trans (refs_under found) (refs_of_object fields)
  | _ => simp [Json.get?] at found

theorem refs_of_inner {fields inner : Json.Fields} {k : Text}
    (found : (Ordered.get? k fields).bind Json.asFields? = some inner) : refsInFields inner ⊆ refsInFields fields := by
  obtain ⟨v, there, isObject⟩ := Option.bind_eq_some_iff.mp found
  have object := fields_eq isObject
  subst object
  exact List.Subset.trans (refs_of_object inner) (refs_under there)

theorem media_schema_source {fields : Json.Fields} {w : Json} (found : mediaSchema? fields = some w) :
    ∃ content media, (Ordered.get? "content".toList fields).bind Json.asFields? = some content ∧ media ∈ content ∧
      media.2.get? "schema".toList = some w := by
  simp only [mediaSchema?, bind, Option.bind_eq_some_iff] at found
  obtain ⟨content, inner, media, chosen, schema⟩ := found
  refine ⟨content, media, Option.bind_eq_some_iff.mpr inner, ?_, schema⟩
  rcases Option.or_eq_some_iff.mp chosen with json | ⟨-, first⟩
  · exact List.mem_of_find?_eq_some json
  · exact List.mem_of_head? first

theorem media_schema_refs {fields : Json.Fields} {w : Json} (found : mediaSchema? fields = some w) :
    refsIn w ⊆ refsInFields fields := by
  obtain ⟨content, media, inner, mem, schema⟩ := media_schema_source found
  exact List.Subset.trans (refs_of_get schema) (List.Subset.trans (refs_of_field mem) (refs_of_inner inner))

theorem parameter_schema_source {v : Json} {p : Parameter} (made : parameter? v = some p) :
    (∃ schema, v.get? "schema".toList = some schema ∧ p.schema = Schema.ofJson schema) ∨
      p.schema = (Schema.ofJson v).withNotes Notes.none ∨ p.schema = .any Notes.none := by
  simp only [parameter?, bind, Option.bind_eq_some_iff, pure, Option.some.injEq] at made
  obtain ⟨fields, -, name, -, location, -, rfl⟩ := made
  simp only [parameterSchema]
  split
  · rename_i schema found
    exact Or.inl ⟨schema, found, rfl⟩
  · split
    · exact Or.inr (Or.inr rfl)
    · exact Or.inr (Or.inl rfl)

theorem parameter_pointers {v : Json} {p : Parameter} (made : parameter? v = some p) : p.schema.pointers ⊆ refsIn v := by
  rcases parameter_schema_source made with ⟨schema, found, own⟩ | beside | free
  · rw [own]
    exact List.Subset.trans (Schema.of_json_pointers schema) (refs_of_get found)
  · rw [beside, Schema.with_notes_pointers]
    exact Schema.of_json_pointers v
  · simp [free, Schema.pointers]

theorem parameters_source {fields : Json.Fields} {p : Parameter} (mem : p ∈ parametersOf fields) :
    ∃ items v, Ordered.get? "parameters".toList fields = some (.arr items) ∧ v ∈ items ∧ parameter? v = some p := by
  unfold parametersOf at mem
  split at mem
  · rename_i items found
    obtain ⟨v, there, isList⟩ := Option.bind_eq_some_iff.mp found
    have list := items_eq isList
    subst list
    obtain ⟨w, inside, made⟩ := List.mem_filterMap.mp mem
    exact ⟨items, w, there, inside, made⟩
  · simp at mem

theorem parameters_pointers {fields : Json.Fields} {p : Parameter} (mem : p ∈ parametersOf fields) :
    p.schema.pointers ⊆ refsInFields fields := by
  obtain ⟨items, v, there, inside, made⟩ := parameters_source mem
  have inItems : refsIn v ⊆ refsIn (.arr items) := by
    rw [refsIn]
    exact refs_of_item inside
  exact List.Subset.trans (parameter_pointers made) (List.Subset.trans inItems (refs_under there))

theorem body_schema_source {fields : Json.Fields} {p : Parameter} (mem : p ∈ bodyParameters fields) :
    ∃ body, (Ordered.get? "requestBody".toList fields).bind Json.asFields? = some body ∧
      ((∃ schema, mediaSchema? body = some schema ∧ p.schema = Schema.ofJson schema) ∨ p.schema = .any Notes.none) := by
  unfold bodyParameters at mem
  split at mem
  · rename_i body found
    refine ⟨body, found, ?_⟩
    rw [List.mem_singleton.mp mem]
    cases media : mediaSchema? body with
    | none => simp [bodyParameter, media]
    | some schema => simp [bodyParameter, media]
  · simp at mem

theorem body_pointers {fields : Json.Fields} {p : Parameter} (mem : p ∈ bodyParameters fields) :
    p.schema.pointers ⊆ refsInFields fields := by
  obtain ⟨body, found, ⟨schema, media, own⟩ | free⟩ := body_schema_source mem
  · rw [own]
    exact List.Subset.trans (Schema.of_json_pointers schema)
      (List.Subset.trans (media_schema_refs media) (refs_of_inner found))
  · simp [free, Schema.pointers]

theorem response_pointers {v : Json} {s : Schema} (made : (response v).schema = some s) : s.pointers ⊆ refsIn v := by
  simp only [response] at made
  obtain ⟨raw, found, rfl⟩ := Option.map_eq_some_iff.mp made
  apply List.Subset.trans (Schema.of_json_pointers raw)
  cases isObject : v.asFields? with
  | none =>
    rw [isObject, Option.getD_none] at found
    cases found
  | some fields =>
    have object := fields_eq isObject
    subst object
    rw [isObject, Option.getD_some] at found
    apply List.Subset.trans _ (refs_of_object fields)
    rcases Option.or_eq_some_iff.mp found with own | ⟨-, media⟩
    · exact refs_under own
    · exact media_schema_refs media

theorem responses_pointers {fields : Json.Fields} {entry : Text × Response} {s : Schema}
    (mem : entry ∈ responsesOf fields) (made : entry.2.schema = some s) : s.pointers ⊆ refsInFields fields := by
  unfold responsesOf at mem
  split at mem
  · rename_i responses found
    obtain ⟨⟨code, v⟩, inside, rfl⟩ := List.mem_map.mp mem
    exact List.Subset.trans (response_pointers made) (List.Subset.trans (refs_of_field inside) (refs_of_inner found))
  · simp at mem

theorem operations_put {common : List Parameter} {route : Text} {read operations : List (Verb × Operation)}
    {fields : Json.Fields} (made : operationsFrom common route read fields = .ok operations) :
    ∃ entries, Ordered.keys entries = (Ordered.keys fields).filterMap Verb.ofKey? ∧
      (∀ entry ∈ entries, ∃ key inner, (key, .obj inner) ∈ fields ∧ entry.2 = operation common route entry.1 inner) ∧
      operations = entries.foldl (fun m e => Ordered.put e.1 e.2 m) read := by
  induction fields generalizing read with
  | nil =>
    cases made
    exact ⟨[], rfl, by simp, rfl⟩
  | cons field rest ih =>
    obtain ⟨key, v⟩ := field
    rw [operationsFrom] at made
    split at made
    · rename_i unspelled
      obtain ⟨entries, keys, stated, put⟩ := ih made
      refine ⟨entries, ?_, ?_, put⟩
      · rw [keys, Ordered.keys, Ordered.keys, List.map_cons, List.filterMap_cons_none unspelled]
      · intro entry mem
        obtain ⟨other, inner, listed, own⟩ := stated entry mem
        exact ⟨other, inner, List.mem_cons_of_mem _ listed, own⟩
    · rename_i verb spelled
      split at made
      · cases made
      · rename_i fields isObject
        have object := fields_eq isObject
        subst object
        obtain ⟨entries, keys, stated, put⟩ := ih made
        refine ⟨(verb, operation common route verb fields) :: entries, ?_, ?_, put⟩
        · rw [Ordered.keys, List.map_cons, ← Ordered.keys, keys, Ordered.keys, Ordered.keys, List.map_cons,
            List.filterMap_cons_some spelled]
        · intro entry mem
          rcases List.mem_cons.mp mem with rfl | later
          · exact ⟨key, fields, List.mem_cons_self, rfl⟩
          · obtain ⟨other, inner, listed, own⟩ := stated entry later
            exact ⟨other, inner, List.mem_cons_of_mem _ listed, own⟩

theorem routes_each {routes : Json.Fields} {paths : List (Text × List (Verb × Operation))}
    (made : routesOf routes = .ok paths) :
    List.Forall₂ (fun entry path => ∃ item, entry = (path.1, Json.obj item) ∧
      operationsFrom (parametersOf item) path.1 [] item = .ok path.2) routes paths := by
  induction routes generalizing paths with
  | nil =>
    cases made
    exact .nil
  | cons field rest ih =>
    obtain ⟨route, v⟩ := field
    simp only [routesOf, routeOf, bind, Except.bind, pure, Except.pure] at made
    cases isObject : v.asFields? with
    | none => simp [isObject] at made
    | some item =>
      cases ran : operationsFrom (parametersOf item) route [] item with
      | error e => simp [isObject, ran] at made
      | ok own =>
        cases more : routesOf rest with
        | error e => simp [isObject, ran, more] at made
        | ok others =>
          simp only [isObject, ran, more, Except.ok.injEq] at made
          subst made
          have object := fields_eq isObject
          exact .cons ⟨item, object ▸ rfl, ran⟩ (ih more)

theorem routes_mem {routes : Json.Fields} {paths : List (Text × List (Verb × Operation))} {route : Text}
    {operations : List (Verb × Operation)} (made : routesOf routes = .ok paths) (mem : (route, operations) ∈ paths) :
    ∃ item, (route, .obj item) ∈ routes ∧ operationsFrom (parametersOf item) route [] item = .ok operations := by
  have each := routes_each made
  clear made
  induction each with
  | nil => simp at mem
  | cons first _ ih =>
    rcases List.mem_cons.mp mem with rfl | other
    · obtain ⟨item, rfl, ran⟩ := first
      exact ⟨item, List.mem_cons_self, ran⟩
    · obtain ⟨item, inside, ran⟩ := ih other
      exact ⟨item, List.mem_cons_of_mem _ inside, ran⟩

section Bounded

variable {refs : List Text}

theorem operation_pointers {common : List Parameter} {route : Text} {verb : Verb} {fields : Json.Fields}
    (inherited : ∀ p ∈ common, p.schema.pointers ⊆ refs) (own : refsInFields fields ⊆ refs) :
    ∀ s ∈ (operation common route verb fields).schemas, s.pointers ⊆ refs := by
  intro s mem
  rcases List.mem_append.mp mem with parameter | answer
  · obtain ⟨p, listed, rfl⟩ := List.mem_map.mp parameter
    rcases List.mem_append.mp listed with plain | body
    · rcases List.mem_append.mp plain with kept | stated
      · exact inherited p (List.mem_of_mem_filter kept)
      · exact List.Subset.trans (parameters_pointers stated) own
    · exact List.Subset.trans (body_pointers body) own
  · obtain ⟨entry, listed, made⟩ := List.mem_filterMap.mp answer
    exact List.Subset.trans (responses_pointers listed made) own

theorem operations_pointers {common : List Parameter} {route : Text} {fields : Json.Fields}
    {read operations : List (Verb × Operation)} (inherited : ∀ p ∈ common, p.schema.pointers ⊆ refs)
    (before : ∀ entry ∈ read, ∀ s ∈ entry.2.schemas, s.pointers ⊆ refs) (own : refsInFields fields ⊆ refs)
    (made : operationsFrom common route read fields = .ok operations) :
    ∀ entry ∈ operations, ∀ s ∈ entry.2.schemas, s.pointers ⊆ refs := by
  obtain ⟨entries, -, stated, rfl⟩ := operations_put made
  intro entry mem
  rcases Ordered.put_all_mem mem with old | put
  · exact before entry old
  · obtain ⟨key, inner, listed, same⟩ := stated entry put
    have inside : refsInFields inner ⊆ refs :=
      List.Subset.trans (refs_of_object inner) (List.Subset.trans (refs_of_field listed) own)
    rw [same]
    exact operation_pointers inherited inside

theorem routes_pointers {routes : Json.Fields} {paths : List (Text × List (Verb × Operation))}
    (own : refsInFields routes ⊆ refs) (made : routesOf routes = .ok paths) :
    ∀ path ∈ paths, ∀ entry ∈ path.2, ∀ s ∈ entry.2.schemas, s.pointers ⊆ refs := by
  intro path mem
  obtain ⟨item, listed, ran⟩ := routes_mem made mem
  have inside : refsInFields item ⊆ refs :=
    List.Subset.trans (refs_of_object item) (List.Subset.trans (refs_of_field listed) own)
  exact operations_pointers (fun p stated => List.Subset.trans (parameters_pointers stated) inside) (by simp) inside ran

end Bounded

theorem definitions_pointers {root : Json} {entry : Text × Schema} (mem : entry ∈ definitionsOf root) :
    entry.2.pointers ⊆ refsIn root := by
  have named : ∀ (v : Option Json) (field : Text × Json), (∀ w, v = some w → refsIn w ⊆ refsIn root) →
      field ∈ (v.bind Json.asFields?).getD [] → refsIn field.2 ⊆ refsIn root := by
    intro v field inside listed
    cases found : v.bind Json.asFields? with
    | none => simp [found] at listed
    | some fields =>
      rw [found, Option.getD_some] at listed
      obtain ⟨w, there, isObject⟩ := Option.bind_eq_some_iff.mp found
      have object := fields_eq isObject
      subst object
      exact List.Subset.trans (List.Subset.trans (refs_of_field listed) (refs_of_object fields)) (inside _ there)
  rcases Ordered.put_all_mem mem with before | put
  · simp at before
  · obtain ⟨field, listed, rfl⟩ := List.mem_map.mp put
    apply List.Subset.trans (Schema.of_json_pointers field.2)
    rcases List.mem_append.mp listed with old | new
    · exact named _ field (fun w there => refs_of_get there) old
    · refine named _ field ?_ new
      intro w there
      obtain ⟨components, outer, inner⟩ := Option.bind_eq_some_iff.mp there
      exact List.Subset.trans (refs_of_get inner) (refs_of_get outer)

theorem of_json_source {root : Json} {api : Api} (made : ofJson root = .ok api) :
    api.definitions = definitionsOf root ∧
    (root.get? "paths".toList = none ∧ api.paths = [] ∨
      ∃ routes, root.get? "paths".toList = some (.obj routes) ∧ routesOf routes = .ok api.paths) := by
  unfold ofJson at made
  split at made
  · rename_i missing
    cases made
    exact ⟨rfl, Or.inl ⟨missing, rfl⟩⟩
  · rename_i paths found
    split at made
    · simp at made
    · rename_i routes isObject
      have object := fields_eq isObject
      subst object
      cases ran : routesOf routes with
      | error e => simp [ran, bind, Except.bind] at made
      | ok read =>
        simp only [ran, bind, Except.bind, pure, Except.pure, Except.ok.injEq] at made
        subst made
        exact ⟨rfl, Or.inr ⟨routes, found, ran⟩⟩

/-- Every reference in the schemas of a description is one of the tree it is read from. -/
theorem schemas_pointers {root : Json} {api : Api} (made : ofJson root = .ok api) :
    ∀ s ∈ api.schemas, s.pointers ⊆ refsIn root := by
  obtain ⟨definitions, read⟩ := of_json_source made
  intro s mem
  rcases List.mem_append.mp mem with definition | used
  · obtain ⟨entry, listed, rfl⟩ := List.mem_map.mp definition
    exact definitions_pointers (definitions ▸ listed)
  · obtain ⟨path, inPaths, inPath⟩ := List.mem_flatMap.mp used
    obtain ⟨entry, listed, own⟩ := List.mem_flatMap.mp inPath
    rcases read with ⟨-, none⟩ | ⟨routes, found, ran⟩
    · simp [none] at inPaths
    · have inside : refsInFields routes ⊆ refsIn root := List.Subset.trans (refs_of_object routes) (refs_of_get found)
      exact routes_pointers inside ran path inPaths entry listed s own

end Api

end ApiTypes
