import Mathlib.Data.List.Forall2
import ApiTypes.Proofs.PropertyNames
/-!
Which documents are read as descriptions of an API, and what is in the description then. A document is refused exactly if its
routes, the entry of a route or the value under a verb is no object. Otherwise the description has the definitions, the routes
and the operations of the document in the order in which the document has them, and of what is there twice the last counts.
-/
namespace ApiTypes

/-! ### Verbs in any case -/

def Text.isCased : (letters t : Text) → Bool
  | [], [] => true
  | letter :: letters, c :: t => (c == letter || c == letter.toLower) && isCased letters t
  | _, _ => false

theorem Text.cased_iff {letters : Text} (upper : ∀ c ∈ letters, 65 ≤ c.toNat ∧ c.toNat < 91) (t : Text) :
    isCased letters t = true ↔ lowerAscii letters = lowerAscii t := by
  induction letters generalizing t with
  | nil => cases t <;> simp [isCased, lowerAscii]
  | cons letter letters ih =>
    obtain ⟨first, others⟩ := List.forall_mem_cons.mp upper
    cases t with
    | nil => simp [isCased, lowerAscii]
    | cons c t =>
      have later := ih others t
      unfold lowerAscii at later ⊢
      rw [isCased, Bool.and_eq_true, Bool.or_eq_true, beq_iff_eq, beq_iff_eq, ← lower_letter_iff first, later,
        List.map_cons, List.map_cons, List.cons.injEq, eq_comm]

namespace Verb

def isSpelled (verb : Verb) (key : Text) : Bool := Text.isCased verb.name key

theorem spelled_iff (verb : Verb) (key : Text) : verb.isSpelled key = true ↔ verb.lowerName = Text.lowerAscii key := by
  have capitals : (verb.name.all fun c => decide (65 ≤ c.toNat ∧ c.toNat < 91)) = true := by
    cases verb <;> decide
  apply Text.cased_iff
  intro c mem
  exact of_decide_eq_true (List.all_eq_true.mp capitals c mem)

theorem of_lower_name {v w : Verb} (same : v.lowerName = w.lowerName) : v = w := by
  have all : ∀ v ∈ Verb.all, ∀ w ∈ Verb.all, v.lowerName = w.lowerName → v = w := by decide
  exact all v (by cases v <;> decide) w (by cases w <;> decide) same

theorem of_key_iff (key : Text) (verb : Verb) : ofKey? key = some verb ↔ verb.isSpelled key = true := by
  have own : ∀ found, ofKey? key = some found → found.lowerName = Text.lowerAscii key := by
    intro found hit
    have same := List.find?_some hit
    exact beq_iff_eq.mp same
  rw [spelled_iff]
  constructor
  · exact own verb
  · intro spelled
    have some : (ofKey? key).isSome = true := by
      rw [ofKey?, List.find?_isSome]
      exact ⟨verb, by cases verb <;> decide, beq_iff_eq.mpr spelled⟩
    obtain ⟨found, hit⟩ := Option.isSome_iff_exists.mp some
    rw [hit, of_lower_name ((own found hit).trans spelled.symm)]

theorem spelled_filter (key : Text) : all.filter (·.isSpelled key) = (ofKey? key).toList := by
  cases hit : ofKey? key with
  | none =>
    rw [Option.toList_none, List.filter_eq_nil_iff]
    intro verb _ spelled
    rw [← of_key_iff, hit] at spelled
    cases spelled
  | some found =>
    have only : ∀ verb ∈ all, verb.isSpelled key = (verb == found) := by
      intro verb _
      rw [Bool.eq_iff_iff, ← of_key_iff, hit, Option.some.injEq, beq_iff_eq, eq_comm]
    rw [List.filter_congr only]
    cases found <;> rfl

end Verb

namespace Api

/-! ### Documents that are refused -/

inductive Malformed : Json → Prop
  | paths {root v : Json} (found : root.get? "paths".toList = some v) (other : v.isObject = false) : Malformed root
  | item {root v : Json} {routes : Json.Fields} {route : Text} (found : root.get? "paths".toList = some (.obj routes))
    (listed : (route, v) ∈ routes) (other : v.isObject = false) : Malformed root
  | operation {root v : Json} {routes item : Json.Fields} {route key : Text} {verb : Verb}
    (found : root.get? "paths".toList = some (.obj routes)) (listed : (route, .obj item) ∈ routes) (under : (key, v) ∈ item)
    (spelled : verb.isSpelled key = true) (other : v.isObject = false) : Malformed root

def IsOdd (field : Text × Json) : Prop := (∃ verb : Verb, verb.isSpelled field.1 = true) ∧ field.2.isObject = false

theorem bind_error_iff {ε α β : Type} {x : Except ε α} {f : α → Except ε β} :
    (∃ e, x >>= f = .error e) ↔ (∃ e, x = .error e) ∨ ∃ a, x = .ok a ∧ ∃ e, f a = .error e := by
  cases x <;> simp [bind, Except.bind]

theorem operations_error_iff {common : List Parameter} {route : Text} {read : List (Verb × Operation)} {fields : Json.Fields} :
    (∃ e, operationsFrom common route read fields = .error e) ↔ ∃ field ∈ fields, IsOdd field := by
  -- What has been read before has no part in it: the same holds on top of any operations.
  induction fields generalizing read with
  | nil => simp [operationsFrom]
  | cons field rest ih =>
    obtain ⟨key, v⟩ := field
    rw [operationsFrom, List.exists_mem_cons_iff]
    cases spelled : Verb.ofKey? key with
    | none =>
      have even : ¬ IsOdd (key, v) := by
        rintro ⟨⟨verb, own⟩, -⟩
        rw [← Verb.of_key_iff, spelled] at own
        cases own
      simp only [ih, even, false_or]
    | some verb =>
      cases isObject : v.asFields? with
      | none =>
        have odd : IsOdd (key, v) := ⟨⟨verb, (Verb.of_key_iff key verb).mp spelled⟩, by simp [Json.isObject, isObject]⟩
        simp [odd]
      | some inner =>
        have even : ¬ IsOdd (key, v) := by
          rintro ⟨-, other⟩
          simp [Json.isObject, isObject] at other
        simp only [ih, even, false_or]

theorem route_error_iff {route : Text} {v : Json} :
    (∃ e, routeOf route v = .error e) ↔ v.isObject = false ∨ ∃ item, v = .obj item ∧ ∃ field ∈ item, IsOdd field := by
  cases v with
  | obj item =>
    simp only [routeOf, Json.asFields?, bind_error_iff, operations_error_iff]
    simp [Json.isObject, Json.asFields?, pure, Except.pure]
  | null | bool _ | num _ | str _ | arr _ => simp [routeOf, Json.asFields?, Json.isObject]

theorem routes_error_iff {routes : Json.Fields} :
    (∃ e, routesOf routes = .error e) ↔ ∃ entry ∈ routes, ∃ e, routeOf entry.1 entry.2 = .error e := by
  induction routes with
  | nil => simp [routesOf]
  | cons entry rest ih =>
    rw [List.exists_mem_cons_iff, ← ih, routesOf, bind_error_iff]
    cases first : routeOf entry.1 entry.2 with
    | error e => simp
    | ok own => simp [bind_error_iff, pure, Except.pure]

theorem of_json_error_iff (root : Json) : (∃ e, ofJson root = .error e) ↔ Malformed root := by
  rw [ofJson]
  cases found : root.get? "paths".toList with
  | none =>
    constructor
    · rintro ⟨e, refused⟩
      cases refused
    · intro malformed
      cases malformed <;> simp_all
  | some paths =>
    cases paths with
    | obj routes =>
      simp only [Json.asFields?, bind_error_iff, routes_error_iff, route_error_iff]
      constructor
      · rintro (⟨⟨route, v⟩, listed, other | ⟨item, rfl, ⟨key, w⟩, under, ⟨verb, spelled⟩, other⟩⟩ | ⟨read, -, e, refused⟩)
        · exact .item found listed other
        · exact .operation found listed under spelled other
        · cases refused
      · intro malformed
        refine Or.inl ?_
        cases malformed with
        | paths there other =>
          rw [found] at there
          cases there
          cases other
        | item there listed other =>
          rw [found] at there
          cases there
          exact ⟨_, listed, Or.inl other⟩
        | operation there listed under spelled other =>
          rw [found] at there
          cases there
          exact ⟨_, listed, Or.inr ⟨_, rfl, _, under, ⟨_, spelled⟩, other⟩⟩
    | null | bool _ | num _ | str _ | arr _ =>
      simp only [Json.asFields?]
      exact ⟨fun _ => .paths found rfl, fun _ => ⟨_, rfl⟩⟩

/-! ### Documents that are read -/

def fieldsIn (v : Option Json) : Json.Fields := (v.bind Json.asFields?).getD []

def classicDefinitions (root : Json) : Json.Fields := fieldsIn (root.get? "definitions".toList)

def modernDefinitions (root : Json) : Json.Fields :=
  fieldsIn ((root.get? "components".toList).bind (Json.get? "schemas".toList))

def routesIn (root : Json) : Json.Fields := fieldsIn (root.get? "paths".toList)

def verbsIn (item : Json.Fields) : List Verb := (Ordered.keys item).flatMap fun key => Verb.all.filter (·.isSpelled key)

/-- The operations of a route, in the order in which their verbs first come. Each is read from what stands last under its
verb. -/
structure ReadsItem (route : Text) (item : Json.Fields) (operations : List (Verb × Operation)) : Prop where
  verbs : Ordered.keys operations = (verbsIn item).eraseDups
  last : ∀ (before after : Json.Fields) (key : Text) (fields : Json.Fields) (verb : Verb),
    item = before ++ (key, .obj fields) :: after → verb.isSpelled key = true →
    (∀ field ∈ after, verb.isSpelled field.1 = false) →
    Ordered.get? verb operations = some (operation (parametersOf item) route verb fields)

structure Reads (root : Json) (api : Api) : Prop where
  names : Ordered.keys api.definitions = Ordered.keys (classicDefinitions root) ++
    (Ordered.keys (modernDefinitions root)).removeAll (Ordered.keys (classicDefinitions root))
  definition : ∀ name, Ordered.get? name api.definitions =
    ((Ordered.get? name (modernDefinitions root)).or (Ordered.get? name (classicDefinitions root))).map Schema.ofJson
  routes : List.Forall₂ (fun entry path => path.1 = entry.1 ∧ ∃ item, entry.2 = .obj item ∧ ReadsItem path.1 item path.2)
    (routesIn root) api.paths

theorem fields_in_apart {v : Option Json} (keyed : ∀ w, v = some w → w.isKeyed = true) : Ordered.WellFormed (fieldsIn v) := by
  cases v with
  | none => simp [fieldsIn, Ordered.WellFormed, Ordered.keys]
  | some w =>
    cases w with
    | obj fields => exact Json.keyed_keys (keyed _ rfl)
    | null | bool _ | num _ | str _ | arr _ => simp [fieldsIn, Json.asFields?, Ordered.WellFormed, Ordered.keys]

theorem classic_apart {root : Json} (keyed : root.isKeyed = true) : Ordered.WellFormed (classicDefinitions root) :=
  fields_in_apart fun _ found => Json.keyed_get keyed found

theorem modern_apart {root : Json} (keyed : root.isKeyed = true) : Ordered.WellFormed (modernDefinitions root) := by
  apply fields_in_apart
  intro w found
  obtain ⟨components, outer, inner⟩ := Option.bind_eq_some_iff.mp found
  exact Json.keyed_get (Json.keyed_get keyed outer) inner

def schemasOf (fields : Json.Fields) : List (Text × Schema) := fields.map fun field => (field.1, Schema.ofJson field.2)

theorem schemas_keys (fields : Json.Fields) : Ordered.keys (schemasOf fields) = Ordered.keys fields := by
  simp [schemasOf, Ordered.keys]

theorem schemas_get (name : Text) (fields : Json.Fields) :
    Ordered.get? name (schemasOf fields) = (Ordered.get? name fields).map Schema.ofJson :=
  Ordered.get_map name (fun _ => Schema.ofJson) fields

theorem schemas_apart {fields : Json.Fields} (apart : Ordered.WellFormed fields) : Ordered.WellFormed (schemasOf fields) := by
  rw [Ordered.WellFormed, schemas_keys]
  exact apart

theorem definitions_eq (root : Json) :
    definitionsOf root = Ordered.ofList (schemasOf (classicDefinitions root) ++ schemasOf (modernDefinitions root)) := by
  rw [schemasOf, schemasOf, ← List.map_append]
  rfl

theorem verb_at_none {verb : Verb} {fields : Json.Fields} (none : ∀ field ∈ fields, verb.isSpelled field.1 = false) :
    verbAt? verb fields = .none := by
  induction fields with
  | nil => rfl
  | cons field rest ih =>
    obtain ⟨first, others⟩ := List.forall_mem_cons.mp none
    have other : ¬ Verb.ofKey? field.1 = some verb := by
      rw [Verb.of_key_iff, first]
      exact Bool.false_ne_true
    rw [verbAt?, ih others, if_neg other]
    rfl

theorem verb_at_last {verb : Verb} {before after : Json.Fields} {key : Text} {v : Json} (spelled : verb.isSpelled key = true)
    (last : ∀ field ∈ after, verb.isSpelled field.1 = false) : verbAt? verb (before ++ (key, v) :: after) = some v := by
  induction before with
  | nil =>
    have own : Verb.ofKey? key = some verb := (Verb.of_key_iff key verb).mpr spelled
    rw [List.nil_append, verbAt?, verb_at_none last, if_pos own]
    rfl
  | cons field before ih =>
    rw [List.cons_append, verbAt?, ih]
    rfl

theorem verbs_in_eq (item : Json.Fields) : verbsIn item = (Ordered.keys item).filterMap Verb.ofKey? := by
  simp only [verbsIn, Verb.spelled_filter, List.filterMap_eq_flatMap_toList]

theorem item_read {route : Text} {item : Json.Fields} {operations : List (Verb × Operation)}
    (made : operationsFrom (parametersOf item) route [] item = .ok operations) : ReadsItem route item operations where
  verbs := by
    obtain ⟨entries, keys, -, put⟩ := operations_put made
    have whole : operations = Ordered.ofList entries := put
    rw [whole, Ordered.of_list_keys, keys, verbs_in_eq]
  last := by
    intro before after key fields verb split spelled last
    have there : verbAt? verb item = some (.obj fields) := split ▸ verb_at_last spelled last
    rw [operations_get made verb, there]
    rfl

theorem routes_read {routes : Json.Fields} {paths : List (Text × List (Verb × Operation))} (made : routesOf routes = .ok paths) :
    List.Forall₂ (fun entry path => path.1 = entry.1 ∧ ∃ item, entry.2 = .obj item ∧ ReadsItem path.1 item path.2)
      routes paths := by
  refine (routes_each made).imp ?_
  rintro entry path ⟨item, rfl, ran⟩
  exact ⟨rfl, item, rfl, item_read ran⟩

theorem of_json_parts {root : Json} {api : Api} (made : ofJson root = .ok api) :
    api.definitions = definitionsOf root ∧ routesOf (routesIn root) = .ok api.paths := by
  obtain ⟨definitions, ⟨missing, none⟩ | ⟨routes, found, ran⟩⟩ := of_json_source made
  · rw [routesIn, missing, none]
    exact ⟨definitions, rfl⟩
  · rw [routesIn, found]
    exact ⟨definitions, ran⟩

theorem of_json_read {root : Json} {api : Api} (keyed : root.isKeyed = true) (made : ofJson root = .ok api) : Reads root api := by
  obtain ⟨definitions, ran⟩ := of_json_parts made
  have classic := schemas_apart (classic_apart keyed)
  have modern := schemas_apart (modern_apart keyed)
  refine ⟨?_, ?_, routes_read ran⟩
  · rw [definitions, definitions_eq, Ordered.of_list_append_keys classic modern, schemas_keys, schemas_keys]
  · intro name
    rw [definitions, definitions_eq, Ordered.of_list_append_get classic modern, schemas_get, schemas_get, Option.map_or]

/-- A document is refused exactly if its routes, the entry of a route or the value under a verb in any case is no object. Any
other document is read: the definitions are those of the classic layout and then the new ones of the modern layout, which also
counts where both have a name, the routes are in their order, and each has its operations in the order of their verbs, of
which the last counts. -/
theorem documents_read_unless_malformed (root : Json) (keyed : root.isKeyed = true) :
    ((∃ e, ofJson root = .error e) ↔ Malformed root) ∧
    (¬ Malformed root → ∃ api, ofJson root = .ok api ∧ Reads root api) := by
  refine ⟨of_json_error_iff root, ?_⟩
  intro wellFormed
  cases made : ofJson root with
  | error e => exact absurd ((of_json_error_iff root).mp ⟨e, made⟩) wellFormed
  | ok api => exact ⟨api, rfl, of_json_read keyed made⟩

def crowdedDocument : Json :=
  .obj [("components".toList, .obj [("schemas".toList, .obj [("C".toList, .null), ("A".toList, .obj [])])]),
    ("definitions".toList, .obj [("A".toList, .null), ("B".toList, .null)]),
    ("paths".toList, .obj [("/a".toList, .obj [("Get".toList, .obj [("summary".toList, .str "one".toList)]), ("x".toList, .null),
      ("post".toList, .obj []), ("GET".toList, .obj [("summary".toList, .str "two".toList)])])])]

theorem crowded_document_is_read :
    crowdedDocument.isKeyed = true ∧ ¬ Malformed crowdedDocument ∧
      ∃ api, ofJson crowdedDocument = .ok api ∧ Reads crowdedDocument api ∧
        Ordered.keys api.definitions = ["A".toList, "B".toList, "C".toList] := by
  have keyed : crowdedDocument.isKeyed = true := by decide
  obtain ⟨refused, accepted⟩ := documents_read_unless_malformed crowdedDocument keyed
  have sound : ¬ Malformed crowdedDocument := by
    intro malformed
    obtain ⟨e, error⟩ := refused.mpr malformed
    cases error
  obtain ⟨api, made, reads⟩ := accepted sound
  exact ⟨keyed, sound, api, made, reads, reads.names.trans (by decide)⟩

end Api

end ApiTypes
