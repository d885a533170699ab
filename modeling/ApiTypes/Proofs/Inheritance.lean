import ApiTypes.Proofs.Dialects
import ApiTypes.Proofs.PropertyNames
/-!
The parameters of an operation. Those of its route hold for it, too, unless it has a parameter of its own in the same place,
that is with the same name and the same location. Entries that cannot be used take no part in this: they hide nothing.
-/
namespace ApiTypes.Api

open Json (itemsAt)

/-! ### Entries -/

def placeOf? (v : Json) : Option (Text × Location) :=
  match v.get? "name".toList, v.get? "in".toList with
  | some (.str name), some (.str location) => (Location.ofName? location).map (name, ·)
  | _, _ => none

/-- An entry is read exactly if it can be used, and keeps its place. -/
theorem parameter_place (v : Json) : (parameter? v).map Parameter.place = placeOf? v := by
  cases v with
  | obj fields =>
    simp only [parameter?, placeOf?, Json.asFields?, Json.get?, Json.textAt?, bind, Option.bind_some]
    rcases Ordered.get? "name".toList fields with _ | named
    · rfl
    · cases named with
      | str name =>
        rcases Ordered.get? "in".toList fields with _ | located
        · rfl
        · cases located with
          | str location =>
            simp only [Option.bind_some, Json.asText?]
            cases Location.ofName? location <;> rfl
          | null | bool _ | num _ | arr _ | obj _ => rfl
      | null | bool _ | num _ | arr _ | obj _ => rfl
  | null | bool _ | num _ | str _ | arr _ => rfl

theorem parameter_raw {v : Json} {p : Parameter} (read : parameter? v = some p) : p.raw = v := by
  simp only [parameter?, bind, Option.bind_eq_some_iff, pure, Option.some.injEq] at read
  obtain ⟨fields, -, name, -, location, -, rfl⟩ := read
  rfl

def isUsable (v : Json) : Bool := (placeOf? v).isSome

theorem entries_raw (entries : List Json) : (entries.filterMap parameter?).map Parameter.raw = entries.filter isUsable := by
  induction entries with
  | nil => rfl
  | cons v entries ih =>
    have place := parameter_place v
    cases read : parameter? v with
    | none =>
      have unusable : ¬ isUsable v = true := by simp [isUsable, ← place, read]
      rw [List.filterMap_cons_none read, ih, List.filter_cons_of_neg unusable]
    | some p =>
      have usable : isUsable v = true := by simp [isUsable, ← place, read]
      rw [List.filterMap_cons_some read, List.map_cons, ih, List.filter_cons_of_pos usable, parameter_raw read]

theorem entries_places (entries : List Json) :
    (entries.filterMap parameter?).map Parameter.place = entries.filterMap placeOf? := by
  rw [List.map_filterMap]
  exact List.filterMap_congr fun v _ => parameter_place v

theorem entries_find (entries : List Json) (place : Text × Location) :
    ((entries.filterMap parameter?).find? (·.place == place)).map Parameter.raw =
      entries.find? (placeOf? · == some place) := by
  have here : ∀ v, (parameter? v).any (·.place == place) = (placeOf? v == some place) := by
    intro v
    rw [← parameter_place]
    cases parameter? v <;> simp
  simp only [List.find?_filterMap, here]
  cases found : entries.find? (placeOf? · == some place) with
  | none => rfl
  | some v =>
    have taken := List.find?_some found
    rw [← here, Option.any_eq_true] at taken
    obtain ⟨p, read, -⟩ := taken
    rw [Option.bind_some, read, Option.map_some, parameter_raw read]

/-! ### Parameters of the route and of the operation -/

theorem hidden_iff (own : List Parameter) (c : Parameter) :
    own.any (inSamePlace · c) = true ↔ c.place ∈ own.map Parameter.place := by
  simp only [List.any_eq_true, same_place_iff, List.mem_map]

theorem inherit_find (common own : List Parameter) (place : Text × Location) :
    (inherit common own).find? (·.place == place) =
      (own.find? (·.place == place)).or (common.find? (·.place == place)) := by
  rw [inherit, List.find?_append]
  by_cases taken : place ∈ own.map Parameter.place
  · -- The operation has a parameter in this place, and all that the route has there are hidden.
    have hidden : (common.filter fun c => !own.any (inSamePlace · c)).find? (·.place == place) = none := by
      rw [List.find?_eq_none]
      intro c kept here
      have free : own.any (inSamePlace · c) = false := by simpa using (List.mem_filter.mp kept).2
      rw [← beq_iff_eq.mp here, ← hidden_iff, free] at taken
      cases taken
    have found : (own.find? (·.place == place)).isSome = true := by
      rw [List.find?_isSome]
      obtain ⟨o, listed, here⟩ := List.mem_map.mp taken
      exact ⟨o, listed, beq_iff_eq.mpr here⟩
    rw [hidden, Option.none_or, Option.or_of_isSome found]
  · -- It has none, and of what the route has in this place nothing is left out.
    have missing : own.find? (·.place == place) = none := by
      rw [List.find?_eq_none]
      intro o listed here
      exact taken (List.mem_map.mpr ⟨o, listed, beq_iff_eq.mp here⟩)
    have kept : (common.filter fun c => !own.any (inSamePlace · c)).filter (·.place == place) =
        common.filter (·.place == place) := by
      rw [List.filter_filter]
      apply List.filter_congr
      intro c _
      by_cases here : c.place = place
      · have free : own.any (inSamePlace · c) = false := by
          rw [← Bool.not_eq_true, hidden_iff, here]
          exact taken
        simp [free]
      · simp [here]
    rw [missing, Option.or_none, Option.none_or, ← List.head?_filter, kept, List.head?_filter]

/-- What an operation takes over from the entries of its route, besides its own entries. -/
structure Inherits (common own : List Json) (merged : List Parameter) : Prop where
  /-- Every parameter is an entry that has been read. -/
  read : ∀ p ∈ merged, parameter? p.raw = some p
  distinct : (merged.map Parameter.place).Nodup
  /-- In every place stands the entry of the operation, or else that of the route. -/
  chosen : ∀ place, (merged.find? (·.place == place)).map Parameter.raw =
    (own.find? (placeOf? · == some place)).or (common.find? (placeOf? · == some place))
  /-- Entries of the route come first, and all are in their order. -/
  ordered : ∃ kept, merged.map Parameter.raw = kept ++ own.filter isUsable ∧ kept.Sublist common

theorem inherits {common own : List Json} (ofRoute : (common.filterMap placeOf?).Nodup)
    (ofOperation : (own.filterMap placeOf?).Nodup) :
    Inherits common own (inherit (common.filterMap parameter?) (own.filterMap parameter?)) where
  read := by
    intro p mem
    have listed : p ∈ common.filterMap parameter? ∨ p ∈ own.filterMap parameter? := by
      rcases List.mem_append.mp mem with kept | stated
      · exact Or.inl (List.mem_of_mem_filter kept)
      · exact Or.inr stated
    rcases listed with entry | entry
    all_goals
      obtain ⟨v, -, read⟩ := List.mem_filterMap.mp entry
      rw [parameter_raw read, read]
  distinct := by
    rw [← entries_places] at ofRoute ofOperation
    exact inherit_places ofRoute ofOperation
  chosen := by
    intro place
    rw [inherit_find, Option.map_or, entries_find, entries_find]
  ordered := by
    let kept := (common.filterMap parameter?).filter fun c => !(own.filterMap parameter?).any (inSamePlace · c)
    refine ⟨kept.map Parameter.raw, ?_, ?_⟩
    · rw [inherit, List.map_append, entries_raw]
    · apply (List.filter_sublist.map Parameter.raw).trans
      rw [entries_raw]
      exact List.filter_sublist

def requestBody? (fields : Json.Fields) : Option Json.Fields :=
  (Ordered.get? "requestBody".toList fields).bind Json.asFields?

theorem body_parameters_none {fields : Json.Fields} (none : requestBody? fields = .none) : bodyParameters fields = [] := by
  unfold requestBody? at none
  rw [bodyParameters, none]

theorem body_parameters_one {fields body : Json.Fields} (found : requestBody? fields = some body) :
    bodyParameters fields = [bodyParameter body] := by
  unfold requestBody? at found
  rw [bodyParameters, found]

/-- Every operation of a description takes over the parameters of its route that it has none in the place of. If there is a
body of the request, it comes last, as one more parameter. -/
theorem parameters_are_inherited (doc : Json) (api : Api) (route : Text) (operations : List (Verb × Operation)) (verb : Verb)
    (op : Operation) (keyed : doc.isKeyed = true) (read : ofJson doc = .ok api) (atRoute : (route, operations) ∈ api.paths)
    (under : (verb, op) ∈ operations) :
    ∃ item fields, itemAt? doc route = some item ∧ operationAt? item verb = some fields ∧
      (((itemsAt item "parameters".toList).filterMap placeOf?).Nodup →
        ((itemsAt fields "parameters".toList).filterMap placeOf?).Nodup →
        ∃ merged, Inherits (itemsAt item "parameters".toList) (itemsAt fields "parameters".toList) merged ∧
          (requestBody? fields = none → op.parameters = merged) ∧
          ∀ body, requestBody? fields = some body →
            ∃ p, p.name = "body".toList ∧ p.location = .body ∧ p.raw = .obj body ∧ op.parameters = merged ++ [p]) := by
  obtain ⟨item, fields, atItem, atVerb, -, -, source⟩ := operation_source keyed read atRoute under
  refine ⟨item, fields, atItem, atVerb, ?_⟩
  intro ofRoute ofOperation
  have parts : op.parameters = inherit ((itemsAt item "parameters".toList).filterMap parameter?)
      ((itemsAt fields "parameters".toList).filterMap parameter?) ++ bodyParameters fields := by
    rw [source, operation, Modern.parameters_of_items, Modern.parameters_of_items]
  refine ⟨_, inherits ofRoute ofOperation, ?_, ?_⟩
  · intro none
    rw [parts, body_parameters_none none, List.append_nil]
  · intro body found
    exact ⟨bodyParameter body, rfl, rfl, rfl, by rw [parts, body_parameters_one found]⟩

def replaceDocument : Json :=
  documentOf "/pets/\x7bid\x7d"
    [parameterValue "id" "path" "string", parameterValue "trace" "header" "string", parameterValue "id" "query" "string"] "Put"
    [("parameters".toList, .arr [parameterValue "trace" "cookie" "string", parameterValue "id" "path" "integer", .null]),
      ("requestBody".toList, .obj [])]

theorem replace_parameters_inherited :
    replaceDocument.isKeyed = true ∧ ∃ api operations op merged p, ofJson replaceDocument = .ok api ∧
      ("/pets/\x7bid\x7d".toList, operations) ∈ api.paths ∧ (Verb.put, op) ∈ operations ∧
      Inherits
        [parameterValue "id" "path" "string", parameterValue "trace" "header" "string", parameterValue "id" "query" "string"]
        [parameterValue "trace" "cookie" "string", parameterValue "id" "path" "integer", .null] merged ∧
      op.parameters = merged ++ [p] ∧ p.place = ("body".toList, .body) := by
  have keyed : replaceDocument.isKeyed = true := by decide
  obtain ⟨item, fields, atItem, atVerb, rule⟩ := parameters_are_inherited replaceDocument _ "/pets/\x7bid\x7d".toList _ .put _
    keyed rfl List.mem_cons_self List.mem_cons_self
  cases atItem
  cases atVerb
  obtain ⟨merged, inherits, -, body⟩ := rule (by decide) (by decide)
  obtain ⟨p, name, location, -, parts⟩ := body [] rfl
  exact ⟨keyed, _, _, _, merged, p, rfl, List.mem_cons_self, List.mem_cons_self, inherits, parts, Prod.ext name location⟩

end ApiTypes.Api
