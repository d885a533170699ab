import ApiTypes.Artifact
/-!
The response that an operation's answer is declared from. It is the one under 200 if that is an object or an array, and
else the first array among all. The declaration, its comment and the raw schema are all taken from this response, and
only the mark of arrays looks at the one under 200 by itself: it is set exactly if that one is an array.
-/
namespace ApiTypes.Operation

def AnswersArray (r : Response) : Prop := ∃ s, r.schema = some s ∧ s.isArray = true

def AnswersShape (r : Response) : Prop := ∃ s, r.schema = some s ∧ (s.isObject = true ∨ s.isArray = true)

inductive Selects (responses : List (Text × Response)) : Response → Schema → Prop
  | success {r : Response} {s : Schema} (found : Ordered.get? "200".toList responses = some r) (schema : r.schema = some s)
      (shape : s.isObject = true ∨ s.isArray = true) : Selects responses r s
  | firstArray {before after : List (Text × Response)} {code : Text} {r : Response} {s : Schema}
      (unfit : ∀ ok, Ordered.get? "200".toList responses = some ok → ¬ AnswersShape ok)
      (split : responses = before ++ (code, r) :: after) (earlier : ∀ entry ∈ before, ¬ AnswersArray entry.2)
      (schema : r.schema = some s) (array : s.isArray = true) : Selects responses r s

/-! ### What is selected -/

theorem satisfies_iff (p : Schema → Bool) (r : Response) : r.satisfies p = true ↔ ∃ s, r.schema = some s ∧ p s = true := by
  unfold Response.satisfies
  cases r.schema <;> simp

theorem answers_array_iff (r : Response) : r.satisfies Schema.isArray = true ↔ AnswersArray r := satisfies_iff _ r

theorem answers_shape_iff (r : Response) : r.satisfies isRecordOrArray = true ↔ AnswersShape r := by
  rw [satisfies_iff, AnswersShape]
  simp [isRecordOrArray]

theorem array_shape {r : Response} (array : AnswersArray r) : AnswersShape r := by
  obtain ⟨s, schema, isArray⟩ := array
  exact ⟨s, schema, Or.inr isArray⟩

theorem first_array_iff (responses : List (Text × Response)) (r : Response) :
    (responses.map Prod.snd).find? (Response.satisfies Schema.isArray) = some r ↔
      AnswersArray r ∧ ∃ before code after, responses = before ++ (code, r) :: after ∧
        ∀ entry ∈ before, ¬ AnswersArray entry.2 := by
  rw [List.find?_eq_some_iff_append, answers_array_iff]
  refine and_congr_right fun _ => ?_
  constructor
  · rintro ⟨before, after, split, earlier⟩
    obtain ⟨firsts, rest, rfl, rfl, later⟩ := List.map_eq_append_iff.mp split
    obtain ⟨⟨code, r'⟩, lasts, rfl, rfl, rfl⟩ := List.map_eq_cons_iff.mp later
    refine ⟨firsts, code, lasts, rfl, fun entry mem array => ?_⟩
    have other := earlier entry.2 (List.mem_map_of_mem mem)
    rw [(answers_array_iff entry.2).mpr array] at other
    cases other
  · rintro ⟨before, code, after, rfl, earlier⟩
    refine ⟨before.map Prod.snd, after.map Prod.snd, by simp, fun other mem => ?_⟩
    obtain ⟨entry, listed, rfl⟩ := List.mem_map.mp mem
    rw [Bool.not_eq_true', ← Bool.not_eq_true, answers_array_iff]
    exact earlier entry listed

theorem fit_iff (op : Operation) (r : Response) :
    op.okResponse?.filter (Response.satisfies isRecordOrArray) = some r ↔
      Ordered.get? "200".toList op.responses = some r ∧ AnswersShape r := by
  rw [Option.filter_eq_some_iff, answers_shape_iff]
  rfl

theorem unfit_iff (op : Operation) :
    op.okResponse?.filter (Response.satisfies isRecordOrArray) = none ↔
      ∀ ok, Ordered.get? "200".toList op.responses = some ok → ¬ AnswersShape ok := by
  rw [Option.eq_none_iff_forall_ne_some]
  refine forall_congr' fun ok => ?_
  rw [Ne, fit_iff, not_and]

theorem selected_iff (op : Operation) (r : Response) (s : Schema) :
    op.selected? = some r ∧ r.schema = some s ↔ Selects op.responses r s := by
  rw [selected?, Option.or_eq_some_iff, fit_iff, unfit_iff, first_array_iff]
  constructor
  · rintro ⟨⟨found, s', schema', shape⟩ | ⟨unfit, ⟨s', schema', array⟩, before, code, after, split, earlier⟩, schema⟩
    · rw [schema] at schema'
      cases schema'
      exact .success found schema shape
    · rw [schema] at schema'
      cases schema'
      exact .firstArray unfit split earlier schema array
  · rintro (⟨found, schema, shape⟩ | @⟨before, after, code, _, _, unfit, split, earlier, schema, array⟩)
    · exact ⟨Or.inl ⟨found, s, schema, shape⟩, schema⟩
    · exact ⟨Or.inr ⟨unfit, ⟨s, schema, array⟩, before, code, after, split, earlier⟩, schema⟩

theorem Selects.unique {op : Operation} {r r' : Response} {s s' : Schema} (one : Selects op.responses r s)
    (other : Selects op.responses r' s') : r' = r ∧ s' = s := by
  obtain ⟨selected, schema⟩ := (selected_iff op r s).mpr one
  obtain ⟨selected', schema'⟩ := (selected_iff op r' s').mpr other
  rw [selected] at selected'
  cases selected'
  rw [schema] at schema'
  cases schema'
  exact ⟨rfl, rfl⟩

/-- Something is selected as soon as there is an array anywhere. -/
theorem selects_iff (op : Operation) :
    (∃ r s, Selects op.responses r s) ↔
      (∃ r, Ordered.get? "200".toList op.responses = some r ∧ AnswersShape r) ∨
        ∃ entry ∈ op.responses, AnswersArray entry.2 := by
  constructor
  · rintro ⟨r, s, ⟨found, schema, shape⟩ | @⟨before, after, code, _, _, -, split, -, schema, array⟩⟩
    · exact Or.inl ⟨r, found, s, schema, shape⟩
    · exact Or.inr ⟨(code, r), by simp [split], s, schema, array⟩
  · intro there
    cases fit : op.okResponse?.filter (Response.satisfies isRecordOrArray) with
    | some r =>
      obtain ⟨found, s, schema, shape⟩ := (op.fit_iff r).mp fit
      exact ⟨r, s, .success found schema shape⟩
    | none =>
      have unfit := op.unfit_iff.mp fit
      rcases there with ⟨ok, found, shape⟩ | ⟨entry, listed, array⟩
      · exact absurd shape (unfit ok found)
      · have some : ((op.responses.map Prod.snd).find? (Response.satisfies Schema.isArray)).isSome = true := by
          rw [List.find?_isSome]
          exact ⟨entry.2, List.mem_map_of_mem listed, (answers_array_iff entry.2).mpr array⟩
        obtain ⟨r, first⟩ := Option.isSome_iff_exists.mp some
        obtain ⟨⟨s, schema, isArray⟩, before, code, after, split, earlier⟩ := (first_array_iff _ _).mp first
        exact ⟨r, s, .firstArray unfit split earlier schema isArray⟩

/-! ### What is made of it -/

def declaredFrom (op : Operation) (config : Config) (formatter : Formatter) (r : Response) (s : Schema) : Declared where
  name := op.declarationName config .entity
  text := formatter.orEmpty config.indentWidth ((describe s r.description).declare (op.declarationName config .entity) .entity)
  raw := if config.includeRawSchema then r.raw.map Json.pretty else none

theorem entity_iff (op : Operation) (config : Config) (formatter : Formatter) (d : Declared) :
    op.entity? config formatter = some d ↔ ∃ r s, Selects op.responses r s ∧ d = op.declaredFrom config formatter r s := by
  simp only [entity?, Option.bind_eq_bind, Option.bind_eq_some_iff, Option.pure_def, Option.some.injEq, ← selected_iff]
  constructor
  · rintro ⟨r, selected, s, schema, rfl⟩
    exact ⟨r, s, ⟨selected, schema⟩, rfl⟩
  · rintro ⟨r, s, ⟨selected, schema⟩, rfl⟩
    exact ⟨r, selected, s, schema, rfl⟩

theorem entity_some_iff (op : Operation) (config : Config) (formatter : Formatter) :
    (op.entity? config formatter).isSome = true ↔ ∃ r s, Selects op.responses r s := by
  rw [Option.isSome_iff_exists]
  constructor
  · rintro ⟨d, made⟩
    obtain ⟨r, s, selects, -⟩ := (op.entity_iff config formatter d).mp made
    exact ⟨r, s, selects⟩
  · rintro ⟨r, s, selects⟩
    exact ⟨_, (op.entity_iff config formatter _).mpr ⟨r, s, selects, rfl⟩⟩

theorem ok_array_iff (op : Operation) :
    (op.okResponse?.map (Response.satisfies Schema.isArray)).getD false = true ↔
      ∃ r, Ordered.get? "200".toList op.responses = some r ∧ AnswersArray r := by
  change ((Ordered.get? "200".toList op.responses).map _).getD false = true ↔ _
  cases Ordered.get? "200".toList op.responses with
  | none => simp
  | some r => simpa using answers_array_iff r

/-- An artifact declares an answer exactly if the response under 200 is an object or an array or if any response is an
array. One response is selected then, the one under 200 if it is such and else the first array; the declaration, its
comment and the raw schema are all made from it. The artifact is marked as one of an array exactly if the response under 200
is an array. -/
theorem selected_response_is_declared (op : Operation) (config : Config) (formatter : Formatter) :
    ((op.artifact config formatter).entity.isSome = true ↔
      (∃ r, Ordered.get? "200".toList op.responses = some r ∧ AnswersShape r) ∨
        ∃ entry ∈ op.responses, AnswersArray entry.2) ∧
    (∀ d, (op.artifact config formatter).entity = some d → ∃ r s, Selects op.responses r s ∧
      (∀ r' s', Selects op.responses r' s' → r' = r ∧ s' = s) ∧
      d.name = op.declarationName config .entity ∧
      d.text = formatter.orEmpty config.indentWidth ((describe s r.description).declare d.name .entity) ∧
      d.raw = if config.includeRawSchema then r.raw.map Json.pretty else none) ∧
    ((op.artifact config formatter).isArrayEntity = true ↔
      ∃ r, Ordered.get? "200".toList op.responses = some r ∧ AnswersArray r) := by
  have some := (op.entity_some_iff config formatter).trans op.selects_iff
  refine ⟨some, ?_, ?_⟩
  · intro d made
    obtain ⟨r, s, selects, rfl⟩ := (op.entity_iff config formatter d).mp made
    exact ⟨r, s, selects, fun _ _ => selects.unique, rfl, rfl, rfl⟩
  · change ((op.entity? config formatter).isSome && _) = true ↔ _
    rw [Bool.and_eq_true, ok_array_iff]
    constructor
    · exact And.right
    · rintro ⟨r, found, array⟩
      exact ⟨some.mpr (Or.inl ⟨r, found, array_shape array⟩), r, found, array⟩

end ApiTypes.Operation
