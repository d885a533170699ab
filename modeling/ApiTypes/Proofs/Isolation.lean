import Mathlib.Data.List.Forall2
import ApiTypes.Proofs.Collisions
/-!
Named schemas do not touch one another. The text that comes out under a name is that of the last definition with that
name, laid out if it can be, and nothing else has a part in it. So a change to one schema is seen under its own name only,
and whether a strict run fails is a matter of the keys alone.
-/
namespace ApiTypes

namespace Api

def namesOf (definitions : List (Text × Schema)) : List Text := definitions.map fun d => Naming.ofDefinition d.1

def lastNamed? (definitions : List (Text × Schema)) (name : Text) : Option (Text × Schema) :=
  definitions.reverse.find? fun d => Naming.ofDefinition d.1 == name

/-- Definitions with the same keys, of which only one key may have another schema. -/
def DifferOnlyAt (key : Text) (definitions others : List (Text × Schema)) : Prop :=
  List.Forall₂ (fun d e => d.1 = e.1 ∧ (d.1 ≠ key → d.2 = e.2)) definitions others

section Runs

variable (config : Config) (formatter : Formatter)

def definitionTexts (definitions : List (Text × Schema)) : List (Text × Text) :=
  Ordered.ofList (definitions.map fun d => definitionText config formatter d.1 d.2)

theorem definition_texts_keys (definitions : List (Text × Schema)) :
    Ordered.keys (definitionTexts config formatter definitions) = (namesOf definitions).eraseDups := by
  rw [definitionTexts, Ordered.of_list_keys]
  simp only [Ordered.keys, List.map_map]
  rfl

theorem definition_texts_get (definitions : List (Text × Schema)) (name : Text) :
    Ordered.get? name (definitionTexts config formatter definitions) =
      (lastNamed? definitions name).map fun d => formatter.orEmpty config.indentWidth (d.2.declare name .definition) := by
  have listed : Ordered.get? name (definitionTexts config formatter definitions) =
      (lastNamed? definitions name).map fun d => (definitionText config formatter d.1 d.2).2 := by
    rw [definitionTexts, Ordered.ofList, Ordered.put_all_get, Ordered.get?, Option.or_none, ← List.map_reverse,
      List.find?_map, Option.map_map]
    rfl
  rw [listed]
  -- The name in the text is that of the definition, which is the one that was looked up.
  cases found : lastNamed? definitions name with
  | none => rfl
  | some d =>
    have named : Naming.ofDefinition d.1 = name := by simpa using List.find?_some found
    simp only [Option.map_some, definitionText, named]

theorem lenient_definitions (definitions : List (Text × Schema)) :
    generateDefinitions { config with strictNames := false } formatter definitions =
      .ok (definitionTexts config formatter definitions) := rfl

theorem strict_definitions_fail_iff (definitions : List (Text × Schema)) :
    (∃ c, generateDefinitions { config with strictNames := true } formatter definitions = .error c) ↔
      ¬ (namesOf definitions).Nodup := by
  have names : (definitionNames definitions).map Prod.fst = namesOf definitions := by
    simp only [definitionNames, namesOf, List.map_map]
    rfl
  rw [← names, ← Collision.find_none_iff]
  constructor
  · rintro ⟨c, failed⟩ free
    rw [(Collision.guard_error_iff _).mp failed] at free
    simp at free
  · intro taken
    obtain ⟨c, found⟩ := Option.ne_none_iff_exists'.mp taken
    exact ⟨c, (Collision.guard_error_iff _).mpr found⟩

theorem strict_definitions_agree (definitions : List (Text × Schema)) (apart : (namesOf definitions).Nodup) :
    generateDefinitions { config with strictNames := true } formatter definitions =
      .ok (definitionTexts config formatter definitions) := by
  cases ran : generateDefinitions { config with strictNames := true } formatter definitions with
  | ok out => exact congrArg Except.ok (Layout.guard_ok ran)
  | error c => exact absurd apart ((strict_definitions_fail_iff config formatter definitions).mp ⟨c, ran⟩)

end Runs

theorem DifferOnlyAt.names {key : Text} {definitions others : List (Text × Schema)}
    (differ : DifferOnlyAt key definitions others) : namesOf others = namesOf definitions := by
  induction differ with
  | nil => rfl
  | cons pair _ ih => simp only [namesOf, List.map_cons, pair.1] at ih ⊢; rw [ih]

/- A definition that comes out under another name than that of the key is the same in both lists. -/
theorem find_alike {key name : Text} {definitions others : List (Text × Schema)}
    (differ : DifferOnlyAt key definitions others) (other : name ≠ Naming.ofDefinition key) :
    others.find? (fun d => Naming.ofDefinition d.1 == name) =
      definitions.find? fun d => Naming.ofDefinition d.1 == name := by
  induction differ with
  | nil => rfl
  | @cons d e ds es pair _ ih =>
    obtain ⟨sameKey, sameSchema⟩ := pair
    by_cases named : Naming.ofDefinition d.1 = name
    · have elsewhere : d.1 ≠ key := by
        intro here
        rw [here] at named
        exact other named.symm
      have same : e = d := Prod.ext sameKey.symm (sameSchema elsewhere).symm
      rw [same]
      simp [named]
    · have unnamed : Naming.ofDefinition e.1 ≠ name := sameKey ▸ named
      simp [named, unnamed, ih]

theorem DifferOnlyAt.last_named {key name : Text} {definitions others : List (Text × Schema)}
    (differ : DifferOnlyAt key definitions others) (other : name ≠ Naming.ofDefinition key) :
    lastNamed? others name = lastNamed? definitions name :=
  find_alike (List.rel_reverse differ) other

end Api

/-- A run that is not strict never fails. It has the names of the definitions in the order in which they first come, and
under each the text of the last definition with that name, or nothing if that cannot be laid out. Where only the schema of
one key is different, all other names have the same texts. A strict run fails exactly if two names are the same, and
otherwise gives what the other run gives. -/
theorem definitions_are_isolated (config : Config) (formatter : Formatter) (definitions : List (Text × Schema)) :
    ∃ out, Api.generateDefinitions { config with strictNames := false } formatter definitions = .ok out ∧
      Ordered.keys out = (Api.namesOf definitions).eraseDups ∧
      (∀ name, Ordered.get? name out = (Api.lastNamed? definitions name).map fun d =>
        formatter.orEmpty config.indentWidth (d.2.declare name .definition)) ∧
      (∀ key others, Api.DifferOnlyAt key definitions others →
        ∃ out', Api.generateDefinitions { config with strictNames := false } formatter others = .ok out' ∧
          Ordered.keys out' = Ordered.keys out ∧
          ∀ name, name ≠ Naming.ofDefinition key → Ordered.get? name out' = Ordered.get? name out) ∧
      ((∃ c, Api.generateDefinitions { config with strictNames := true } formatter definitions = .error c) ↔
        ¬ (Api.namesOf definitions).Nodup) ∧
      ((Api.namesOf definitions).Nodup →
        Api.generateDefinitions { config with strictNames := true } formatter definitions = .ok out) := by
  refine ⟨Api.definitionTexts config formatter definitions, Api.lenient_definitions config formatter definitions,
    Api.definition_texts_keys config formatter definitions, Api.definition_texts_get config formatter definitions, ?_,
    Api.strict_definitions_fail_iff config formatter definitions,
    Api.strict_definitions_agree config formatter definitions⟩
  intro key others differ
  refine ⟨Api.definitionTexts config formatter others, Api.lenient_definitions config formatter others, ?_, ?_⟩
  · rw [Api.definition_texts_keys, Api.definition_texts_keys, differ.names]
  · intro name other
    rw [Api.definition_texts_get, Api.definition_texts_get, differ.last_named other]

def kennel (tag : Schema) : List (Text × Schema) :=
  [("pet".toList, .primitive Notes.none .number), ("tag".toList, tag), ("Pet".toList, .primitive Notes.none .string)]

def picky : Formatter := fun width t =>
  if Text.includes "Tag".toList t then .error .openBracket else Layout.format width t

theorem refused_tag_leaves_pets_alone :
    Api.DifferOnlyAt "tag".toList (kennel (.any Notes.none)) (kennel (.listOf Notes.none (.any Notes.none))) ∧
    ∃ out out', Api.generateDefinitions Config.standard picky (kennel (.any Notes.none)) = .ok out ∧
      Api.generateDefinitions Config.standard picky (kennel (.listOf Notes.none (.any Notes.none))) = .ok out' ∧
      Ordered.get? "Tag".toList out = some [] ∧
      Ordered.get? "Pet".toList out = some "export type Pet = string;\n".toList ∧
      Ordered.get? "Pet".toList out' = Ordered.get? "Pet".toList out := by
  have differ : Api.DifferOnlyAt "tag".toList (kennel (.any Notes.none)) (kennel (.listOf Notes.none (.any Notes.none))) := by
    simp [Api.DifferOnlyAt, kennel]
  obtain ⟨out, ran, -, texts, isolated, -⟩ := definitions_are_isolated Config.standard picky (kennel (.any Notes.none))
  obtain ⟨out', ran', -, same⟩ := isolated _ _ differ
  refine ⟨differ, out, out', ran, ran', ?_, ?_, same _ (by decide +kernel)⟩
  · rw [texts]
    decide +kernel
  · rw [texts]
    decide +kernel

end ApiTypes
