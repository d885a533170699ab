import Mathlib.Data.List.Nodup
import ApiTypes.Proofs.Exports
import ApiTypes.Proofs.Ordered
/-!
Which collision of names a strict run reports. The names of all artifacts are read in their order, and what is known of
them so far is just the names that have been read. So a run fails where a name comes a second time, at the first such
place, and names the two operations that have it. They are two, because the names of one operation end differently.
-/
namespace ApiTypes

/-! ### The first name that comes again -/

namespace Collision

/- As long as no name has come twice, putting a name among the owners is writing it down behind the others. -/
theorem find_from_some {seen names : List (Text × Text)} {c : Collision} (apart : (seen.map Prod.fst).Nodup)
    (found : findFrom seen names = some c) :
    ∃ before after, seen ++ names = before ++ (c.name, c.second) :: after ∧ (before.map Prod.fst).Nodup ∧
      (c.name, c.first) ∈ before := by
  induction names generalizing seen with
  | nil => simp [findFrom] at found
  | cons next names ih =>
    obtain ⟨name, owner⟩ := next
    rw [findFrom] at found
    cases taken : Ordered.get? name seen with
    | some first =>
      simp only [taken, Option.some.injEq] at found
      subst found
      exact ⟨seen, names, rfl, apart, Ordered.get_mem taken⟩
    | none =>
      have new : name ∉ seen.map Prod.fst := Ordered.get_none_key taken
      simp only [taken] at found
      rw [Ordered.put_new new] at found
      have longer : ((seen ++ [(name, owner)]).map Prod.fst).Nodup := by
        rw [List.map_append]
        refine apart.append (List.nodup_singleton name) ?_
        intro n old own
        rw [List.mem_singleton.mp own] at old
        exact new old
      have later := ih longer found
      rwa [List.append_assoc, List.singleton_append] at later

theorem find_some {names : List (Text × Text)} {c : Collision} (found : find? names = some c) :
    ∃ before after, names = before ++ (c.name, c.second) :: after ∧ (before.map Prod.fst).Nodup ∧
      (c.name, c.first) ∈ before :=
  find_from_some (by simp) found

theorem find_none_iff {names : List (Text × Text)} : find? names = none ↔ (names.map Prod.fst).Nodup := by
  constructor
  · intro free
    exact (find_from_none free).1
  · intro apart
    cases found : find? names with
    | none => rfl
    | some c =>
      obtain ⟨before, after, rfl, -, earlier⟩ := find_some found
      rw [List.map_append, List.map_cons] at apart
      have twice := (List.nodup_append.mp apart).2.2 c.name (List.mem_map_of_mem earlier) c.name (by simp)
      exact absurd rfl twice

theorem guard_error_iff {α : Type} {names : List (Text × Text)} (result : α) {c : Collision} :
    guard true names result = .error c ↔ find? names = some c := by
  unfold guard
  cases find? names <;> simp

end Collision

/-! ### The names of all artifacts -/

structure Occurrence where
  name : Text
  verb : Verb
  route : Text

namespace Occurrence

def owner (o : Occurrence) : Text := o.verb.name ++ [' '] ++ o.route

def SameOperation (a b : Occurrence) : Prop := a.verb = b.verb ∧ a.route = b.route

theorem verb_solid (verb : Verb) : ' ' ∉ verb.name := by
  cases verb <;> decide

theorem verb_of_name {v w : Verb} (same : v.name = w.name) : v = w := by
  have all : ∀ v ∈ Verb.all, ∀ w ∈ Verb.all, v.name = w.name → v = w := by decide
  exact all v (by cases v <;> decide) w (by cases w <;> decide) same

theorem same_of_owner {a b : Occurrence} (same : a.owner = b.owner) : SameOperation a b := by
  simp only [owner, List.append_assoc, List.singleton_append] at same
  obtain ⟨verbs, routes⟩ := Text.append_mark_inj (verb_solid a.verb) (verb_solid b.verb) same
  exact ⟨verb_of_name verbs, routes⟩

end Occurrence

def Artifact.occurrences (a : Artifact) : List Occurrence :=
  (a.entity.toList ++ a.params.toList).map fun d => ⟨d.name, a.verb, a.route⟩

namespace Api

def occurrences (artifacts : Artifacts) : List Occurrence :=
  artifacts.flatMap fun (_, ofRoute) => ofRoute.flatMap Artifact.occurrences

theorem artifact_names_occurrences (artifacts : Artifacts) :
    artifactNames artifacts = (occurrences artifacts).map fun o => (o.name, o.owner) := by
  simp only [artifactNames, occurrences, List.map_flatMap, Artifact.occurrences, Artifact.names, Artifact.declared,
    List.map_map]
  rfl

/-- No route comes twice, and no verb comes twice under a route. -/
structure Keyed (api : Api) : Prop where
  routes : Ordered.WellFormed api.paths
  verbs : ∀ entry ∈ api.paths, Ordered.WellFormed entry.2

end Api

/-! ### Operations do not collide with themselves -/

namespace Occurrence

def Apart (a b : Occurrence) : Prop := SameOperation a b → a.name ≠ b.name

end Occurrence

namespace Operation

variable (op : Operation) (config : Config) (formatter : Formatter)

theorem entity_name {d : Declared} (made : op.entity? config formatter = some d) :
    d.name = op.declarationName config .entity := by
  simp only [entity?, Option.bind_eq_bind, Option.bind_eq_some_iff, Option.pure_def, Option.some.injEq] at made
  obtain ⟨_, -, _, -, rfl⟩ := made
  rfl

theorem params_name {d : Declared} (made : op.params? config formatter = some d) :
    d.name = op.declarationName config .params := by
  simp only [params?, Option.ite_none_left_eq_some, Option.some.injEq] at made
  obtain ⟨-, rfl⟩ := made
  rfl

theorem role_names_differ : op.declarationName config .entity ≠ op.declarationName config .params := by
  intro same
  have suffixes : Naming.Role.entity.suffix = Naming.Role.params.suffix := List.append_cancel_left same
  exact absurd suffixes (by decide)

theorem occurrence_of_artifact {o : Occurrence} (mem : o ∈ (op.artifact config formatter).occurrences) :
    o.verb = op.verb ∧ o.route = op.route := by
  obtain ⟨d, -, rfl⟩ := List.mem_map.mp mem
  exact ⟨rfl, rfl⟩

theorem artifact_names_apart : (op.artifact config formatter).occurrences.Pairwise Occurrence.Apart := by
  rw [Artifact.occurrences, List.pairwise_map, List.pairwise_append]
  refine ⟨?_, ?_, ?_⟩
  · cases (op.artifact config formatter).entity <;> simp
  · cases (op.artifact config formatter).params <;> simp
  · intro d entity e params _ same
    have left := op.entity_name config formatter (Option.mem_toList.mp entity)
    have right := op.params_name config formatter (Option.mem_toList.mp params)
    exact op.role_names_differ config (left.symm.trans (same.trans right))

end Operation

namespace Api

variable (api : Api) (config : Config) (formatter : Formatter)

theorem occurrences_of_artifacts : occurrences (api.artifacts config formatter) =
    api.paths.flatMap fun (route, operations) =>
      operations.flatMap fun (verb, op) => ({ op with route, verb }.artifact config formatter).occurrences := by
  simp only [occurrences, artifacts, List.flatMap_map]

/- Between two operations the route or the verb is different, and within one the ends of the names are. -/
theorem occurrences_apart (keyed : api.Keyed) :
    (occurrences (api.artifacts config formatter)).Pairwise Occurrence.Apart := by
  rw [occurrences_of_artifacts, List.pairwise_flatMap]
  constructor
  · intro entry mem
    rw [List.pairwise_flatMap]
    constructor
    · intro operation _
      exact Operation.artifact_names_apart _ config formatter
    · refine (List.pairwise_map.mp (keyed.verbs entry mem)).imp ?_
      intro left right other a inLeft b inRight same
      have ofLeft := Operation.occurrence_of_artifact _ config formatter inLeft
      have ofRight := Operation.occurrence_of_artifact _ config formatter inRight
      exact absurd (ofLeft.1.symm.trans (same.1.trans ofRight.1)) other
  · refine (List.pairwise_map.mp keyed.routes).imp ?_
    intro left right other a inLeft b inRight same
    obtain ⟨_, -, deepLeft⟩ := List.mem_flatMap.mp inLeft
    obtain ⟨_, -, deepRight⟩ := List.mem_flatMap.mp inRight
    have ofLeft := Operation.occurrence_of_artifact _ config formatter deepLeft
    have ofRight := Operation.occurrence_of_artifact _ config formatter deepRight
    exact absurd (ofLeft.2.symm.trans (same.2.trans ofRight.2)) other

structure Follows (api : Api) (out : Artifacts) : Prop where
  routes : Ordered.keys out = Ordered.keys api.paths
  verbs : out.map (fun entry => entry.2.map Artifact.verb) = api.paths.map fun entry => Ordered.keys entry.2
  filed : ∀ entry ∈ out, ∀ a ∈ entry.2, a.route = entry.1

theorem artifacts_follow : api.Follows (api.artifacts config formatter) := by
  refine ⟨?_, ?_, ?_⟩
  · simp only [Ordered.keys, artifacts, List.map_map]
    rfl
  · simp only [Ordered.keys, artifacts, List.map_map]
    refine List.map_congr_left fun entry _ => ?_
    simp only [Function.comp_apply, List.map_map]
    rfl
  · intro entry mem a inEntry
    obtain ⟨⟨route, operations⟩, -, rfl⟩ := List.mem_map.mp mem
    obtain ⟨operation, -, rfl⟩ := List.mem_map.mp inEntry
    rfl

end Api

/-! ### Reports -/

/-- The collision is at the first name that has come before: up to there all names are different, and the one before
and the one that repeats it are those of two operations. -/
def Collision.Reports (c : Collision) (names : List Occurrence) : Prop :=
  ∃ before earlier between repeating after,
    names = before ++ earlier :: between ++ repeating :: after ∧
    ((before ++ earlier :: between).map Occurrence.name).Nodup ∧
    earlier.name = c.name ∧ repeating.name = c.name ∧
    c.first = earlier.owner ∧ c.second = repeating.owner ∧
    ¬ earlier.SameOperation repeating ∧ c.first ≠ c.second

theorem Collision.reports_of_find {names : List Occurrence} {c : Collision} (apart : names.Pairwise Occurrence.Apart)
    (found : find? (names.map fun o => (o.name, o.owner)) = some c) : c.Reports names := by
  obtain ⟨front, back, split, distinct, seen⟩ := find_some found
  obtain ⟨front', rest, rfl, rfl, rest_eq⟩ := List.map_eq_append_iff.mp split
  obtain ⟨repeating, after, rfl, again, -⟩ := List.map_eq_cons_iff.mp rest_eq
  obtain ⟨earlier, mem, first⟩ := List.mem_map.mp seen
  obtain ⟨before, between, rfl⟩ := List.append_of_mem mem
  simp only [Prod.mk.injEq] at again first
  have names_distinct : ((before ++ earlier :: between).map Occurrence.name).Nodup := by
    simpa [Function.comp_def] using distinct
  have told : earlier.Apart repeating := (List.pairwise_append.mp apart).2.2 earlier mem repeating (by simp)
  have other : ¬ earlier.SameOperation repeating := fun same => told same (first.1.trans again.1.symm)
  refine ⟨before, earlier, between, repeating, after, rfl, names_distinct, first.1, again.1, first.2.symm, again.2.symm,
    other, ?_⟩
  intro same
  apply other
  apply Occurrence.same_of_owner
  rw [first.2, again.2, same]

/-- A strict run fails exactly if two names are the same, and reports the first that comes again with the two operations
that have it. A run that is not strict never fails, and a strict one that does not fail gives the same. -/
theorem collisions_are_reported_exactly (api : Api) (config : Config) (formatter : Formatter) (keyed : api.Keyed) :
    ∃ out, api.generatePaths { config with strictNames := false } formatter = .ok out ∧ api.Follows out ∧
      (Ordered.keys out).Nodup ∧
      (∀ result, api.generatePaths { config with strictNames := true } formatter = .ok result → result = out) ∧
      ((∃ c, api.generatePaths { config with strictNames := true } formatter = .error c) ↔
        ¬ ((Api.occurrences out).map Occurrence.name).Nodup) ∧
      ∀ c, api.generatePaths { config with strictNames := true } formatter = .error c → c.Reports (Api.occurrences out) := by
  have follows := api.artifacts_follow config formatter
  -- Strictness is not looked at before the names are compared.
  have strict : ∀ c, api.generatePaths { config with strictNames := true } formatter = .error c ↔
      Collision.find? ((Api.occurrences (api.artifacts config formatter)).map fun o => (o.name, o.owner)) = some c := by
    intro c
    rw [← Api.artifact_names_occurrences]
    exact Collision.guard_error_iff _
  refine ⟨api.artifacts config formatter, rfl, follows, ?_, ?_, ?_, ?_⟩
  · rw [follows.routes]
    exact keyed.routes
  · intro result ok
    exact Layout.guard_ok ok
  · rw [← Option.isSome_iff_exists.trans (exists_congr fun c => (strict c).symm), ← Option.ne_none_iff_isSome, ne_eq,
      Collision.find_none_iff, List.map_map]
    rfl
  · intro c failed
    exact Collision.reports_of_find (api.occurrences_apart config formatter keyed) ((strict c).mp failed)

def twins : Api :=
  let asking : Operation :=
    { route := [], verb := .get, id := none
      parameters := [⟨"q".toList, .query, false, none, .any Notes.none, .null⟩]
      responses := [], summary := none, description := none }
  ⟨[], [("/bread".toList, [(.put, asking)]), ("/red/fish".toList, [(.get, asking)]),
    ("/red-fish".toList, [(.get, asking)])]⟩

theorem twins_collision_is_reported :
    twins.Keyed ∧ ∃ out, twins.generatePaths Config.standard Layout.format = .ok out ∧
      Collision.Reports ⟨"GetRedFishParams".toList, "GET /red/fish".toList, "GET /red-fish".toList⟩ (Api.occurrences out) := by
  have keyed : twins.Keyed := ⟨by simp [twins, Ordered.WellFormed, Ordered.keys],
    by simp [twins, Ordered.WellFormed, Ordered.keys]⟩
  have found : Collision.find? (Api.artifactNames (twins.artifacts Config.standard Layout.format)) =
      some ⟨"GetRedFishParams".toList, "GET /red/fish".toList, "GET /red-fish".toList⟩ := by decide +kernel
  have failed := (Collision.guard_error_iff (twins.artifacts Config.standard Layout.format)).mpr found
  obtain ⟨out, lenient, -, -, -, -, reported⟩ := collisions_are_reported_exactly twins Config.standard Layout.format keyed
  exact ⟨keyed, out, lenient, reported _ failed⟩

end ApiTypes
