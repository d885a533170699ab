import Mathlib.Data.List.Nodup
import Mathlib.Data.List.Pairwise
import ApiTypes.Proofs.Exports
/-!
What the texts of named schemas export. A strict run keeps the names of the texts apart, but these names come from keys,
and a key may well end in `Item`. So one text may export what another hoists. It happens exactly where one name is another
one followed by copies of `Item`, and the two texts declare something as many levels apart.
-/
namespace ApiTypes

open Schema (copies)

/-! ### Runs -/

namespace Api

def definitionExports (texts : List (Text × Text)) : List Text := texts.flatMap fun entry => Exports.ofText entry.2

theorem strict_definitions {config : Config} {formatter : Formatter} {definitions : List (Text × Schema)}
    {texts : List (Text × Text)} (strict : config.strictNames = true)
    (ok : generateDefinitions config formatter definitions = .ok texts) :
    (definitions.map fun d => Naming.ofDefinition d.1).Nodup ∧
      texts = definitions.map fun d => definitionText config formatter d.1 d.2 := by
  have apart : (definitions.map fun d => Naming.ofDefinition d.1).Nodup := by
    rw [generateDefinitions, strict] at ok
    have names := Collision.guard_strict ok
    rwa [definitionNames, List.map_map] at names
  refine ⟨apart, ?_⟩
  rw [Layout.guard_ok ok, Ordered.ofList, Ordered.put_all_new, List.nil_append]
  simpa [Ordered.keys, Function.comp_def, definitionText] using apart

def exportsOf (d : Text × Schema) : List Text := (d.2.sheet .definition).all.map (·.name (Naming.ofDefinition d.1))

/- The layout loses nothing, so what is exported can be told from the schema. -/
theorem definition_text_exports (config : Config) (d : Text × Schema) :
    Exports.ofText (definitionText config Layout.format d.1 d.2).2 = exportsOf d := by
  obtain ⟨key, s⟩ := d
  obtain ⟨out, laidOut⟩ := (Layout.declare_whole s (Naming.definition_plain key) .definition).accepted config.indentWidth
  have text : (definitionText config Layout.format key s).2 = out := by
    simp only [definitionText, Formatter.orEmpty, laidOut]
  rw [text, Exports.layout_exports laidOut, Schema.declare_sheet]
  exact Exports.schema_exports s .definition (Text.camel_solid key)

end Api

/-! ### Clashes -/

def Schema.Hoists (s : Schema) (level : Nat) : Prop := level ∈ s.blueprints.map Blueprint.level

theorem Api.exports_of_iff (d : Text × Schema) (x : Text) :
    x ∈ exportsOf d ↔ ∃ level, (level = 0 ∨ d.2.Hoists level) ∧ x = Naming.ofDefinition d.1 ++ copies level := by
  have levels : ∀ level, level ∈ (d.2.sheet .definition).all.map Blueprint.level ↔ level = 0 ∨ d.2.Hoists level := by
    intro level
    rw [Sheet.all, List.map_append, List.mem_append, Schema.sheet, Blueprint.latest_level_iff, or_comm]
    simp [Schema.Hoists]
  constructor
  · intro mem
    obtain ⟨b, inside, rfl⟩ := List.mem_map.mp mem
    exact ⟨b.level, (levels b.level).mp (List.mem_map_of_mem inside), rfl⟩
  · rintro ⟨level, declared, rfl⟩
    obtain ⟨b, inside, rfl⟩ := List.mem_map.mp ((levels level).mpr declared)
    exact List.mem_map_of_mem (f := fun b : Blueprint => b.name (Naming.ofDefinition d.1)) inside

/-- The second definition has the name of the first with copies of `Item` behind it, and declares something under a name
that the first hoists something under. -/
def Clash (a b : Text × Schema) : Prop :=
  ∃ more level, Naming.ofDefinition b.1 = Naming.ofDefinition a.1 ++ copies (more + 1) ∧
    a.2.Hoists (more + 1 + level) ∧ (level = 0 ∨ b.2.Hoists level)

theorem clash_of_longer {a b : Text × Schema} {i j : Nat} (longer : j < i)
    (same : Naming.ofDefinition a.1 ++ copies i = Naming.ofDefinition b.1 ++ copies j)
    (left : i = 0 ∨ a.2.Hoists i) (right : j = 0 ∨ b.2.Hoists j) : Clash a b := by
  obtain ⟨more, rfl⟩ : ∃ more, i = more + 1 + j := ⟨i - j - 1, by omega⟩
  refine ⟨more, j, ?_, ?_, right⟩
  · rw [Blueprint.copies_add, ← List.append_assoc] at same
    exact (List.append_cancel_right same).symm
  · rcases left with none | hoists
    · omega
    · exact hoists

/- Either both names have as many copies behind them, and then they are one name, or one of them has more. -/
theorem clash_of_shared {a b : Text × Schema} {i j : Nat} (other : Naming.ofDefinition a.1 ≠ Naming.ofDefinition b.1)
    (same : Naming.ofDefinition a.1 ++ copies i = Naming.ofDefinition b.1 ++ copies j)
    (left : i = 0 ∨ a.2.Hoists i) (right : j = 0 ∨ b.2.Hoists j) : Clash a b ∨ Clash b a := by
  rcases Nat.lt_trichotomy i j with less | equal | more
  · exact Or.inr (clash_of_longer less same.symm right left)
  · subst equal
    exact absurd (List.append_cancel_right same) other
  · exact Or.inl (clash_of_longer more same left right)

theorem clash_shares {a b : Text × Schema} (clash : Clash a b) : ∃ x, x ∈ Api.exportsOf a ∧ x ∈ Api.exportsOf b := by
  obtain ⟨more, level, name, hoists, declared⟩ := clash
  refine ⟨_, (Api.exports_of_iff a _).mpr ⟨_, Or.inr hoists, rfl⟩, (Api.exports_of_iff b _).mpr ⟨level, declared, ?_⟩⟩
  rw [name, List.append_assoc, Blueprint.copies_add]

theorem clash_names_differ {a b : Text × Schema} (clash : Clash a b) :
    Naming.ofDefinition a.1 ≠ Naming.ofDefinition b.1 := by
  obtain ⟨more, level, name, -, -⟩ := clash
  intro same
  have lengths := congrArg List.length (same.trans name)
  rw [List.length_append, Blueprint.copies_length] at lengths
  omega

theorem exports_distinct_iff {definitions : List (Text × Schema)}
    (apart : (definitions.map fun d => Naming.ofDefinition d.1).Nodup) :
    (definitions.flatMap Api.exportsOf).Nodup ↔ ∀ a ∈ definitions, ∀ b ∈ definitions, ¬ Clash a b := by
  rw [List.nodup_flatMap]
  constructor
  · rintro ⟨-, disjoint⟩ a memA b memB clash
    have symmetric : Std.Symm (Function.onFun List.Disjoint Api.exportsOf) := ⟨fun _ _ => List.disjoint_symm⟩
    have differ : a ≠ b := fun same => clash_names_differ clash (by rw [same])
    obtain ⟨x, inA, inB⟩ := clash_shares clash
    exact disjoint.forall memA memB differ inA inB
  · intro free
    refine ⟨fun d _ => (d.2.sheet_closed .definition _).distinct, ?_⟩
    refine (List.pairwise_map.mp apart).imp_of_mem ?_
    intro a b memA memB other x inA inB
    obtain ⟨i, left, rfl⟩ := (Api.exports_of_iff a _).mp inA
    obtain ⟨j, right, same⟩ := (Api.exports_of_iff b _).mp inB
    rcases clash_of_shared other same left right with clash | clash
    · exact free a memA b memB clash
    · exact free b memB a memA clash

/-- A strict run over named schemas exports no name twice exactly if no two of them clash. Each text exports what its
definition is to export. -/
theorem strict_definitions_distinct_iff (config : Config) (definitions : List (Text × Schema)) (texts : List (Text × Text))
    (strict : config.strictNames = true) (ok : Api.generateDefinitions config Layout.format definitions = .ok texts) :
    ((Api.definitionExports texts).Nodup ↔ ∀ a ∈ definitions, ∀ b ∈ definitions, ¬ Clash a b) ∧
      texts.map (fun entry => (entry.1, Exports.ofText entry.2)) =
        definitions.map fun d => (Naming.ofDefinition d.1, Api.exportsOf d) := by
  obtain ⟨apart, made⟩ := Api.strict_definitions strict ok
  have each := Api.definition_text_exports config
  constructor
  · have exports : Api.definitionExports texts = definitions.flatMap Api.exportsOf := by
      rw [made, Api.definitionExports, List.flatMap_map]
      exact List.flatMap_congr fun d _ => each d
    rw [exports]
    exact exports_distinct_iff apart
  · rw [made, List.map_map]
    exact List.map_congr_left fun d _ => Prod.ext rfl (each d)

def petRecord : Schema := .object Notes.none [("id".toList, .primitive Notes.none .number)] .unspecified

def petShop : List (Text × Schema) := [("Pet".toList, .listOf Notes.none petRecord), ("PetItem".toList, petRecord)]

theorem item_key_exported_twice :
    strictConfig.strictNames = true ∧ ∃ texts, Api.generateDefinitions strictConfig Layout.format petShop = .ok texts ∧
      ¬ (Api.definitionExports texts).Nodup :=
  ⟨rfl, _, rfl, by decide +kernel⟩

def orders : List (Text × Schema) := [("Order".toList, petRecord), ("OrderItem".toList, .listOf Notes.none petRecord)]

theorem orders_exported_once :
    strictConfig.strictNames = true ∧ ∃ texts, Api.generateDefinitions strictConfig Layout.format orders = .ok texts ∧
      (Api.definitionExports texts).Nodup := by
  obtain ⟨texts, ok⟩ : ∃ texts, Api.generateDefinitions strictConfig Layout.format orders = .ok texts := ⟨_, rfl⟩
  have free : ∀ a ∈ orders, ∀ b ∈ orders, ¬ Clash a b := by
    rintro a memA b memB ⟨more, level, name, hoists, -⟩
    simp only [orders, List.mem_cons, List.not_mem_nil, or_false] at memA memB
    rcases memA with rfl | rfl
    · simp [Schema.Hoists, petRecord, Schema.blueprints, Schema.propertyBlueprints] at hoists
    · have longest : (Naming.ofDefinition b.1).length ≤ (Naming.ofDefinition "OrderItem".toList).length := by
        rcases memB with rfl | rfl <;> decide +kernel
      dsimp only at name
      rw [name, List.length_append, Blueprint.copies_length] at longest
      omega
  exact ⟨rfl, texts, ok, (strict_definitions_distinct_iff strictConfig orders texts rfl ok).1.mpr free⟩

end ApiTypes
