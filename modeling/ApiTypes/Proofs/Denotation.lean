import Mathlib.Data.List.Forall2
import ApiTypes.Proofs.Hoisting
import ApiTypes.Proofs.Script.Flat
import ApiTypes.Proofs.Script.Reads
/-!
What the declaration of a schema denotes. The text that is written for a schema reads as a list of definitions,
and its last one, with the names defined before it expanded, is the type of the schema.
-/
namespace ApiTypes.Schema

open Script (Term Members Definition unionOf Shows OperandText AlternativesText MembersText DefinitionText)

/-! ### The type of a schema -/

/-- The type of one value. Among texts every value is a text; elsewhere a container may be anything. -/
def literalType (kind : Primitive) (v : Json) : Term :=
  match v with
  | .str s => .text s
  | v =>
    if kind == .string then .text v.text
    else match v with
      | .num n => .number n.text
      | .bool b => .name (Json.boolText b)
      | .null => .name "null".toList
      | .str _ | .arr _ | .obj _ => .any

def orAlone (none : Term) (ts : List Term) : List Term := if ts.isEmpty then [none] else ts

mutual

def type : Schema → Term
  | object _ properties required => .record (memberTypes required.isRequired properties)
  | list _ => .array .any
  | listOf _ item => .array item.type
  | tuple _ members => .array (unionOf (orAlone .any (types members)))
  | primitive _ kind => .name kind.name
  | enumeration _ kind values => unionOf (orAlone .never (values.map (literalType kind)))
  | reference _ _ | any _ | unknown _ _ => .any

def memberTypes (required : Text → Bool) : Properties → Members
  | [] => []
  | (property, s) :: rest => (property, !required property, s.type) :: memberTypes required rest

def types : List Schema → List Term
  | [] => []
  | s :: rest => s.type :: types rest

end

/-! ### What the text of a schema reads as -/

mutual

def termsIn : Schema → (name : Text) → List Term
  | object _ properties required, name => [.record (memberTermsIn required.isRequired properties name)]
  | list _, _ => [.array .any]
  | listOf _ item, name =>
    [.array (if item.isObject then .name (Naming.hoisted name) else unionOf (termsIn item (Naming.hoisted name)))]
  | tuple _ _, name => [.array (.name (Naming.hoisted name))]
  | primitive _ kind, _ => [.name kind.name]
  | enumeration _ kind values, _ => orAlone .never (values.map (literalType kind))
  | reference _ _, _ | any _, _ | unknown _ _, _ => [.any]

def memberTermsIn (required : Text → Bool) : Properties → (name : Text) → Members
  | [], _ => []
  | (property, s) :: rest, name =>
    (property, !required property, unionOf (termsIn s name)) :: memberTermsIn required rest name

def partTermsIn : List Schema → (name : Text) → List Term
  | [], _ => []
  | s :: rest, name => termsIn s name ++ partTermsIn rest name

end

mutual

def definitionsIn : Schema → (name : Text) → List Definition
  | object _ properties _, name => propertyDefinitionsIn properties name
  | listOf _ item, name =>
    definitionsIn item (Naming.hoisted name) ++
      if item.isObject then [⟨Naming.hoisted name, unionOf (termsIn item (Naming.hoisted name))⟩] else []
  | tuple _ members, name =>
    partDefinitionsIn members (Naming.hoisted name) ++
      [⟨Naming.hoisted name, unionOf (orAlone .any (partTermsIn members (Naming.hoisted name)))⟩]
  | list _, _ | primitive _ _, _ | enumeration _ _ _, _ | reference _ _, _ | any _, _ | unknown _ _, _ => []

def propertyDefinitionsIn : Properties → (name : Text) → List Definition
  | [], _ => []
  | (_, s) :: rest, name => definitionsIn s name ++ propertyDefinitionsIn rest name

def partDefinitionsIn : List Schema → (name : Text) → List Definition
  | [], _ => []
  | s :: rest, name => definitionsIn s name ++ partDefinitionsIn rest name

end

theorem literal_text (kind : Primitive) (v : Json) : OperandText (TypeExpr.literal kind v) (literalType kind v) := by
  cases v with
  | str s => exact Script.quote_text s
  | null =>
    simp only [TypeExpr.literal, literalType]
    split
    · exact Script.quote_text _
    · exact Script.word_text (by decide)
  | bool b =>
    simp only [TypeExpr.literal, literalType]
    split
    · exact Script.quote_text _
    · cases b <;> exact Script.word_text (by decide)
  | num n =>
    simp only [TypeExpr.literal, literalType]
    split
    · exact Script.quote_text _
    · exact Script.number_text n
  | arr _ =>
    simp only [TypeExpr.literal, literalType]
    split
    · exact Script.quote_text _
    · exact Script.any_text
  | obj _ =>
    simp only [TypeExpr.literal, literalType]
    split
    · exact Script.quote_text _
    · exact Script.any_text

theorem never_text : OperandText "never".toList .never := Script.word_text (by decide)

theorem primitive_text (kind : Primitive) : OperandText kind.name (.name kind.name) :=
  Script.word_text (by cases kind <;> decide)

theorem literals_show (kind : Primitive) (values : List Json) :
    Shows (TypeExpr.literals kind values) (orAlone .never (values.map (literalType kind))) := by
  cases values with
  | nil => exact ⟨.never, rfl, never_text⟩
  | cons v values =>
    have operands := Script.operands_show "never".toList
      ((v :: values).map fun v => (TypeExpr.literal kind v, literalType kind v)) (by simp) (by
        intro part mem
        obtain ⟨v, -, rfl⟩ := List.mem_map.mp mem
        exact literal_text kind v)
    simpa [TypeExpr.literals, orAlone, Function.comp_def] using operands

theorem hoisted_is_name {name : Text} (named : Script.isName name = true) :
    Script.isName (Naming.hoisted name) = true := by
  cases name with
  | nil => simp [Script.isName] at named
  | cons c rest =>
    simp only [Script.isName, Bool.and_eq_true] at named
    have suffix : Naming.Role.item.suffix.all Script.isWordPart = true := by decide
    simp [Naming.hoisted, Script.isName, named, List.all_append, suffix]

mutual

theorem type_shows (s : Schema) {name : Text} (named : Script.isName name = true) :
    Shows (s.typeIn name) (s.termsIn name) := by
  match s with
  | object _ properties required =>
    exact ⟨_, rfl, Script.body_text (members_show required.isRequired properties named)⟩
  | listOf _ item =>
    have hoistedName := hoisted_is_name named
    rw [type_in_list_of, termsIn]
    split
    · exact ⟨_, rfl, (Script.word_text hoistedName).array⟩
    · exact (type_shows item hoistedName).array
  | tuple _ members => exact ⟨_, rfl, (Script.word_text (hoisted_is_name named)).array⟩
  | list _ => exact ⟨_, rfl, Script.any_text.array⟩
  | primitive _ kind => exact ⟨_, rfl, primitive_text kind⟩
  | enumeration _ kind values => exact literals_show kind values
  | reference _ _ | any _ | unknown _ _ => exact ⟨_, rfl, Script.any_text⟩

theorem members_show (required : Text → Bool) (properties : Properties) {name : Text}
    (named : Script.isName name = true) :
    MembersText (membersIn required properties name).flatten (memberTermsIn required properties name) := by
  match properties with
  | [] => exact Script.no_member_text
  | (property, s) :: rest =>
    rw [members_in_cons, List.flatten_cons]
    exact Script.member_text (required property) s.comment? (type_shows s named).alternatives
      (members_show required rest named)

end

theorem parts_show (s : Schema) (members : List Schema) {name : Text} (named : Script.isName name = true) :
    AlternativesText (Text.joinWith Script.bar (partsIn (s :: members) name)) (partTermsIn (s :: members) name) := by
  have first := (type_shows s named).alternatives
  rw [parts_in_cons, partTermsIn]
  induction members generalizing s with
  | nil => simpa [Text.joinWith, partTermsIn] using first
  | cons next members ih =>
    have later := ih next (type_shows next named).alternatives
    rw [parts_in_cons, Text.joinWith, partTermsIn]
    exact first.append later

theorem tuple_body_text (members : List Schema) {name : Text} (named : Script.isName name = true) :
    AlternativesText (TypeExpr.alternatives "any".toList (partsIn members name)).text
      (orAlone .any (partTermsIn members name)) := by
  cases members with
  | nil => exact Script.any_text.alternative
  | cons s members =>
    have shown := parts_show s members named
    have nonempty := shown.nonempty
    rw [Script.alternatives_join (by simp [parts_in_cons]), orAlone, if_neg (by simpa using nonempty)]
    exact shown

/-! ### What is hoisted reads as its definitions -/

theorem interface_definition {item : Schema} {name : Text} (named : Script.isName name = true)
    (object : item.isObject = true) (comment : Option Text) (role : Declaration.Role) :
    DefinitionText (Declaration.render ⟨name, .interface, (item.typeIn name).text, comment, role⟩)
      ⟨name, unionOf (item.termsIn name)⟩ := by
  cases item with
  | object _ properties required =>
    exact Script.interface_text named comment role (members_show required.isRequired properties named)
  | _ => simp [isObject] at object

def Declares (d : Declaration) (definition : Definition) : Prop :=
  d.name = definition.name ∧ DefinitionText d.render definition

mutual

theorem insertions_declare (s : Schema) {name : Text} (named : Script.isName name = true) :
    List.Forall₂ Declares (s.insertions name) (s.definitionsIn name) := by
  match s with
  | object _ properties _ => exact property_insertions_declare properties named
  | listOf _ item =>
    have hoistedName := hoisted_is_name named
    have inner := insertions_declare item hoistedName
    rw [insertions, definitionsIn]
    refine List.rel_append inner ?_
    split
    · rename_i object
      exact .cons ⟨rfl, interface_definition hoistedName object _ _⟩ .nil
    · exact .nil
  | tuple _ members =>
    have hoistedName := hoisted_is_name named
    have inner := part_insertions_declare members hoistedName
    rw [insertions, definitionsIn]
    refine List.rel_append inner (.cons ⟨rfl, ?_⟩ .nil)
    exact Script.alias_text hoistedName _ _ (tuple_body_text members hoistedName)
  | list _ | primitive _ _ | enumeration _ _ _ | reference _ _ | any _ | unknown _ _ => exact .nil

theorem property_insertions_declare (properties : Properties) {name : Text} (named : Script.isName name = true) :
    List.Forall₂ Declares (propertyInsertions properties name) (propertyDefinitionsIn properties name) := by
  match properties with
  | [] => exact .nil
  | (_, s) :: rest => exact List.rel_append (insertions_declare s named) (property_insertions_declare rest named)

theorem part_insertions_declare (members : List Schema) {name : Text} (named : Script.isName name = true) :
    List.Forall₂ Declares (partInsertions members name) (partDefinitionsIn members name) := by
  match members with
  | [] => exact .nil
  | s :: rest => exact List.rel_append (insertions_declare s named) (part_insertions_declare rest named)

end

theorem declares_names {ds : List Declaration} {definitions : List Definition}
    (declares : List.Forall₂ Declares ds definitions) : ds.map Declaration.name = definitions.map Definition.name := by
  induction declares with
  | nil => rfl
  | cons first _ ih => rw [List.map_cons, List.map_cons, first.1, ih]

theorem root_declares (s : Schema) {name : Text} (named : Script.isName name = true) (role : Declaration.Role) :
    Declares (s.rootDeclaration name role) ⟨name, unionOf (s.termsIn name)⟩ := by
  refine ⟨rfl, ?_⟩
  unfold rootDeclaration declarationKind
  split
  · rename_i object
    exact interface_definition named object _ _
  · exact Script.alias_text named _ _ (type_shows s named).alternatives

theorem declarations_read {ds : List Declaration} {definitions : List Definition}
    (declares : List.Forall₂ Declares ds definitions) :
    Script.read? (Text.joinWith ['\n'] (ds.map Declaration.render)) = some definitions := by
  have paired : ∃ parts : List (Text × Definition), (∀ part ∈ parts, DefinitionText part.1 part.2) ∧
      parts.map Prod.fst = ds.map Declaration.render ∧ parts.map Prod.snd = definitions := by
    induction declares with
    | nil => exact ⟨[], by simp, rfl, rfl⟩
    | @cons d definition _ _ first _ ih =>
      obtain ⟨parts, texts, left, right⟩ := ih
      exact ⟨(d.render, definition) :: parts, List.forall_mem_cons.mpr ⟨first.2, texts⟩, by simp [left], by simp [right]⟩
  obtain ⟨parts, texts, left, right⟩ := paired
  rw [← left, ← right]
  exact Script.definitions_read texts

theorem declaration_read (s : Schema) {name : Text} (role : Declaration.Role) (named : Script.isName name = true)
    (once : ((s.insertions name).map Declaration.name).Nodup) :
    Script.read? (s.declare name role) = some (s.definitionsIn name ++ [⟨name, unionOf (s.termsIn name)⟩]) := by
  rw [declare_distinct role once]
  exact declarations_read (List.rel_append (insertions_declare s named) (.cons (root_declares s named role) .nil))

/-! ### Meaning -/

/-- Definitions that can be told apart, and that leave the words of the language alone. -/
structure Tellable (definitions : List Definition) : Prop where
  distinct : (definitions.map Definition.name).Nodup
  plain : ∀ d ∈ definitions, d.name ∉ Script.keywords

theorem keyword_kept {definitions : List Definition} (tellable : Tellable definitions) {w : Text}
    (keyword : w ∈ Script.keywords) (depth : Nat) : Script.meaning definitions depth w = .name w :=
  Script.meaning_undefined (fun d mem same => tellable.plain d mem (same ▸ keyword)) depth

theorem literal_kept {definitions : List Definition} (tellable : Tellable definitions) (kind : Primitive) (v : Json)
    (depth : Nat) : (literalType kind v).substitute (Script.meaning definitions depth) = literalType kind v := by
  have kept : ∀ w ∈ Script.keywords, (Term.name w).substitute (Script.meaning definitions depth) = .name w :=
    fun w mem => keyword_kept tellable mem depth
  have text : ∀ s, (Term.text s).substitute (Script.meaning definitions depth) = .text s := fun _ => rfl
  have number : ∀ n, (Term.number n).substitute (Script.meaning definitions depth) = .number n := fun _ => rfl
  cases v with
  | str s => exact text s
  | num n =>
    simp only [literalType]
    split
    · exact text _
    · exact number _
  | bool b =>
    simp only [literalType]
    split
    · exact text _
    · cases b <;> exact kept _ (by decide)
  | null | arr _ | obj _ =>
    simp only [literalType]
    split
    · exact text _
    · exact kept _ (by decide)

theorem literals_kept {definitions : List Definition} (tellable : Tellable definitions) (kind : Primitive)
    (values : List Json) (depth : Nat) :
    Script.substituteAll (Script.meaning definitions depth) (orAlone .never (values.map (literalType kind))) =
      orAlone .never (values.map (literalType kind)) := by
  cases values with
  | nil =>
    have never : Term.never.substitute (Script.meaning definitions depth) = .never :=
      keyword_kept tellable (by decide) depth
    simp [orAlone, Script.substituteAll, never]
  | cons v values =>
    have each : ∀ vs : List Json, Script.substituteAll (Script.meaning definitions depth) (vs.map (literalType kind)) =
        vs.map (literalType kind) := by
      intro vs
      induction vs with
      | nil => rfl
      | cons v vs ih => simp [Script.substituteAll, literal_kept tellable, ih]
    exact each (v :: values)

/-- A name that a definition introduces stands for its body, expanded one definition less deep. -/
theorem meaning_of_member {definitions : List Definition} (tellable : Tellable definitions) {name : Text}
    {terms : List Term} (mem : ⟨name, unionOf terms⟩ ∈ definitions) (depth : Nat) :
    Script.meaning definitions (depth + 1) name =
      unionOf (Script.substituteAll (Script.meaning definitions depth) terms) := by
  rw [← Script.substitute_union_of]
  simp [Script.meaning, Script.body_of_member tellable.distinct mem]

theorem terms_nonempty (s : Schema) (name : Text) : s.termsIn name ≠ [] := by
  cases s with
  | enumeration _ kind values => cases values <;> simp [termsIn, orAlone]
  | _ => simp [termsIn]

theorem tuple_body_means {definitions : List Definition} (tellable : Tellable definitions) (depth : Nat)
    {members : List Schema} {name : Text}
    (parts : Script.flatAlternatives (Script.substituteAll (Script.meaning definitions depth) (partTermsIn members name)) =
      Script.flatAlternatives (types members)) :
    Script.flatAlternatives (Script.substituteAll (Script.meaning definitions depth)
      (orAlone .any (partTermsIn members name))) = (unionOf (orAlone .any (types members))).flat.alternatives := by
  rw [Script.flat_union_of_alternatives]
  cases members with
  | nil =>
    have kept : Term.any.substitute (Script.meaning definitions depth) = .any := keyword_kept tellable (by decide) depth
    simp [orAlone, partTermsIn, types, Script.substituteAll, kept]
  | cons first rest =>
    have nonempty : partTermsIn (first :: rest) name ≠ [] := by simp [partTermsIn, terms_nonempty]
    rw [orAlone, if_neg (by simpa using nonempty), orAlone, if_neg (by simp [types])]
    exact parts

mutual

/- The definitions of a schema come before its own, so its depth is at most their number. -/
theorem terms_mean (s : Schema) (name : Text) (depth : Nat) {definitions : List Definition}
    (tellable : Tellable definitions) (within : ∀ d ∈ s.definitionsIn name, d ∈ definitions)
    (deep : (s.definitionsIn name).length ≤ depth) :
    Script.flatAlternatives (Script.substituteAll (Script.meaning definitions depth) (s.termsIn name)) =
      s.type.flat.alternatives := by
  have any : Term.any.substitute (Script.meaning definitions depth) = .any := keyword_kept tellable (by decide) depth
  match s with
  | object _ properties required =>
    have members := members_mean required.isRequired properties name depth tellable within deep
    simp only [termsIn, Script.substituteAll, Script.flatAlternatives, Term.substitute, Term.flat, Term.alternatives,
      type, members, List.append_nil]
  | list _ =>
    simp [termsIn, Script.substituteAll, Script.flatAlternatives, Term.substitute, any, type]
  | listOf _ item =>
    rw [definitionsIn, List.length_append] at deep
    simp only [definitionsIn, List.mem_append] at within
    have inside : ∀ d ∈ item.definitionsIn (Naming.hoisted name), d ∈ definitions := fun d mem => within d (Or.inl mem)
    by_cases object : item.isObject = true
    -- The record is declared apart, so one definition more has to be expanded before the item is reached.
    · simp only [object, if_true, List.length_singleton] at deep
      obtain ⟨depth, rfl⟩ : ∃ n, depth = n + 1 := ⟨depth - 1, by omega⟩
      have own := within ⟨Naming.hoisted name, unionOf (item.termsIn (Naming.hoisted name))⟩ (Or.inr (by simp [object]))
      have inner := Script.flat_of_alternatives (terms_mean item _ depth tellable inside (by omega))
      have expanded := meaning_of_member tellable own depth
      simp only [termsIn, object, if_true, Script.substituteAll, Script.flatAlternatives, Term.substitute, expanded,
        Term.flat, Term.alternatives, type, inner, List.append_nil]
    · have inner := Script.flat_of_alternatives (terms_mean item _ depth tellable inside (by omega))
      simp only [termsIn, object, Script.substituteAll, Script.flatAlternatives, Term.substitute,
        Script.substitute_union_of, Term.flat, Term.alternatives, type, inner, List.append_nil, Bool.false_eq_true,
        if_false]
  | tuple _ members =>
    rw [definitionsIn, List.length_append, List.length_singleton] at deep
    simp only [definitionsIn, List.mem_append, List.mem_singleton] at within
    -- A tuple is always declared apart.
    obtain ⟨depth, rfl⟩ : ∃ n, depth = n + 1 := ⟨depth - 1, by omega⟩
    have expanded := meaning_of_member tellable (within _ (Or.inr rfl)) depth
    have parts := parts_mean members _ depth tellable (fun d mem => within d (Or.inl mem)) (by omega)
    have inner := tuple_body_means tellable depth parts
    simp only [termsIn, Script.substituteAll, Script.flatAlternatives, Term.substitute, expanded, Term.flat,
      Term.alternatives, type, Script.flat_of_alternatives inner, List.append_nil]
  | primitive _ kind =>
    have kept : (Term.name kind.name).substitute (Script.meaning definitions depth) = .name kind.name :=
      keyword_kept tellable (by cases kind <;> decide) depth
    simp [termsIn, Script.substituteAll, Script.flatAlternatives, kept, type]
  | enumeration _ kind values =>
    rw [termsIn, literals_kept tellable, type, Script.flat_union_of_alternatives]
  | reference _ _ | Schema.any _ | unknown _ _ =>
    simp [termsIn, Script.substituteAll, Script.flatAlternatives, any, type]

theorem members_mean (required : Text → Bool) (properties : Properties) (name : Text) (depth : Nat)
    {definitions : List Definition} (tellable : Tellable definitions)
    (within : ∀ d ∈ propertyDefinitionsIn properties name, d ∈ definitions)
    (deep : (propertyDefinitionsIn properties name).length ≤ depth) :
    Script.flatMembers (Script.substituteMembers (Script.meaning definitions depth)
      (memberTermsIn required properties name)) = Script.flatMembers (memberTypes required properties) := by
  match properties with
  | [] => rfl
  | (property, s) :: rest =>
    simp only [propertyDefinitionsIn, List.mem_append, List.length_append] at within deep
    have first := terms_mean s name depth tellable (fun d mem => within d (Or.inl mem)) (by omega)
    have later := members_mean required rest name depth tellable (fun d mem => within d (Or.inr mem)) (by omega)
    simp only [memberTermsIn, Script.substituteMembers, Script.flatMembers, memberTypes, later,
      Script.substitute_union_of, Script.flat_of_alternatives first]

theorem parts_mean (members : List Schema) (name : Text) (depth : Nat) {definitions : List Definition}
    (tellable : Tellable definitions) (within : ∀ d ∈ partDefinitionsIn members name, d ∈ definitions)
    (deep : (partDefinitionsIn members name).length ≤ depth) :
    Script.flatAlternatives (Script.substituteAll (Script.meaning definitions depth) (partTermsIn members name)) =
      Script.flatAlternatives (types members) := by
  match members with
  | [] => rfl
  | s :: rest =>
    simp only [partDefinitionsIn, List.mem_append, List.length_append] at within deep
    have first := terms_mean s name depth tellable (fun d mem => within d (Or.inl mem)) (by omega)
    have later := parts_mean rest name depth tellable (fun d mem => within d (Or.inr mem)) (by omega)
    rw [partTermsIn, Script.substitute_all_append, Script.flat_alternatives_append, first, later, types,
      Script.flatAlternatives]

end

theorem copies_not_keyword (name : Text) (k : Nat) : name ++ copies (k + 1) ∉ Script.keywords := by
  intro mem
  have shape : name ++ copies (k + 1) = (name ++ copies k) ++ Naming.Role.item.suffix := by
    simp [copies, List.replicate_succ']
  have item : Naming.Role.item.suffix <:+ name ++ copies (k + 1) := by
    rw [shape]
    exact List.suffix_append _ _
  have none : ∀ w ∈ Script.keywords, ¬ Naming.Role.item.suffix <:+ w := by decide
  exact none _ mem item

theorem definitions_tellable {s : Schema} {name : Text} (named : Script.isName name = true)
    (once : ((s.insertions name).map Declaration.name).Nodup) : Tellable (s.definitionsIn name) := by
  have names := declares_names (insertions_declare s named)
  refine ⟨names ▸ once, fun definition mem keyword => ?_⟩
  have listed : definition.name ∈ (s.insertions name).map Declaration.name := names ▸ List.mem_map_of_mem mem
  obtain ⟨d, inserted, same⟩ := List.mem_map.mp listed
  obtain ⟨k, shape⟩ := insertion_name s inserted
  rw [← same, shape] at keyword
  exact copies_not_keyword name k keyword

/-- Declaring a schema keeps its meaning: read back, with every hoisted name expanded by its definition, the
declaration denotes the type of the schema, up to unions in unions. -/
theorem declaration_denotes_schema (s : Schema) (name : Text) (role : Declaration.Role)
    (named : Script.isName name = true) (once : ((s.insertions name).map Declaration.name).Nodup) :
    ∃ root, Script.denotation? (s.declare name role) = some root ∧ root.name = name ∧ root.body.flat = s.type.flat := by
  have tellable := definitions_tellable named once
  have mean := Script.flat_of_alternatives (terms_mean s name _ tellable (fun _ mem => mem) (Nat.le_refl _))
  refine ⟨⟨name, unionOf (Script.substituteAll (Script.meaning (s.definitionsIn name) (s.definitionsIn name).length)
    (s.termsIn name))⟩, ?_, rfl, mean⟩
  simp [Script.denotation?, declaration_read s role named once, Script.substitute_union_of]

def shelf : Schema :=
  .object ⟨some "open */ shelf".toList, none⟩
    [("first-class".toList, .enumeration Notes.none .string [.str "a|\"b\"".toList, .num (.int (-3))]),
      ("rows".toList, .listOf Notes.none (.tuple Notes.none
        [.enumeration Notes.none .number [.num (.int 1), .bool true],
          .listOf Notes.none (.object Notes.none [("id".toList, .primitive Notes.none .number)] .unspecified)]))]
    (.names ["rows".toList])

theorem shelf_denotes_its_type :
    Script.isName "Shelf".toList = true ∧ ((shelf.insertions "Shelf".toList).map Declaration.name).Nodup ∧
      ∃ root, Script.denotation? (shelf.declare "Shelf".toList .definition) = some root ∧
        root.name = "Shelf".toList ∧ root.body.flat = shelf.type.flat := by
  have named : Script.isName "Shelf".toList = true := by decide
  have once : ((shelf.insertions "Shelf".toList).map Declaration.name).Nodup := by decide
  exact ⟨named, once, declaration_denotes_schema shelf "Shelf".toList .definition named once⟩

end ApiTypes.Schema
