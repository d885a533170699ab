import Mathlib.Data.List.Forall2
import Mathlib.Logic.Relation
import ApiTypes.Proofs.Blueprint
import ApiTypes.Proofs.Denotation
/-!
Generated texts are closed. A hoisted declaration may take the place of another one of its name while what was hoisted
out of the other stays behind. Still nothing is missing, because a level at which something was hoisted is never empty
again, and a declaration refers only to levels below its own.
-/
namespace ApiTypes

open Declaration (Table)
open Schema (copies hoisted_copies)

/-! ### Levels -/

/-- Each reference, be it one of `items` made from the root or one made from a blueprint, leads down to a level that
some blueprint has. -/
structure Covers (bs : List Blueprint) (items : List Nat) : Prop where
  own : ∀ k ∈ items, 0 < k ∧ k ∈ bs.map Blueprint.level
  below : ∀ b ∈ bs, 0 < b.level
  inner : ∀ b ∈ bs, ∀ k ∈ b.body.items, 0 < k ∧ b.level + k ∈ bs.map Blueprint.level

namespace Covers

theorem nothing : Covers [] [] := ⟨by simp, by simp, by simp⟩

theorem append {bs cs : List Blueprint} {items more : List Nat} (left : Covers bs items) (right : Covers cs more) :
    Covers (bs ++ cs) (items ++ more) := by
  constructor
  · intro k mem
    rw [List.map_append]
    rcases List.mem_append.mp mem with first | later
    · exact ⟨(left.own k first).1, List.mem_append_left _ (left.own k first).2⟩
    · exact ⟨(right.own k later).1, List.mem_append_right _ (right.own k later).2⟩
  · intro b mem
    rcases List.mem_append.mp mem with first | later
    · exact left.below b first
    · exact right.below b later
  · intro b mem k refers
    rw [List.map_append]
    rcases List.mem_append.mp mem with first | later
    · obtain ⟨positive, found⟩ := left.inner b first k refers
      exact ⟨positive, List.mem_append_left _ found⟩
    · obtain ⟨positive, found⟩ := right.inner b later k refers
      exact ⟨positive, List.mem_append_right _ found⟩

theorem level_raised {bs : List Blueprint} {l : Nat} (mem : l ∈ bs.map Blueprint.level) :
    l + 1 ∈ (bs.map Blueprint.raise).map Blueprint.level := by
  obtain ⟨b, listed, rfl⟩ := List.mem_map.mp mem
  rw [List.map_map]
  exact List.mem_map_of_mem (f := Blueprint.level ∘ Blueprint.raise) listed

theorem raise {bs : List Blueprint} {items : List Nat} (covers : Covers bs items) :
    Covers (bs.map .raise) (items.map (· + 1)) := by
  constructor
  · intro k mem
    obtain ⟨j, listed, rfl⟩ := List.mem_map.mp mem
    exact ⟨Nat.succ_pos j, level_raised (covers.own j listed).2⟩
  · intro b mem
    obtain ⟨c, -, rfl⟩ := List.mem_map.mp mem
    exact Nat.succ_pos c.level
  · intro b mem k refers
    obtain ⟨c, listed, rfl⟩ := List.mem_map.mp mem
    obtain ⟨positive, found⟩ := covers.inner c listed k refers
    have moved : c.raise.level + k = c.level + k + 1 := by
      simp only [Blueprint.raise]
      omega
    exact ⟨positive, moved ▸ level_raised found⟩

theorem hoist {bs : List Blueprint} {b : Blueprint} (covers : Covers bs b.body.items) (first : b.level = 1) :
    Covers (bs.map .raise ++ [b]) [1] := by
  have raised := covers.raise
  constructor
  · intro k mem
    rw [List.mem_singleton.mp mem, List.map_append, List.map_singleton, first]
    exact ⟨Nat.one_pos, List.mem_append_right _ (List.mem_singleton.mpr rfl)⟩
  · intro c mem
    rcases List.mem_append.mp mem with inner | own
    · exact raised.below c inner
    · rw [List.mem_singleton.mp own, first]
      exact Nat.one_pos
  · intro c mem k refers
    rw [List.map_append]
    rcases List.mem_append.mp mem with inner | own
    · obtain ⟨positive, found⟩ := raised.inner c inner k refers
      exact ⟨positive, List.mem_append_left _ found⟩
    · rw [List.mem_singleton.mp own] at refers ⊢
      obtain ⟨positive, found⟩ := covers.own k refers
      rw [first, Nat.add_comm]
      exact ⟨positive, List.mem_append_left _ (level_raised found)⟩

end Covers

namespace Schema

mutual

theorem blueprints_cover (s : Schema) : Covers s.blueprints s.draft.draft.items := by
  match s with
  | object _ properties required =>
    rw [draft, DraftType.draft, Draft.items_body]
    exact property_blueprints_cover required.isRequired properties
  | listOf _ item =>
    have inner := blueprints_cover item
    rw [blueprints, draft]
    split
    · exact inner.hoist rfl
    · rw [List.append_nil, DraftType.items_array, DraftType.items_raise]
      exact inner.raise
  | tuple _ members =>
    have inner := part_blueprints_cover members
    rw [← Draft.items_alternatives "any".toList] at inner
    exact inner.hoist (b := ⟨1, .typeAlias, _, none, .nestedItem⟩) rfl
  | list _ | primitive _ _ | reference _ _ | any _ | unknown _ _ => exact Covers.nothing
  | enumeration _ kind values =>
    rw [draft, DraftType.items_fixed]
    exact Covers.nothing

theorem property_blueprints_cover (required : Text → Bool) (properties : Properties) :
    Covers (propertyBlueprints properties) (Draft.items (memberDrafts required properties).flatten) := by
  match properties with
  | [] => exact Covers.nothing
  | (_, s) :: rest =>
    rw [memberDrafts, List.flatten_cons, Draft.items_append, Draft.items_member]
    exact (blueprints_cover s).append (property_blueprints_cover required rest)

theorem part_blueprints_cover (members : List Schema) :
    Covers (partBlueprints members) (Draft.items (partDrafts members).flatten) := by
  match members with
  | [] => exact Covers.nothing
  | s :: rest =>
    rw [partDrafts, List.map_cons, List.flatten_cons, Draft.items_append]
    exact (blueprints_cover s).append (part_blueprints_cover rest)

end

end Schema

theorem Operation.blueprints_cover (op : Operation) : Covers op.blueprints (Draft.items op.memberDrafts.flatten) := by
  unfold blueprints memberDrafts
  cases loneBody? op.parameters with
  | some lone => exact Schema.property_blueprints_cover lone.1 lone.2
  | none =>
    simp only
    induction op.parameters with
    | nil => exact Covers.nothing
    | cons p ps ih =>
      rw [List.map_cons, List.flatten_cons, Draft.items_append, Draft.items_member, List.flatMap_cons]
      exact p.schema.blueprints_cover.append ih

/-! ### Closed texts -/

namespace Sheet

def Refers (sheet : Sheet) (name x y : Text) : Prop := ∃ b ∈ sheet.all, b.name name = x ∧ y ∈ b.references name

structure Closed (sheet : Sheet) (name : Text) : Prop where
  root : sheet.root.name name = name
  distinct : (sheet.all.map (·.name name)).Nodup
  hoisted : ∀ b ∈ sheet.hoisted, ∃ k, b.name name = name ++ copies (k + 1)
  declared : ∀ b ∈ sheet.all, ∀ w ∈ b.references name, w ∈ sheet.hoisted.map (·.name name)
  downward : ∀ b ∈ sheet.all, ∀ w ∈ b.references name, ∃ k, w = b.name name ++ copies (k + 1)
  acyclic : ∀ x, ¬ Relation.TransGen (sheet.Refers name) x x

/- A name grows along every reference, so none leads back. -/
theorem refers_grows {sheet : Sheet} {name x y : Text}
    (downward : ∀ b ∈ sheet.all, ∀ w ∈ b.references name, ∃ k, w = b.name name ++ copies (k + 1))
    (path : Relation.TransGen (sheet.Refers name) x y) : x.length < y.length := by
  have step : ∀ x y, sheet.Refers name x y → x.length < y.length := by
    rintro x y ⟨b, mem, rfl, refers⟩
    obtain ⟨k, rfl⟩ := downward b mem y refers
    rw [List.length_append, Blueprint.copies_length]
    omega
  induction path with
  | single first => exact step _ _ first
  | tail _ last ih => exact Nat.lt_trans ih (step _ _ last)

theorem closed_of_covers {bs : List Blueprint} {root : Blueprint} (covers : Covers bs root.body.items)
    (top : root.level = 0) (name : Text) : Closed ⟨Blueprint.latest bs, root⟩ name := by
  have rootName : root.name name = name := by simp [Blueprint.name, top, copies]
  have positive : ∀ b ∈ Blueprint.latest bs, 0 < b.level := fun b mem => covers.below b (Blueprint.latest_mem mem)
  -- What is referred to is some levels further down, and that level is not empty.
  have leads : ∀ b ∈ all ⟨Blueprint.latest bs, root⟩, ∀ k ∈ b.body.items,
      0 < k ∧ b.level + k ∈ (Blueprint.latest bs).map Blueprint.level := by
    intro b mem k refers
    rw [Blueprint.latest_level_iff]
    rcases List.mem_append.mp mem with hoisted | own
    · exact covers.inner b (Blueprint.latest_mem hoisted) k refers
    · rw [List.mem_singleton.mp own] at refers ⊢
      rw [top, Nat.zero_add]
      exact covers.own k refers
  have downward : ∀ b ∈ all ⟨Blueprint.latest bs, root⟩, ∀ w ∈ b.references name,
      ∃ k, w = b.name name ++ copies (k + 1) := by
    intro b mem w refers
    obtain ⟨k, listed, rfl⟩ := List.mem_map.mp refers
    have more := (leads b mem k listed).1
    exact ⟨k - 1, by rw [Nat.sub_add_cancel more]⟩
  refine ⟨rootName, ?distinct, ?hoisted, ?declared, downward, ?acyclic⟩
  case distinct =>
    have levels : ((Blueprint.latest bs ++ [root]).map Blueprint.level).Nodup := by
      rw [List.map_append, List.map_singleton, top]
      refine (Blueprint.latest_apart bs).append (List.nodup_singleton 0) ?_
      intro l mem zero
      obtain ⟨b, listed, rfl⟩ := List.mem_map.mp mem
      have above := positive b listed
      have none := List.mem_singleton.mp zero
      omega
    have named := levels.map (f := fun l => name ++ copies l) fun _ _ same => Blueprint.level_of_name same
    rw [List.map_map] at named
    exact named
  case hoisted =>
    intro b mem
    have below := positive b mem
    exact ⟨b.level - 1, by rw [Nat.sub_add_cancel below, Blueprint.name]⟩
  case declared =>
    intro b mem w refers
    obtain ⟨k, listed, rfl⟩ := List.mem_map.mp refers
    obtain ⟨c, inside, level⟩ := List.mem_map.mp (leads b mem k listed).2
    refine List.mem_map.mpr ⟨c, inside, ?_⟩
    rw [Blueprint.name, level, Blueprint.name, List.append_assoc, Blueprint.copies_add]
  case acyclic =>
    intro x path
    exact Nat.lt_irrefl _ (refers_grows downward path)

end Sheet

theorem Schema.sheet_closed (s : Schema) (role : Declaration.Role) (name : Text) : (s.sheet role).Closed name :=
  Sheet.closed_of_covers s.blueprints_cover rfl name

theorem Operation.sheet_closed (op : Operation) (name : Text) : op.sheet.Closed name := by
  refine Sheet.closed_of_covers ?_ rfl name
  rw [Draft.items_body]
  exact op.blueprints_cover

/-! ### Reading closed texts -/

namespace Script

mutual

def Term.references : Term → List Text
  | .name w => if w ∈ keywords then [] else [w]
  | .text _ | .number _ => []
  | .array t => t.references
  | .union ts => referencesOf ts
  | .record members => memberReferences members

def referencesOf : List Term → List Text
  | [] => []
  | t :: ts => t.references ++ referencesOf ts

def memberReferences : Members → List Text
  | [] => []
  | (_, _, t) :: members => t.references ++ memberReferences members

end

theorem references_union_of (ts : List Term) : (unionOf ts).references = referencesOf ts := by
  match ts with
  | [] => rfl
  | [t] => simp [unionOf, referencesOf]
  | _ :: _ :: _ => rfl

theorem references_of_append (ts us : List Term) : referencesOf (ts ++ us) = referencesOf ts ++ referencesOf us := by
  induction ts with
  | nil => rfl
  | cons t ts ih => simp [referencesOf, ih]

theorem keyword_references {w : Text} (keyword : w ∈ keywords) : (Term.name w).references = [] := by
  rw [Term.references, if_pos keyword]

end Script

namespace Schema

open Script (Term Definition unionOf referencesOf memberReferences)

theorem literal_references (kind : Primitive) (v : Json) : (literalType kind v).references = [] := by
  have text : ∀ s, (Term.text s).references = [] := fun _ => rfl
  cases v with
  | str s => exact text s
  | num n =>
    simp only [literalType]
    split
    · exact text _
    · rfl
  | bool b =>
    simp only [literalType]
    split
    · exact text _
    · cases b <;> exact Script.keyword_references (by decide)
  | null | arr _ | obj _ =>
    simp only [literalType]
    split
    · exact text _
    · exact Script.keyword_references (by decide)

theorem literals_references (kind : Primitive) (values : List Json) :
    referencesOf (orAlone .never (values.map (literalType kind))) = [] := by
  have each : ∀ vs : List Json, referencesOf (vs.map (literalType kind)) = [] := by
    intro vs
    induction vs with
    | nil => rfl
    | cons v vs ih => rw [List.map_cons, referencesOf, literal_references, ih, List.append_nil]
  cases values with
  | nil => rfl
  | cons v values => exact each (v :: values)

theorem hoisted_references (name : Text) : (Term.name (Naming.hoisted name)).references = [name ++ copies 1] := by
  have shape : Naming.hoisted name = name ++ copies 1 := by simp [Naming.hoisted, copies]
  rw [shape, Term.references, if_neg (copies_not_keyword name 0)]

mutual

theorem terms_references (s : Schema) (name : Text) :
    referencesOf (s.termsIn name) = s.draft.draft.items.map (name ++ copies ·) := by
  match s with
  | object _ properties required =>
    have members := members_references required.isRequired properties name
    simp only [termsIn, referencesOf, Term.references, List.append_nil, members, draft, DraftType.draft, Draft.items_body]
  | listOf _ item =>
    have inner := terms_references item (Naming.hoisted name)
    simp only [termsIn, draft, referencesOf, Term.references, List.append_nil]
    split
    · exact hoisted_references name
    · rw [Script.references_union_of, inner, DraftType.items_array, DraftType.items_raise, List.map_map]
      exact List.map_congr_left fun k _ => hoisted_copies name k
  | tuple _ _ =>
    simp only [termsIn, referencesOf, Term.references, List.append_nil]
    exact hoisted_references name
  | primitive _ kind => cases kind <;> rfl
  | enumeration _ kind values => rw [termsIn, literals_references, draft, DraftType.items_fixed, List.map_nil]
  | list _ | reference _ _ | any _ | unknown _ _ => rfl

theorem members_references (required : Text → Bool) (properties : Properties) (name : Text) :
    memberReferences (memberTermsIn required properties name) =
      (Draft.items (memberDrafts required properties).flatten).map (name ++ copies ·) := by
  match properties with
  | [] => rfl
  | (_, s) :: rest =>
    rw [memberTermsIn, memberReferences, Script.references_union_of, terms_references s, members_references required rest,
      memberDrafts, List.flatten_cons, Draft.items_append, Draft.items_member, List.map_append]

end

theorem parts_references (members : List Schema) (name : Text) :
    referencesOf (orAlone .any (partTermsIn members name)) =
      (Draft.items (partDrafts members).flatten).map (name ++ copies ·) := by
  have all : ∀ members : List Schema, referencesOf (partTermsIn members name) =
      (Draft.items (partDrafts members).flatten).map (name ++ copies ·) := by
    intro members
    induction members with
    | nil => rfl
    | cons s rest ih =>
      have split : partDrafts (s :: rest) = s.draft.draft :: partDrafts rest := rfl
      rw [partTermsIn, Script.references_of_append, terms_references, ih, split, List.flatten_cons, Draft.items_append,
        List.map_append]
  cases members with
  | nil => rfl
  | cons s rest =>
    have nonempty : partTermsIn (s :: rest) name ≠ [] := by simp [partTermsIn, terms_nonempty]
    rw [orAlone, if_neg (by simpa using nonempty)]
    exact all (s :: rest)

mutual

theorem definitions_references (s : Schema) (name : Text) :
    (s.definitionsIn name).map (·.body.references) = s.blueprints.map (·.references name) := by
  match s with
  | object _ properties _ => exact property_definitions_references properties name
  | listOf _ item =>
    have inner := definitions_references item (Naming.hoisted name)
    rw [definitionsIn, blueprints, List.map_append, List.map_append, Blueprint.references_all_raised, inner]
    split
    · rw [List.map_singleton, List.map_singleton, Script.references_union_of, terms_references, Blueprint.references,
        Blueprint.name_first name rfl]
    · rfl
  | tuple _ members =>
    have inner := part_definitions_references members (Naming.hoisted name)
    rw [definitionsIn, blueprints, List.map_append, List.map_append, Blueprint.references_all_raised, inner,
      List.map_singleton, List.map_singleton, Script.references_union_of, parts_references, Blueprint.references,
      Blueprint.name_first name rfl, Draft.items_alternatives]
  | list _ | primitive _ _ | enumeration _ _ _ | reference _ _ | any _ | unknown _ _ => rfl

theorem property_definitions_references (properties : Properties) (name : Text) :
    (propertyDefinitionsIn properties name).map (·.body.references) =
      (propertyBlueprints properties).map (·.references name) := by
  match properties with
  | [] => rfl
  | (_, s) :: rest =>
    rw [propertyDefinitionsIn, propertyBlueprints, List.map_append, List.map_append, definitions_references s,
      property_definitions_references rest]

theorem part_definitions_references (members : List Schema) (name : Text) :
    (partDefinitionsIn members name).map (·.body.references) = (partBlueprints members).map (·.references name) := by
  match members with
  | [] => rfl
  | s :: rest =>
    rw [partDefinitionsIn, partBlueprints, List.map_append, List.map_append, definitions_references s,
      part_definitions_references rest]

end

def BlueprintReads (name : Text) (b : Blueprint) (d : Definition) : Prop :=
  Declares (b.declaration name) d ∧ d.body.references = b.references name

theorem blueprint_reads_of_lists {name : Text} {bs : List Blueprint} {definitions : List Definition}
    (declares : List.Forall₂ Declares (bs.map (·.declaration name)) definitions)
    (references : definitions.map (·.body.references) = bs.map (·.references name)) :
    ∀ b ∈ bs, ∃ d, BlueprintReads name b d := by
  induction bs generalizing definitions with
  | nil => simp
  | cons b bs ih =>
    cases declares with
    | cons first later =>
      obtain ⟨same, rest⟩ := List.cons.inj references
      exact List.forall_mem_cons.mpr ⟨⟨_, first, same⟩, ih later rest⟩

theorem blueprints_read (s : Schema) {name : Text} (named : Script.isName name = true) :
    ∀ b ∈ s.blueprints, ∃ d, BlueprintReads name b d := by
  have declares := insertions_declare s named
  rw [insertions_drafted] at declares
  exact blueprint_reads_of_lists declares (definitions_references s name)

theorem property_blueprints_read (properties : Properties) {name : Text} (named : Script.isName name = true) :
    ∀ b ∈ propertyBlueprints properties, ∃ d, BlueprintReads name b d := by
  have declares := property_insertions_declare properties named
  rw [property_insertions_drafted] at declares
  exact blueprint_reads_of_lists declares (property_definitions_references properties name)

theorem root_reads (s : Schema) (role : Declaration.Role) {name : Text} (named : Script.isName name = true) :
    ∃ d, BlueprintReads name (s.sheet role).root d := by
  have declares := root_declares s named role
  rw [root_drafted] at declares
  refine ⟨_, declares, ?_⟩
  rw [Script.references_union_of, terms_references]
  simp [Blueprint.references, Blueprint.name, sheet, copies]

end Schema

namespace Operation

open Script (Definition unionOf memberReferences)
open Schema (BlueprintReads)

def memberTerms (op : Operation) (name : Text) : Script.Members :=
  match loneBody? op.parameters with
  | some (required, properties) => Schema.memberTermsIn required properties name
  | none => op.parameters.map fun p => (p.name, !p.required, unionOf (p.schema.termsIn name))

theorem members_show (op : Operation) {name : Text} (named : Script.isName name = true) :
    Script.MembersText (op.membersIn name).flatten (op.memberTerms name) := by
  unfold membersIn members memberTerms
  cases loneBody? op.parameters with
  | some lone => exact Schema.members_show lone.1 lone.2 named
  | none =>
    simp only [parameter_members_insert]
    induction op.parameters with
    | nil => exact Script.no_member_text
    | cons p ps ih =>
      rw [List.map_cons, List.flatten_cons, List.map_cons]
      exact Script.member_text p.required p.description (p.schema.type_shows named).alternatives ih

theorem members_references (op : Operation) (name : Text) :
    memberReferences (op.memberTerms name) = (Draft.items op.memberDrafts.flatten).map (name ++ copies ·) := by
  unfold memberTerms memberDrafts
  cases loneBody? op.parameters with
  | some lone => exact Schema.members_references lone.1 lone.2 name
  | none =>
    simp only
    induction op.parameters with
    | nil => rfl
    | cons p ps ih =>
      rw [List.map_cons, memberReferences, Script.references_union_of, Schema.terms_references, ih, List.map_cons,
        List.flatten_cons, Draft.items_append, Draft.items_member, List.map_append]

theorem blueprints_read (op : Operation) {name : Text} (named : Script.isName name = true) :
    ∀ b ∈ op.blueprints, ∃ d, BlueprintReads name b d := by
  unfold blueprints
  cases loneBody? op.parameters with
  | some lone => exact Schema.property_blueprints_read lone.2 named
  | none =>
    intro b mem
    obtain ⟨p, -, inside⟩ := List.mem_flatMap.mp mem
    exact p.schema.blueprints_read named b inside

theorem root_reads (op : Operation) {name : Text} (named : Script.isName name = true) :
    ∃ d, BlueprintReads name op.sheet.root d := by
  have text := Script.interface_text named op.paramsComment? .params (op.members_show named)
  refine ⟨⟨name, .record (op.memberTerms name)⟩, ⟨?_, ?_⟩, ?_⟩
  · simp [sheet, Blueprint.declaration, Blueprint.name, copies]
  · rw [← root_drafted]
    exact text
  · rw [Script.Term.references, members_references]
    simp [Blueprint.references, Blueprint.name, sheet, copies, Draft.items_body]

end Operation

namespace Sheet

/-- Read back, the text defines the names of the sheet, and each definition refers to the names it should. -/
def Readable (sheet : Sheet) (name : Text) : Prop :=
  ∃ definitions, Script.read? (sheet.text name) = some definitions ∧
    definitions.map (·.name) = sheet.all.map (·.name name) ∧
    definitions.map (·.body.references) = sheet.all.map (·.references name)

theorem readable {sheet : Sheet} {name : Text} (reads : ∀ b ∈ sheet.all, ∃ d, Schema.BlueprintReads name b d) :
    sheet.Readable name := by
  have paired : ∀ bs : List Blueprint, (∀ b ∈ bs, ∃ d, Schema.BlueprintReads name b d) →
      ∃ definitions, List.Forall₂ Schema.Declares (bs.map (·.declaration name)) definitions ∧
        definitions.map (·.name) = bs.map (·.name name) ∧
        definitions.map (·.body.references) = bs.map (·.references name) := by
    intro bs
    induction bs with
    | nil => exact fun _ => ⟨[], .nil, rfl, rfl⟩
    | cons b bs ih =>
      intro each
      obtain ⟨⟨d, declares, references⟩, later⟩ := List.forall_mem_cons.mp each
      obtain ⟨definitions, rest, names, others⟩ := ih later
      refine ⟨d :: definitions, .cons declares rest, ?_, ?_⟩
      · rw [List.map_cons, List.map_cons, names, ← declares.1]
        rfl
      · rw [List.map_cons, List.map_cons, others, references]
  obtain ⟨definitions, declares, names, references⟩ := paired sheet.all reads
  have read := Schema.declarations_read declares
  rw [List.map_map] at read
  exact ⟨definitions, read, names, references⟩

theorem readable_of_latest {bs : List Blueprint} {root : Blueprint} {name : Text}
    (inner : ∀ b ∈ bs, ∃ d, Schema.BlueprintReads name b d) (own : ∃ d, Schema.BlueprintReads name root d) :
    Readable ⟨Blueprint.latest bs, root⟩ name := by
  refine readable fun b mem => ?_
  rcases List.mem_append.mp mem with hoisted | top
  · exact inner b (Blueprint.latest_mem hoisted)
  · rw [List.mem_singleton.mp top]
    exact own

end Sheet

/-- Every generated text is closed, declares no name twice and has no circular types, for schemas and for what
operations ask for. The sheet says what the text declares and refers to under any name; where the name is one of the
language, a reader finds just that. -/
theorem generated_texts_are_closed :
    (∀ (s : Schema) (role : Declaration.Role), ∃ sheet : Sheet, ∀ name,
      s.declare name role = sheet.text name ∧
      (s.hoist name Table.empty).2.declarations = sheet.hoisted.map (·.declaration name) ∧
      sheet.Closed name ∧ (Script.isName name = true → sheet.Readable name)) ∧
    (∀ op : Operation, ∃ sheet : Sheet, ∀ name,
      op.paramsText name = sheet.text name ∧
      (op.members name).2.declarations = sheet.hoisted.map (·.declaration name) ∧
      sheet.Closed name ∧ (Script.isName name = true → sheet.Readable name)) := by
  constructor
  · intro s role
    refine ⟨s.sheet role, fun name => ⟨s.declare_sheet name role, ?_, ?_, ?_⟩⟩
    · rw [Schema.hoist_inserts, Schema.insertions_drafted]
      exact Blueprint.table_latest name s.blueprints
    · exact s.sheet_closed role name
    · exact fun named => Sheet.readable_of_latest (s.blueprints_read named) (s.root_reads role named)
  · intro op
    refine ⟨op.sheet, fun name => ⟨op.params_sheet name, ?_, ?_, ?_⟩⟩
    · rw [Operation.members_insert, Operation.insertions_drafted]
      exact Blueprint.table_latest name op.blueprints
    · exact op.sheet_closed name
    · exact fun named => Sheet.readable_of_latest (op.blueprints_read named) (op.root_reads named)

/-- Two lists of records beside each other. The records of the second take the place of those of the first, and what
the first were to refer to is left behind. -/
def stalls : Schema :=
  .object Notes.none
    [("fruit".toList, .listOf Notes.none (.object Notes.none
        [("sorts".toList, .listOf Notes.none (.object Notes.none [] .unspecified))] .unspecified)),
      ("bread".toList, .listOf Notes.none (.object Notes.none [("price".toList, .primitive Notes.none .number)]
        .unspecified))]
    .unspecified

def stallsText : Text :=
  Text.joinWith ['\n'] <| List.map String.toList
    ["export interface StallsItemItem \x7b\x7d", "", "export interface StallsItem \x7b", "price: number;", "\x7d", "",
     "export interface Stalls \x7b", "fruit: StallsItem[];", "bread: StallsItem[];", "\x7d", ""]

theorem stalls_are_closed :
    Script.isName "Stalls".toList = true ∧ ((stalls.hoist "Stalls".toList Table.empty).2.declarations.map (·.name) =
        ["StallsItemItem".toList, "StallsItem".toList]) ∧
      stalls.declare "Stalls".toList .entity = stallsText ∧
      ∃ sheet : Sheet, sheet.text "Stalls".toList = stallsText ∧
        sheet.Closed "Stalls".toList ∧ sheet.Readable "Stalls".toList := by
  have named : Script.isName "Stalls".toList = true := by decide
  have written : stalls.declare "Stalls".toList .entity = stallsText := by decide +kernel
  obtain ⟨sheet, describes⟩ := generated_texts_are_closed.1 stalls .entity
  obtain ⟨text, -, closed, readable⟩ := describes "Stalls".toList
  exact ⟨named, by decide, written, sheet, text.symm.trans written, closed, readable named⟩

end ApiTypes
