import Mathlib.Data.List.Nodup
import ApiTypes.Proofs.Writing
/-!
Declarations with their name left open. What is written for a schema depends on the name of the declaration only where
a hoisted declaration is named: there the name stands, followed by copies of `Item`. So everything that is hoisted can be
drafted without a name, and which of several declarations of one name stays is settled there too.
-/
namespace ApiTypes

open Declaration (Table)
open Schema (copies hoisted_copies)

/-! ### Drafts -/

/-- A piece of a text: written as it is, or the name of the declaration followed by copies of `Item`. -/
inductive Slot where
  | fixed (t : Text)
  | item (copies : Nat)

namespace Slot

def fill (name : Text) : Slot → Text
  | fixed t => t
  | item k => name ++ copies k

def raise : Slot → Slot
  | fixed t => fixed t
  | item k => item (k + 1)

def item? : Slot → Option Nat
  | fixed _ => none
  | item k => some k

end Slot

abbrev Draft := List Slot

namespace Draft

def fill (name : Text) (d : Draft) : Text := d.flatMap (Slot.fill name)

def items (d : Draft) : List Nat := d.filterMap Slot.item?

def raise (d : Draft) : Draft := d.map Slot.raise

@[simp] theorem fill_append (name : Text) (d e : Draft) : fill name (d ++ e) = fill name d ++ fill name e :=
  List.flatMap_append

@[simp] theorem fill_cons (name : Text) (slot : Slot) (d : Draft) : fill name (slot :: d) = slot.fill name ++ fill name d :=
  List.flatMap_cons

@[simp] theorem fill_nil (name : Text) : fill name [] = [] := rfl

@[simp] theorem items_nil : items [] = [] := rfl

@[simp] theorem items_append (d e : Draft) : items (d ++ e) = items d ++ items e := List.filterMap_append

@[simp] theorem items_fixed (t : Text) (d : Draft) : items (.fixed t :: d) = items d := rfl

theorem fill_flatten (name : Text) (ds : List Draft) : fill name ds.flatten = (ds.map (fill name)).flatten := by
  induction ds with
  | nil => rfl
  | cons d ds ih => simp [ih]

theorem fill_raise (name : Text) (d : Draft) : fill name d.raise = fill (Naming.hoisted name) d := by
  induction d with
  | nil => rfl
  | cons slot d ih =>
    rw [raise, List.map_cons, fill_cons, ← raise, ih, fill_cons]
    cases slot with
    | fixed t => rfl
    | item k => simp only [Slot.raise, Slot.fill, hoisted_copies]

theorem items_raise (d : Draft) : d.raise.items = d.items.map (· + 1) := by
  induction d with
  | nil => rfl
  | cons slot d ih =>
    cases slot with
    | fixed t => exact ih
    | item k => exact congrArg ((k + 1) :: ·) ih

/-! What types are made of, as drafts. -/

def member (name : Text) (type : Draft) (required : Bool) (comment : Option Text) : Draft :=
  [.fixed (Comment.lead comment ++ Record.key name ++ (if required then [] else ['?']) ++ ": ".toList)] ++ type ++
    [.fixed ";\n".toList]

def body (members : List Draft) : Draft :=
  if members.isEmpty then [.fixed ['{', '}']] else [.fixed ['{', '\n']] ++ members.flatten ++ [.fixed ['}']]

def join (separator : Text) : List Draft → Draft
  | [] => []
  | [d] => d
  | d :: e :: rest => d ++ [.fixed separator] ++ join separator (e :: rest)

def alternatives (none : Text) (ds : List Draft) : Draft := if ds.isEmpty then [.fixed none] else join " | ".toList ds

theorem fill_member (name property : Text) (type : Draft) (required : Bool) (comment : Option Text) :
    fill name (member property type required comment) = Record.member property (fill name type) required comment := by
  simp [member, Record.member, Slot.fill]

theorem fill_body (name : Text) (members : List Draft) :
    fill name (body members) = Record.body (members.map (fill name)) := by
  cases members with
  | nil => rfl
  | cons m rest => simp [body, Record.body, Slot.fill, fill_flatten]

theorem fill_join (name separator : Text) (ds : List Draft) :
    fill name (join separator ds) = Text.joinWith separator (ds.map (fill name)) := by
  induction ds with
  | nil => rfl
  | cons d ds ih =>
    cases ds with
    | nil => rfl
    | cons e ds =>
      rw [join, fill_append, fill_append, ih]
      simp [Text.joinWith, Slot.fill]

theorem fill_alternatives (name none : Text) (ds : List Draft) :
    fill name (alternatives none ds) = (TypeExpr.alternatives none (ds.map (fill name))).text := by
  match ds with
  | [] => simp [alternatives, TypeExpr.alternatives, TypeExpr.text, Slot.fill]
  | [d] => rfl
  | d :: e :: rest => exact fill_join name _ _

theorem items_member (name : Text) (type : Draft) (required : Bool) (comment : Option Text) :
    items (member name type required comment) = items type := by
  simp [member]

theorem items_body (members : List Draft) : items (body members) = items members.flatten := by
  cases members with
  | nil => rfl
  | cons m rest => simp [body]

theorem items_join (separator : Text) (ds : List Draft) : items (join separator ds) = items ds.flatten := by
  induction ds with
  | nil => rfl
  | cons d ds ih =>
    cases ds with
    | nil => simp [join]
    | cons e ds => simp [join, ih]

theorem items_alternatives (none : Text) (ds : List Draft) : items (alternatives none ds) = items ds.flatten := by
  cases ds with
  | nil => rfl
  | cons d ds => exact items_join _ _

end Draft

inductive DraftType where
  | inline (draft : Draft)
  | union (draft : Draft)
  | reference (draft : Draft)

namespace DraftType

def draft : DraftType → Draft
  | inline d | union d | reference d => d

def fill (name : Text) : DraftType → TypeExpr
  | inline d => .inline (d.fill name)
  | union d => .union (d.fill name)
  | reference d => .reference (d.fill name)

def fixed : TypeExpr → DraftType
  | .inline t => inline [.fixed t]
  | .union t => union [.fixed t]
  | .reference t => reference [.fixed t]

def raise : DraftType → DraftType
  | inline d => inline d.raise
  | union d => union d.raise
  | reference d => reference d.raise

def array : DraftType → DraftType
  | inline d => inline (d ++ [.fixed TypeExpr.arrayMark])
  | union d => inline ([.fixed ['(']] ++ d ++ [.fixed ([')'] ++ TypeExpr.arrayMark)])
  | reference d => reference (d ++ [.fixed TypeExpr.arrayMark])

def itemArray : DraftType := reference [.item 1, .fixed TypeExpr.arrayMark]

theorem fill_text (name : Text) (t : DraftType) : (t.fill name).text = t.draft.fill name := by
  cases t <;> rfl

theorem fill_fixed (name : Text) (e : TypeExpr) : (fixed e).fill name = e := by
  cases e <;> simp [fixed, fill, Slot.fill]

theorem fill_raise (name : Text) (t : DraftType) : t.raise.fill name = t.fill (Naming.hoisted name) := by
  cases t <;> simp only [raise, fill, Draft.fill_raise]

theorem fill_array (name : Text) (t : DraftType) : t.array.fill name = (t.fill name).array := by
  cases t <;> simp [array, fill, TypeExpr.array, TypeExpr.arrayText, TypeExpr.text, Slot.fill]

theorem fill_item_array (name : Text) : itemArray.fill name = .reference (Naming.hoisted name ++ TypeExpr.arrayMark) := by
  simp [itemArray, fill, Slot.fill, Naming.hoisted, copies]

theorem items_fixed (e : TypeExpr) : (fixed e).draft.items = [] := by
  cases e <;> rfl

theorem items_raise (t : DraftType) : t.raise.draft.items = t.draft.items.map (· + 1) := by
  cases t <;> exact Draft.items_raise _

theorem items_array (t : DraftType) : t.array.draft.items = t.draft.items := by
  cases t <;> simp [array, draft]

end DraftType

/-! ### Blueprints -/

/-- A declaration whose name is that of the root followed by `level` copies of `Item`. Its body is drafted for its own
name. -/
structure Blueprint where
  level : Nat
  kind : Declaration.Kind
  body : Draft
  comment : Option Text
  role : Declaration.Role

namespace Blueprint

def name (root : Text) (b : Blueprint) : Text := root ++ copies b.level

def declaration (root : Text) (b : Blueprint) : Declaration :=
  ⟨b.name root, b.kind, b.body.fill (b.name root), b.comment, b.role⟩

def references (root : Text) (b : Blueprint) : List Text := b.body.items.map fun k => b.name root ++ copies k

def raise (b : Blueprint) : Blueprint := { b with level := b.level + 1 }

theorem name_raise (root : Text) (b : Blueprint) : b.raise.name root = b.name (Naming.hoisted root) := by
  rw [name, name, hoisted_copies]
  rfl

theorem declaration_raise (root : Text) (b : Blueprint) :
    b.raise.declaration root = b.declaration (Naming.hoisted root) := by
  rw [declaration, name_raise]
  rfl

theorem references_raise (root : Text) (b : Blueprint) :
    b.raise.references root = b.references (Naming.hoisted root) := by
  rw [references, name_raise]
  rfl

theorem declarations_raise (root : Text) (bs : List Blueprint) :
    (bs.map raise).map (declaration root) = bs.map (declaration (Naming.hoisted root)) := by
  rw [List.map_map]
  exact List.map_congr_left fun b _ => declaration_raise root b

theorem references_all_raised (root : Text) (bs : List Blueprint) :
    (bs.map raise).map (references root) = bs.map (references (Naming.hoisted root)) := by
  rw [List.map_map]
  exact List.map_congr_left fun b _ => references_raise root b

/- What is hoisted once has one copy. -/
theorem name_first (root : Text) {b : Blueprint} (first : b.level = 1) : b.name root = Naming.hoisted root := by
  simp [name, first, copies, Naming.hoisted]

theorem copies_length (k : Nat) : (copies k).length = 4 * k := by
  induction k with
  | zero => rfl
  | succ k ih =>
    rw [copies, List.replicate_succ, List.flatten_cons, List.length_append, ← copies, ih]
    have suffix : Naming.Role.item.suffix.length = 4 := by decide
    omega

theorem copies_add (i j : Nat) : copies (i + j) = copies i ++ copies j := by
  rw [copies, copies, copies, List.replicate_add, List.flatten_append]

theorem level_of_name {root : Text} {i j : Nat} (same : root ++ copies i = root ++ copies j) : i = j := by
  have lengths := congrArg List.length (List.append_cancel_left same)
  rw [copies_length, copies_length] at lengths
  omega

end Blueprint

namespace Schema

mutual

def draft : Schema → DraftType
  | object _ properties required => .inline (Draft.body (memberDrafts required.isRequired properties))
  | list _ => .fixed (.inline TypeExpr.any.arrayText)
  | listOf _ item => if item.isObject then .itemArray else item.draft.raise.array
  | tuple _ _ => .itemArray
  | primitive _ kind => .fixed (.inline kind.name)
  | enumeration _ kind values => .fixed (TypeExpr.literals kind values)
  | reference _ _ | any _ | unknown _ _ => .fixed TypeExpr.any

def memberDrafts (required : Text → Bool) : Properties → List Draft
  | [] => []
  | (property, s) :: rest =>
    Draft.member property s.draft.draft (required property) s.comment? :: memberDrafts required rest

end

def partDrafts (members : List Schema) : List Draft := members.map fun s => s.draft.draft

mutual

def blueprints : Schema → List Blueprint
  | object _ properties _ => propertyBlueprints properties
  | listOf _ item =>
    item.blueprints.map .raise ++
      if item.isObject then [⟨1, .interface, item.draft.draft, item.comment?, .nestedItem⟩] else []
  | tuple _ members =>
    (partBlueprints members).map .raise ++
      [⟨1, .typeAlias, Draft.alternatives "any".toList (partDrafts members), none, .nestedItem⟩]
  | list _ | primitive _ _ | enumeration _ _ _ | reference _ _ | any _ | unknown _ _ => []

def propertyBlueprints : Properties → List Blueprint
  | [] => []
  | (_, s) :: rest => s.blueprints ++ propertyBlueprints rest

def partBlueprints : List Schema → List Blueprint
  | [] => []
  | s :: rest => s.blueprints ++ partBlueprints rest

end

mutual

theorem type_in_draft (s : Schema) (name : Text) : s.typeIn name = s.draft.fill name := by
  match s with
  | object _ properties required =>
    have members := members_in_draft required.isRequired properties name
    rw [draft, DraftType.fill, Draft.fill_body, ← members]
    rfl
  | listOf _ item =>
    rw [type_in_list_of, draft]
    split
    · rw [DraftType.fill_item_array]
    · rw [DraftType.fill_array, DraftType.fill_raise, type_in_draft item]
  | tuple _ _ => exact (DraftType.fill_item_array name).symm
  | list _ | primitive _ _ | enumeration _ _ _ | reference _ _ | any _ | unknown _ _ =>
    exact (DraftType.fill_fixed name _).symm

theorem members_in_draft (required : Text → Bool) (properties : Properties) (name : Text) :
    membersIn required properties name = (memberDrafts required properties).map (Draft.fill name) := by
  match properties with
  | [] => rfl
  | (property, s) :: rest =>
    rw [members_in_cons, memberDrafts, List.map_cons, Draft.fill_member, ← DraftType.fill_text, type_in_draft s,
      members_in_draft required rest]

end

theorem parts_in_draft (members : List Schema) (name : Text) :
    partsIn members name = (partDrafts members).map (Draft.fill name) := by
  induction members with
  | nil => rfl
  | cons s rest ih =>
    rw [parts_in_cons, ih, type_in_draft, DraftType.fill_text]
    rfl

mutual

theorem insertions_drafted (s : Schema) (name : Text) : s.insertions name = s.blueprints.map (·.declaration name) := by
  match s with
  | object _ properties _ => exact property_insertions_drafted properties name
  | listOf _ item =>
    have inner := insertions_drafted item (Naming.hoisted name)
    rw [insertions, blueprints, List.map_append, Blueprint.declarations_raise, inner]
    split
    · rw [type_in_draft, DraftType.fill_text, List.map_singleton, Blueprint.declaration, Blueprint.name_first name rfl]
    · rfl
  | tuple _ members =>
    have inner := part_insertions_drafted members (Naming.hoisted name)
    rw [insertions, blueprints, List.map_append, Blueprint.declarations_raise, inner, parts_in_draft,
      ← Draft.fill_alternatives, List.map_singleton, Blueprint.declaration, Blueprint.name_first name rfl]
  | list _ | primitive _ _ | enumeration _ _ _ | reference _ _ | any _ | unknown _ _ => rfl

theorem property_insertions_drafted (properties : Properties) (name : Text) :
    propertyInsertions properties name = (propertyBlueprints properties).map (·.declaration name) := by
  match properties with
  | [] => rfl
  | (_, s) :: rest =>
    rw [propertyInsertions, propertyBlueprints, List.map_append, insertions_drafted s,
      property_insertions_drafted rest]

theorem part_insertions_drafted (members : List Schema) (name : Text) :
    partInsertions members name = (partBlueprints members).map (·.declaration name) := by
  match members with
  | [] => rfl
  | s :: rest =>
    rw [partInsertions, partBlueprints, List.map_append, insertions_drafted s, part_insertions_drafted rest]

end

end Schema

/-! ### Which declarations stay -/

namespace Blueprint

def leveled (bs : List Blueprint) : List (Nat × Blueprint) := bs.map fun b => (b.level, b)

/-- Of the blueprints of one level the last one, in the place of the first. -/
def latest (bs : List Blueprint) : List Blueprint := (Ordered.ofList (leveled bs)).map Prod.snd

theorem latest_entry {bs : List Blueprint} {e : Nat × Blueprint} (mem : e ∈ Ordered.ofList (leveled bs)) :
    e.1 = e.2.level ∧ e.2 ∈ bs := by
  rcases Ordered.put_all_mem mem with before | put
  · simp at before
  · obtain ⟨b, listed, rfl⟩ := List.mem_map.mp put
    exact ⟨rfl, listed⟩

theorem latest_mem {bs : List Blueprint} {b : Blueprint} (mem : b ∈ latest bs) : b ∈ bs := by
  obtain ⟨e, inside, rfl⟩ := List.mem_map.mp mem
  exact (latest_entry inside).2

theorem latest_levels (bs : List Blueprint) : (latest bs).map level = Ordered.keys (Ordered.ofList (leveled bs)) := by
  rw [latest, List.map_map, Ordered.keys]
  exact List.map_congr_left fun e mem => (latest_entry mem).1.symm

theorem latest_apart (bs : List Blueprint) : ((latest bs).map level).Nodup := by
  rw [latest_levels]
  exact Ordered.put_all_keys_apart (by simp [Ordered.WellFormed, Ordered.keys])

theorem latest_level_iff {bs : List Blueprint} {l : Nat} : l ∈ (latest bs).map level ↔ l ∈ bs.map level := by
  rw [latest_levels, Ordered.ofList, Ordered.put_all_key_iff]
  simp [Ordered.keys, leveled]

theorem table_latest (root : Text) (bs : List Blueprint) :
    ((bs.map (declaration root)).foldl Table.insert .empty).declarations = (latest bs).map (declaration root) := by
  have moved := Ordered.put_all_map (f := fun l => root ++ copies l) (fun _ _ same => level_of_name same) (declaration root)
    (leveled bs) []
  have entries : (bs.map (declaration root)).map (fun d => (d.name, d)) =
      (leveled bs).map fun e => (root ++ copies e.1, declaration root e.2) := by
    rw [leveled, List.map_map, List.map_map]
    rfl
  rw [Table.declarations, Schema.insert_all_entries, entries, latest, List.map_map]
  have seconds := congrArg (List.map Prod.snd) moved
  rw [List.map_map] at seconds
  exact seconds.symm

end Blueprint

/-! ### Whole texts -/

structure Sheet where
  hoisted : List Blueprint
  root : Blueprint

namespace Sheet

def all (sheet : Sheet) : List Blueprint := sheet.hoisted ++ [sheet.root]

def text (sheet : Sheet) (name : Text) : Text :=
  Text.joinWith ['\n'] (sheet.all.map fun b => (b.declaration name).render)

theorem assemble_text (name : Text) (bs : List Blueprint) (root : Blueprint) :
    ((bs.map (·.declaration name)).foldl Table.insert .empty).assemble (root.declaration name) =
      text ⟨Blueprint.latest bs, root⟩ name := by
  rw [Table.assemble, Blueprint.table_latest, text, all, List.map_append, List.map_append, List.map_map]
  rfl

end Sheet

def Schema.sheet (s : Schema) (role : Declaration.Role) : Sheet :=
  ⟨Blueprint.latest s.blueprints, ⟨0, s.declarationKind, s.draft.draft, s.comment?, role⟩⟩

theorem Schema.root_drafted (s : Schema) (name : Text) (role : Declaration.Role) :
    s.rootDeclaration name role = (s.sheet role).root.declaration name := by
  simp [rootDeclaration, sheet, Blueprint.declaration, Blueprint.name, copies, type_in_draft, DraftType.fill_text]

theorem Schema.declare_sheet (s : Schema) (name : Text) (role : Declaration.Role) :
    s.declare name role = (s.sheet role).text name := by
  rw [sheet, ← Sheet.assemble_text, ← insertions_drafted]
  simp only [declare, hoist_inserts]
  exact congrArg (Table.assemble _) (s.root_drafted name role)

namespace Operation

def memberDrafts (op : Operation) : List Draft :=
  match loneBody? op.parameters with
  | some (required, properties) => Schema.memberDrafts required properties
  | none => op.parameters.map fun p => Draft.member p.name p.schema.draft.draft p.required p.description

def blueprints (op : Operation) : List Blueprint :=
  match loneBody? op.parameters with
  | some (_, properties) => Schema.propertyBlueprints properties
  | none => op.parameters.flatMap fun p => p.schema.blueprints

def sheet (op : Operation) : Sheet :=
  ⟨Blueprint.latest op.blueprints, ⟨0, .interface, Draft.body op.memberDrafts, op.paramsComment?, .params⟩⟩

theorem members_in_draft (op : Operation) (name : Text) : op.membersIn name = op.memberDrafts.map (Draft.fill name) := by
  unfold membersIn members memberDrafts
  cases loneBody? op.parameters with
  | none =>
    simp only [parameter_members_insert, List.map_map]
    refine List.map_congr_left fun p _ => ?_
    rw [Function.comp_apply, Draft.fill_member, ← DraftType.fill_text, ← Schema.type_in_draft]
  | some lone => exact Schema.members_in_draft lone.1 lone.2 name

theorem insertions_drafted (op : Operation) (name : Text) : op.insertions name = op.blueprints.map (·.declaration name) := by
  unfold insertions blueprints
  cases loneBody? op.parameters with
  | none =>
    rw [List.map_flatMap]
    exact List.flatMap_congr fun p _ => Schema.insertions_drafted p.schema name
  | some lone => exact Schema.property_insertions_drafted lone.2 name

theorem root_drafted (op : Operation) (name : Text) :
    (⟨name, .interface, Record.body (op.membersIn name), op.paramsComment?, .params⟩ : Declaration) =
      op.sheet.root.declaration name := by
  simp [sheet, Blueprint.declaration, Blueprint.name, copies, members_in_draft, Draft.fill_body]

theorem params_sheet (op : Operation) (name : Text) : op.paramsText name = op.sheet.text name := by
  rw [sheet, ← Sheet.assemble_text, ← insertions_drafted]
  simp only [paramsText, members_insert]
  exact congrArg (Table.assemble _) (op.root_drafted name)

end Operation

end ApiTypes
