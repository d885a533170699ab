import ApiTypes.Artifact
import ApiTypes.Proofs.Camel
import ApiTypes.Proofs.Hoisting
import ApiTypes.Proofs.Script.Numeral
/-!
What is written for schemas and operations is put together in a few ways: words and literals, marks of arrays,
alternatives, members between braces. What holds of all words and literals and is kept by each of these ways holds of
the type of every schema, and of the body of everything that is hoisted out of it.
-/
namespace ApiTypes

open Layout (Plain plain_of)

/-! ### Numerals -/

def isNumeralPart (c : Char) : Bool := Text.isDigit c || ['-', '+', '.', 'e', 'E'].contains c

theorem numeral_next_part {s s' : Script.Numeral} {c : Char} (next : s.next? c = some s') : isNumeralPart c = true := by
  cases s <;> simp only [Script.Numeral.next?] at next <;> grind [isNumeralPart]

theorem numeral_start_part {s : Script.Numeral} {c : Char} (start : Script.Numeral.start? c = some s) :
    isNumeralPart c = true := by
  simp only [Script.Numeral.start?] at start
  grind [isNumeralPart]

theorem numeral_run_parts {s s' : Script.Numeral} {t : Text} (run : s.run? t = some s') :
    t.all isNumeralPart = true := by
  induction t generalizing s with
  | nil => rfl
  | cons c t ih =>
    simp only [Script.Numeral.run?, Option.bind_eq_some_iff] at run
    obtain ⟨next, step, later⟩ := run
    rw [List.all_cons, numeral_next_part step, ih later]
    rfl

theorem number_plain (n : Json.Number) : Plain n.text := by
  have numeral := Script.number_is_numeral n
  have parts : n.text.all isNumeralPart = true := by
    cases text : n.text with
    | nil => rfl
    | cons c t =>
      rw [text] at numeral
      obtain ⟨s, s', start, run, -⟩ := numeral
      rw [List.all_cons, numeral_start_part start, numeral_run_parts run]
      rfl
  exact List.all_eq_true.mpr fun c mem => plain_of (by decide) (by decide) (List.all_eq_true.mp parts c mem)

theorem primitive_plain (kind : Primitive) : Plain kind.name := by
  cases kind <;> decide

/-! ### Ways of writing -/

/-- A property of what stands inside lines, kept where words and literals are put one after the other. -/
structure Wording (inside : Text → Prop) : Prop where
  plain : ∀ {t : Text}, Plain t → inside t
  quote : ∀ t : Text, inside (Json.quote t)
  append : ∀ {t u : Text}, inside t → inside u → inside (t ++ u)

namespace Wording

variable {inside : Text → Prop} (wording : Wording inside)

include wording

theorem any : inside TypeExpr.any.text := wording.plain (by decide)

theorem join {separator : Text} {ts : List Text} (between : inside separator) (nonempty : ts ≠ [])
    (each : ∀ t ∈ ts, inside t) : inside (Text.joinWith separator ts) := by
  induction ts with
  | nil => exact absurd rfl nonempty
  | cons t ts ih =>
    cases ts with
    | nil => exact each t (by simp)
    | cons u ts =>
      rw [Text.joinWith]
      have lead := wording.append (each t (by simp)) between
      exact wording.append lead (ih (by simp) fun v mem => each v (List.mem_cons_of_mem t mem))

theorem alternatives {alone : Text} {ts : List Text} (otherwise : inside alone) (each : ∀ t ∈ ts, inside t) :
    inside (TypeExpr.alternatives alone ts).text := by
  match ts with
  | [] => exact otherwise
  | [t] => exact each t (by simp)
  | t :: u :: rest => exact wording.join (wording.plain (by decide)) (by simp) each

theorem literal (kind : Primitive) (v : Json) : inside (TypeExpr.literal kind v) := by
  unfold TypeExpr.literal
  split
  · exact wording.quote _
  · split
    · exact wording.quote _
    · split
      · exact wording.any
      · exact wording.any
      · rename_i notObject notArray
        cases v with
        | null => exact wording.plain (by decide)
        | bool b => cases b <;> exact wording.plain (by decide)
        | num n => exact wording.plain (number_plain n)
        | str s => exact wording.quote s
        | arr items => exact absurd rfl (notArray items)
        | obj fields => exact absurd rfl (notObject fields)

theorem literals (kind : Primitive) (values : List Json) : inside (TypeExpr.literals kind values).text := by
  apply wording.alternatives (wording.plain (by decide))
  intro t mem
  obtain ⟨v, -, rfl⟩ := List.mem_map.mp mem
  exact wording.literal kind v

end Wording

/-- A property of what stands inside lines and one of whole lines, kept by all ways in which types are written. -/
structure Writing (inside whole : Text → Prop) : Prop extends Wording inside where
  parenthesized : ∀ {t : Text}, inside t → inside (['('] ++ t ++ [')'])
  arrayMark : inside TypeExpr.arrayMark
  member : ∀ {type : Text}, inside type → ∀ name required comment, whole (Record.member name type required comment)
  body : ∀ {members : List Text}, (∀ m ∈ members, whole m) → inside (Record.body members)

namespace Writing

variable {inside whole : Text → Prop} (writing : Writing inside whole)

include writing

theorem arrayText {e : TypeExpr} (element : inside e.text) : inside e.arrayText := by
  cases e with
  | union t => exact writing.append (writing.parenthesized element) writing.arrayMark
  | inline t | reference t => exact writing.append element writing.arrayMark

theorem array {e : TypeExpr} (element : inside e.text) : inside e.array.text := by
  cases e with
  | union t | inline t => exact writing.arrayText element
  | reference t => exact writing.append element writing.arrayMark

/-! ### Schemas -/

mutual

theorem type (s : Schema) {name : Text} (plain : Plain name) : inside (s.typeIn name).text := by
  match s with
  | .object _ properties required => exact writing.body (members required.isRequired properties plain)
  | .list _ => exact writing.arrayText writing.any
  | .listOf _ item =>
    have itemPlain := Naming.hoisted_plain plain
    rw [Schema.type_in_list_of]
    split
    · exact writing.append (writing.plain itemPlain) writing.arrayMark
    · exact writing.array (type item itemPlain)
  | .tuple _ _ => exact writing.append (writing.plain (Naming.hoisted_plain plain)) writing.arrayMark
  | .primitive _ kind => exact writing.plain (primitive_plain kind)
  | .enumeration _ kind values => exact writing.literals kind values
  | .reference _ _ | .any _ | .unknown _ _ => exact writing.any

theorem members (required : Text → Bool) (properties : Schema.Properties) {name : Text} (plain : Plain name) :
    ∀ m ∈ Schema.membersIn required properties name, whole m := by
  match properties with
  | [] => intro m mem; simp at mem
  | (property, s) :: rest =>
    intro m mem
    rw [Schema.members_in_cons] at mem
    rcases List.mem_cons.mp mem with first | later
    · rw [first]
      exact writing.member (type s plain) property (required property) s.comment?
    · exact members required rest plain m later

end

theorem parts (members : List Schema) {name : Text} (plain : Plain name) :
    ∀ t ∈ Schema.partsIn members name, inside t := by
  induction members with
  | nil => simp
  | cons s rest ih =>
    rw [Schema.parts_in_cons]
    intro t mem
    rcases List.mem_cons.mp mem with first | later
    · rw [first]
      exact writing.type s plain
    · exact ih t later

omit writing

mutual

theorem insertions (writing : Writing inside whole) (s : Schema) {name : Text} (plain : Plain name) :
    ∀ d ∈ s.insertions name, Plain d.name ∧ inside d.body := by
  have itemPlain := Naming.hoisted_plain plain
  intro d mem
  match s with
  | .object _ properties _ => exact writing.propertyInsertions properties plain d mem
  | .listOf _ item =>
    rcases List.mem_append.mp mem with inner | own
    · exact writing.insertions item itemPlain d inner
    · split at own
      · rw [List.mem_singleton.mp own]
        exact ⟨itemPlain, writing.type item itemPlain⟩
      · simp at own
  | .tuple _ members =>
    rcases List.mem_append.mp mem with inner | own
    · exact writing.partInsertions members itemPlain d inner
    · rw [List.mem_singleton.mp own]
      exact ⟨itemPlain, writing.alternatives writing.any (writing.parts members itemPlain)⟩
  | .list _ | .primitive _ _ | .enumeration _ _ _ | .reference _ _ | .any _ | .unknown _ _ =>
    simp [Schema.insertions] at mem

theorem propertyInsertions (writing : Writing inside whole) (properties : Schema.Properties) {name : Text}
    (plain : Plain name) :
    ∀ d ∈ Schema.propertyInsertions properties name, Plain d.name ∧ inside d.body := by
  intro d mem
  match properties with
  | [] => simp [Schema.propertyInsertions] at mem
  | (_, s) :: rest =>
    rcases List.mem_append.mp mem with first | later
    · exact writing.insertions s plain d first
    · exact writing.propertyInsertions rest plain d later

theorem partInsertions (writing : Writing inside whole) (members : List Schema) {name : Text} (plain : Plain name) :
    ∀ d ∈ Schema.partInsertions members name, Plain d.name ∧ inside d.body := by
  intro d mem
  match members with
  | [] => simp [Schema.partInsertions] at mem
  | s :: rest =>
    rcases List.mem_append.mp mem with first | later
    · exact writing.insertions s plain d first
    · exact writing.partInsertions rest plain d later

end

end Writing

/-! ### Operations -/

namespace Operation

theorem parameter_members_insert (ps : List Parameter) (name : Text) (table : Declaration.Table) :
    parameterMembers ps name table =
      (ps.map fun p => Record.member p.name (p.schema.typeIn name).text p.required p.description,
        (ps.flatMap fun p => p.schema.insertions name).foldl Declaration.Table.insert table) := by
  induction ps generalizing table with
  | nil => rfl
  | cons p ps ih =>
    rw [parameterMembers]
    simp only [Schema.hoist_inserts, ih, List.map_cons, List.flatMap_cons, List.foldl_append]

def membersIn (op : Operation) (name : Text) : List Text := (op.members name).1

def insertions (op : Operation) (name : Text) : List Declaration :=
  match loneBody? op.parameters with
  | some (_, properties) => Schema.propertyInsertions properties name
  | none => op.parameters.flatMap fun p => p.schema.insertions name

theorem members_insert (op : Operation) (name : Text) :
    op.members name = (op.membersIn name, (op.insertions name).foldl Declaration.Table.insert .empty) := by
  unfold membersIn members insertions
  cases loneBody? op.parameters with
  | none => simp only [parameter_members_insert]
  | some lone => simp only [Schema.members_insert]

end Operation

namespace Writing

variable {inside whole : Text → Prop} (writing : Writing inside whole)

include writing

theorem operationMembers (op : Operation) {name : Text} (plain : Plain name) : ∀ m ∈ op.membersIn name, whole m := by
  intro m mem
  unfold Operation.membersIn Operation.members at mem
  split at mem
  · rename_i required properties lone
    exact writing.members required properties plain m mem
  · rw [Operation.parameter_members_insert] at mem
    obtain ⟨p, -, rfl⟩ := List.mem_map.mp mem
    exact writing.member (writing.type p.schema plain) p.name p.required p.description

theorem operationInsertions (op : Operation) {name : Text} (plain : Plain name) :
    ∀ d ∈ op.insertions name, Plain d.name ∧ inside d.body := by
  intro d mem
  unfold Operation.insertions at mem
  split at mem
  · rename_i required properties lone
    exact writing.propertyInsertions properties plain d mem
  · obtain ⟨p, -, put⟩ := List.mem_flatMap.mp mem
    exact writing.insertions p.schema plain d put

end Writing

end ApiTypes
