import ApiTypes.Proofs.Inline
import ApiTypes.Schema.OfJson
/-!
Literal values that no type is given for. Each of them is to be written by its own type: a text in quotes, a number, a
truth value and null as they are, and a container as `any`. So they are, whatever other fields there are, unless the
default is a text: then all values are taken for texts, and those that are none get quotes, too.
-/
namespace ApiTypes.Schema

open Script (Term unionOf)

/-! ### Values by their own types -/

def ownText : Json → Text
  | .str s => Json.quote s
  | .num n => n.text
  | .bool b => Json.boolText b
  | .null => "null".toList
  | .arr _ | .obj _ => "any".toList

def ownTexts (values : List Json) : TypeExpr := TypeExpr.alternatives "never".toList (values.map ownText)

def forcedText : Json → Text
  | .str s => Json.quote s
  | v => Json.quote v.text

theorem literal_string (v : Json) : TypeExpr.literal .string v = forcedText v := by
  cases v <;> rfl

theorem literal_own {kind : Primitive} {v : Json} (free : kind = .string → isText v = true) :
    TypeExpr.literal kind v = ownText v := by
  cases v with
  | str s => rfl
  | null | bool _ | num _ | arr _ | obj _ =>
    have other : (kind == .string) = false := by
      rw [beq_eq_false_iff_ne]
      intro same
      exact absurd (free same) (by simp [isText])
    simp only [TypeExpr.literal, other, Bool.false_eq_true, if_false]
    rfl

theorem literals_own {kind : Primitive} {values : List Json} (free : kind = .string → ∀ v ∈ values, isText v = true) :
    TypeExpr.literals kind values = ownTexts values := by
  have each : values.map (TypeExpr.literal kind) = values.map ownText :=
    List.map_congr_left fun v mem => literal_own fun same => free same v mem
  rw [TypeExpr.literals, each, ownTexts]

/-- Read back, a value that was made a text is one, and any other is none. -/
theorem literal_types_differ {v : Json} (other : isText v = false) : literalType .string v ≠ literalType .any v := by
  cases v with
  | str s => simp [isText] at other
  | null | bool _ | num _ | arr _ | obj _ => simp [literalType, Term.any]

/- The texts are compared by what they read as: there the values stand apart from one another. -/
theorem literals_tell_values {kind other : Primitive} {values : List Json}
    (same : (TypeExpr.literals kind values).text = (TypeExpr.literals other values).text) {v : Json} (mem : v ∈ values) :
    literalType kind v = literalType other v := by
  have left := (literals_show kind values).alternatives.type_read
  have right := (literals_show other values).alternatives.type_read
  rw [same, right, Option.some.injEq] at left
  have terms := congrArg Term.alternatives left
  rw [Script.union_of_alternatives (literals_single other values),
    Script.union_of_alternatives (literals_single kind values)] at terms
  have some : ∀ k : Primitive, (values.map (literalType k)).isEmpty = false := by
    intro k
    cases values with
    | nil => simp at mem
    | cons _ _ => rfl
  simp only [orAlone, some, Bool.false_eq_true, if_false] at terms
  exact (List.map_inj_left.mp terms v mem).symm

/-! ### Fields without a type -/

/-- Fields that list literal values and have no reference, no type, and nothing that only records or arrays have. -/
structure Untyped (fields : Json.Fields) (values : List Json) : Prop where
  listed : Ordered.get? "enum".toList fields = some (.arr values)
  unreferred : Json.textAt? fields "$ref".toList = none
  untyped : Ordered.get? "type".toList fields = none
  noProperties : Ordered.get? "properties".toList fields = none
  noItems : Ordered.get? "items".toList fields = none

def default? (fields : Json.Fields) : Option Json := Ordered.get? "default".toList fields

/-- The kind of values without a type: that of the default if it has one, and else that of the values. -/
def untypedKind (default? : Option Json) (values : List Json) : Primitive :=
  match default? with
  | some (.bool _) => .boolean
  | some (.num _) => .number
  | some (.str _) => .string
  | _ => kindOfValues values

theorem untyped_enumeration {fields : Json.Fields} {values : List Json} (untyped : Untyped fields values) :
    ofJson (.obj fields) = enumeration (notesOf fields) (untypedKind (default? fields) values) values := by
  have tag : typeTag? fields = none := by rw [typeTag?, untyped.untyped]
  have shape : shape? fields = shapeOfDefault? (default? fields) := by
    rw [shape?, tag, untyped.noProperties, untyped.noItems]
    rfl
  have kind : literalKind? (shape? fields) values = some (untypedKind (default? fields) values) := by
    rw [shape]
    rcases default? fields with _ | _ | _ | _ | _ | _ | _ <;> rfl
  rw [ofJson, ofParts, untyped.unreferred]
  simp only [untyped.listed, Option.bind_some, Json.asItems?, kind, Option.map_some]

theorem kind_of_values_string {values : List Json} (string : kindOfValues values = .string) :
    ∀ v ∈ values, isText v = true := by
  unfold kindOfValues at string
  split at string
  · cases string
  · split at string
    · rename_i texts
      exact List.all_eq_true.mp texts
    · split at string
      · cases string
      · split at string <;> cases string

theorem untyped_kind_text {default? : Option Json} (text : default?.any isText = true) (values : List Json) :
    untypedKind default? values = .string := by
  obtain ⟨v, rfl, isText⟩ := (Option.any_eq_true _ _).mp text
  cases v with
  | str s => rfl
  | null | bool _ | num _ | arr _ | obj _ => cases isText

theorem untyped_kind_other {default? : Option Json} {values : List Json} (other : default?.any isText = false)
    (string : untypedKind default? values = .string) : ∀ v ∈ values, isText v = true := by
  unfold untypedKind at string
  split at string
  · cases string
  · cases string
  · cases other
  · exact kind_of_values_string string

def Unforced (fields : Json.Fields) (values : List Json) : Prop :=
  (default? fields).any isText = true → ∀ v ∈ values, isText v = true

theorem unforced_iff_kind (fields : Json.Fields) (values : List Json) :
    (untypedKind (default? fields) values = .string → ∀ v ∈ values, isText v = true) ↔ Unforced fields values := by
  constructor
  · exact fun kept text => kept (untyped_kind_text text values)
  · intro unforced string
    cases text : (default? fields).any isText with
    | true => exact unforced text
    | false => exact untyped_kind_other text string

/-- Values without a type are written in their order, in a declaration as well as in place. Each is written by its own
type, and their kind is that of texts only if they all are texts, exactly if the default is no text or they all are texts.
If the default is a text, every value is written as one. -/
theorem untyped_values_keep_types_iff (fields : Json.Fields) (values : List Json) (untyped : Untyped fields values) :
    ∃ kind, ofJson (.obj fields) = enumeration (notesOf fields) kind values ∧
      (∀ name table, (ofJson (.obj fields)).hoist name table = ((ofJson (.obj fields)).inline, table)) ∧
      ((ofJson (.obj fields)).inline = ownTexts values ↔ Unforced fields values) ∧
      ((kind = .string → ∀ v ∈ values, isText v = true) ↔ Unforced fields values) ∧
      ((default? fields).any isText = true →
        (ofJson (.obj fields)).inline = TypeExpr.alternatives "never".toList (values.map forcedText)) := by
  rw [untyped_enumeration untyped]
  refine ⟨untypedKind (default? fields) values, rfl, fun _ _ => rfl, ?_, unforced_iff_kind fields values, ?_⟩
  · rw [inline]
    constructor
    · intro own text v mem
      have plain : ownTexts values = TypeExpr.literals .any values := (literals_own (fun same => by cases same)).symm
      rw [untyped_kind_text text values, plain] at own
      have types := literals_tell_values (congrArg TypeExpr.text own) mem
      by_contra other
      exact literal_types_differ (Bool.not_eq_true _ ▸ other) types
    · exact fun unforced => literals_own ((unforced_iff_kind fields values).mpr unforced)
  · intro text
    rw [inline, untyped_kind_text text values, TypeExpr.literals]
    exact congrArg _ (List.map_congr_left fun v _ => literal_string v)

def mixedFields : Json.Fields :=
  [("default".toList, .num (.int 10)), ("description".toList, .str "Any value".toList),
    ("enum".toList, .arr [.str "a b".toList, .num (.int 1), .bool true, .null, .arr [], .obj []])]

theorem mixed_values_keep_types :
    Untyped mixedFields [.str "a b".toList, .num (.int 1), .bool true, .null, .arr [], .obj []] ∧
      (ofJson (.obj mixedFields)).inline = .union "\"a b\" | 1 | true | null | any | any".toList := by
  have untyped : Untyped mixedFields [.str "a b".toList, .num (.int 1), .bool true, .null, .arr [], .obj []] :=
    ⟨rfl, rfl, rfl, rfl, rfl⟩
  obtain ⟨kind, -, -, own, -⟩ := untyped_values_keep_types_iff _ _ untyped
  refine ⟨untyped, (own.mpr fun text => ?_).trans (by rfl)⟩
  cases text

def draftFields : Json.Fields :=
  [("enum".toList, .arr [.str "draft".toList, .num (.int 1)]), ("default".toList, .str "draft".toList)]

theorem text_default_quotes_number :
    Untyped draftFields [.str "draft".toList, .num (.int 1)] ∧
      ofJson (.obj draftFields) = enumeration Notes.none .string [.str "draft".toList, .num (.int 1)] ∧
      (ofJson (.obj draftFields)).inline = .union "\"draft\" | \"1\"".toList ∧
      ownTexts [.str "draft".toList, .num (.int 1)] = .union "\"draft\" | 1".toList :=
  ⟨⟨rfl, rfl, rfl, rfl, rfl⟩, rfl, by rfl, by rfl⟩

end ApiTypes.Schema
