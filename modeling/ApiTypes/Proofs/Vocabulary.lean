import Mathlib.Logic.Relation
import ApiTypes.Proofs.Ordered
import ApiTypes.Schema.OfJson
/-!
What a schema is read from. Nine keys make up the vocabulary, and at every place where a schema stands nothing but the
values under these keys counts: other keys may come, go and change, the keys may stand in any order, and of a default
only its type is seen.
-/
namespace ApiTypes

inductive Json.Kind where
  | null
  | boolean
  | number
  | string
  | array
  | object
deriving DecidableEq

def Json.kind : Json → Json.Kind
  | .null => .null
  | .bool _ => .boolean
  | .num _ => .number
  | .str _ => .string
  | .arr _ => .array
  | .obj _ => .object

namespace Schema

def vocabulary : List Text :=
  ["$ref".toList, "type".toList, "enum".toList, "properties".toList, "items".toList, "required".toList, "default".toList,
    "description".toList, "title".toList]

/-! ### Edits -/

/-- One edit, at the root or at a schema further inside: a key outside the vocabulary comes in, goes or gets another value, the
keys change their order, or a default gives way to one of the same type. -/
inductive Edit : Json → Json → Prop
  | add {before after : Json.Fields} {key : Text} {v : Json} (other : key ∉ vocabulary) :
    Edit (.obj (before ++ after)) (.obj (before ++ (key, v) :: after))
  | remove {before after : Json.Fields} {key : Text} {v : Json} (other : key ∉ vocabulary) :
    Edit (.obj (before ++ (key, v) :: after)) (.obj (before ++ after))
  | change {before after : Json.Fields} {key : Text} {v w : Json} (other : key ∉ vocabulary) :
    Edit (.obj (before ++ (key, v) :: after)) (.obj (before ++ (key, w) :: after))
  | reorder {fields others : Json.Fields} (distinct : Ordered.WellFormed fields) (same : fields.Perm others) :
    Edit (.obj fields) (.obj others)
  | default {before after : Json.Fields} {v w : Json} (same : v.kind = w.kind) :
    Edit (.obj (before ++ ("default".toList, v) :: after)) (.obj (before ++ ("default".toList, w) :: after))
  | property {before after above below : Json.Fields} {name : Text} {v w : Json} (inside : Edit v w) :
    Edit (.obj (before ++ ("properties".toList, .obj (above ++ (name, v) :: below)) :: after))
      (.obj (before ++ ("properties".toList, .obj (above ++ (name, w) :: below)) :: after))
  | item {before after : Json.Fields} {v w : Json} (inside : Edit v w) :
    Edit (.obj (before ++ ("items".toList, v) :: after)) (.obj (before ++ ("items".toList, w) :: after))
  | member {before after : Json.Fields} {above below : List Json} {v w : Json} (inside : Edit v w) :
    Edit (.obj (before ++ ("items".toList, .arr (above ++ v :: below)) :: after))
      (.obj (before ++ ("items".toList, .arr (above ++ w :: below)) :: after))

theorem Edit.objects {v w : Json} (edit : Edit v w) : v.isObject = true ∧ w.isObject = true := by
  cases edit <;> exact ⟨rfl, rfl⟩

/-! ### What is seen of the fields -/

/-- What the reading of a schema sees of a value, depending on the key it stands under. -/
inductive Seen where
  | whole (v : Json)
  | kind (k : Json.Kind)
  | properties (parts : Properties)
  | items (parts : Items)

def see (key : Text) (v : Json) : Seen :=
  if key = "default".toList then .kind v.kind
  else if key = "properties".toList then .properties (propertiesOf v)
  else if key = "items".toList then .items (itemsOf v)
  else .whole v

def seen (fields : Json.Fields) (key : Text) : Option Seen := (Ordered.get? key fields).map (see key)

def SeenAlike (fields others : Json.Fields) : Prop := ∀ key ∈ vocabulary, seen fields key = seen others key

def shapeOfKind? : Json.Kind → Option Shape
  | .boolean => some (.primitive .boolean)
  | .number => some (.primitive .number)
  | .string => some (.primitive .string)
  | .null | .array | .object => none

theorem shape_of_default_eq (v : Option Json) : shapeOfDefault? v = (v.map Json.kind).bind shapeOfKind? := by
  cases v with
  | none => rfl
  | some v => cases v <;> rfl

namespace SeenAlike

variable {fields others : Json.Fields}

theorem part (alike : SeenAlike fields others) (key : Text) (known : key ∈ vocabulary) {α : Type} {f : Json → α}
    {make : α → Seen} (own : see key = make ∘ f) (injective : Function.Injective make) :
    (Ordered.get? key fields).map f = (Ordered.get? key others).map f := by
  have same := alike key known
  rw [seen, seen, own, ← Option.map_map, ← Option.map_map] at same
  exact Option.map_injective injective same

theorem is_some (alike : SeenAlike fields others) {key : Text} (known : key ∈ vocabulary) :
    (Ordered.get? key fields).isSome = (Ordered.get? key others).isSome := by
  have same := congrArg Option.isSome (alike key known)
  simpa [seen] using same

theorem get (alike : SeenAlike fields others) {key : Text} (known : key ∈ vocabulary) (own : see key = Seen.whole) :
    Ordered.get? key fields = Ordered.get? key others := by
  have same := alike.part key known (f := id) own fun _ _ equal => Seen.whole.inj equal
  rwa [Option.map_id, id, id] at same

theorem text (alike : SeenAlike fields others) {key : Text} (known : key ∈ vocabulary) (own : see key = Seen.whole) :
    Json.textAt? fields key = Json.textAt? others key := by
  rw [Json.textAt?, alike.get known own, Json.textAt?]

theorem notes (alike : SeenAlike fields others) : notesOf fields = notesOf others := by
  rw [notesOf, alike.text (by decide) rfl, alike.text (by decide) rfl, notesOf]

theorem requirement (alike : SeenAlike fields others) : requirementOf fields = requirementOf others := by
  rw [requirementOf, alike.get (by decide) rfl, requirementOf]

theorem properties (alike : SeenAlike fields others) : propertiesIn fields = propertiesIn others := by
  have same := alike.part "properties".toList (by decide) rfl fun _ _ equal => Seen.properties.inj equal
  rw [properties_in_eq, same, properties_in_eq]

theorem items (alike : SeenAlike fields others) : itemsIn fields = itemsIn others := by
  have same := alike.part "items".toList (by decide) rfl fun _ _ equal => Seen.items.inj equal
  rw [items_in_eq, same, items_in_eq]

theorem shape (alike : SeenAlike fields others) : shape? fields = shape? others := by
  have tag : typeTag? fields = typeTag? others := by
    unfold typeTag?
    rw [alike.get (by decide) rfl]
  have kind := alike.part "default".toList (by decide) rfl fun _ _ equal => Seen.kind.inj equal
  unfold shape?
  rw [tag, alike.is_some (by decide), alike.is_some (by decide), shape_of_default_eq, kind, shape_of_default_eq]

theorem of_json (alike : SeenAlike fields others) : ofJson (.obj fields) = ofJson (.obj others) := by
  rw [ofJson, ofJson, alike.properties, alike.items]
  unfold ofParts
  rw [alike.notes, alike.shape, alike.requirement, alike.text (by decide) rfl, alike.get (by decide) rfl]

end SeenAlike

/-! ### Edits are not seen -/

theorem seen_at {before after : Json.Fields} {place : Text} {v w : Json} (same : see place v = see place w) :
    SeenAlike (before ++ (place, v) :: after) (before ++ (place, w) :: after) := by
  intro key _
  rw [seen, seen, Ordered.get_append, Ordered.get_append, Option.map_or, Option.map_or, Ordered.get?, Ordered.get?]
  by_cases own : place = key
  · subst own
    simp [same]
  · simp [own]

theorem of_json_at {before after : Json.Fields} {place : Text} {v w : Json} (same : see place v = see place w) :
    ofJson (.obj (before ++ (place, v) :: after)) = ofJson (.obj (before ++ (place, w) :: after)) :=
  (seen_at same).of_json

theorem seen_beside {before after : Json.Fields} {other : Text} (new : other ∉ vocabulary) (v : Json) :
    SeenAlike (before ++ after) (before ++ (other, v) :: after) := by
  intro key known
  have apart : ¬ (other == key) = true := fun same => new (beq_iff_eq.mp same ▸ known)
  rw [seen, seen, Ordered.get_append, Ordered.get_append, Ordered.get?, if_neg apart]

theorem seen_in_any_order {fields others : Json.Fields} (distinct : Ordered.WellFormed fields) (same : fields.Perm others) :
    SeenAlike fields others := by
  intro key _
  rw [seen, Ordered.get_perm distinct same, seen]

theorem edit_keeps_schema {v w : Json} (edit : Edit v w) : ofJson v = ofJson w := by
  induction edit with
  | add other => exact (seen_beside other _).of_json
  | remove other => exact (seen_beside other _).of_json.symm
  | @change before after key v w other =>
    exact ((seen_beside other v).of_json.symm).trans (seen_beside other w).of_json
  | reorder distinct same => exact (seen_in_any_order distinct same).of_json
  | default same => exact of_json_at (congrArg Seen.kind same)
  | @property before after above below name v w inside ih =>
    -- An edit further inside is seen only through the schemas that are read there, and those are the same by induction.
    have parts : propertiesOf (.obj (above ++ (name, v) :: below)) = propertiesOf (.obj (above ++ (name, w) :: below)) := by
      rw [propertiesOf, propertiesOf, each_property_eq, each_property_eq]
      simp [ih]
    exact of_json_at (congrArg Seen.properties parts)
  | @item before after v w inside ih =>
    have parts : itemsOf v = itemsOf w := by
      rw [itemsOf, if_pos inside.objects.1, itemsOf, if_pos inside.objects.2, ih]
    exact of_json_at (congrArg Seen.items parts)
  | @member before after above below v w inside ih =>
    have parts : itemsOf (.arr (above ++ v :: below)) = itemsOf (.arr (above ++ w :: below)) := by
      change membersOf _ = membersOf _
      rw [membersOf, membersOf, each_member_eq, each_member_eq]
      simp [ih]
    exact of_json_at (congrArg Seen.items parts)

theorem edits_keep_schema {v w : Json} (edits : Relation.ReflTransGen Edit v w) : ofJson v = ofJson w := by
  induction edits with
  | refl => rfl
  | tail before last ih => exact ih.trans (edit_keeps_schema last)

/-! ### Every key counts -/

/-- Two objects that differ only in the value under a key may be read as different schemas. -/
def Counts (key : Text) : Prop :=
  ∃ (fields : Json.Fields) (v w : Json), ofJson (.obj ((key, v) :: fields)) ≠ ofJson (.obj ((key, w) :: fields))

theorem vocabulary_counts : ∀ key ∈ vocabulary, Counts key := by
  intro key known
  simp only [vocabulary, List.mem_cons, List.not_mem_nil, or_false] at known
  rcases known with rfl | rfl | rfl | rfl | rfl | rfl | rfl | rfl | rfl
  · exact ⟨[], .str [], .null, fun same => by cases same⟩
  · exact ⟨[], .str "string".toList, .null, fun same => by cases same⟩
  · exact ⟨[], .arr [], .null, fun same => by cases same⟩
  · exact ⟨[], .obj [([], .null)], .null, fun same => by cases same⟩
  · exact ⟨[], .arr [], .null, fun same => by cases same⟩
  · exact ⟨[("type".toList, .str "object".toList)], .bool true, .null, fun same => by cases same⟩
  · exact ⟨[], .bool true, .null, fun same => by cases same⟩
  · exact ⟨[], .str [], .null, fun same => by cases same⟩
  · exact ⟨[], .str [], .null, fun same => by cases same⟩

theorem counts_iff (key : Text) : Counts key ↔ key ∈ vocabulary := by
  constructor
  · rintro ⟨fields, v, w, differ⟩
    by_contra other
    have edit : Edit (.obj ([] ++ (key, v) :: fields)) (.obj ([] ++ (key, w) :: fields)) := .change other
    exact differ (edit_keeps_schema edit)
  · exact vocabulary_counts key

/-- A schema is read from its vocabulary alone: after any number of edits, at all the places where schemas stand, the same
schema is read. And the vocabulary has no key too many. -/
theorem schema_reads_vocabulary_only :
    (∀ v w : Json, Relation.ReflTransGen Edit v w → ofJson v = ofJson w) ∧ ∀ key, Counts key ↔ key ∈ vocabulary :=
  ⟨fun _ _ edits => edits_keep_schema edits, counts_iff⟩

def parcelFields (size pair : Json.Fields) : Json.Fields :=
  [("properties".toList, .obj [("size".toList, .obj size), ("pair".toList, .obj [("items".toList, .arr [.obj pair, .null])])])]

def parcel : Json :=
  .obj (("type".toList, .str "object".toList) :: ("x-mark".toList, .bool true) ::
    parcelFields [("default".toList, .num (.int 1))] [("type".toList, .str "string".toList), ("pattern".toList, .str "a".toList)])

def plainParcel : Json :=
  .obj (parcelFields [("default".toList, .num (.int 7))] [("type".toList, .str "string".toList)] ++
    [("type".toList, .str "object".toList)])

theorem parcel_edits_keep_schema : Relation.ReflTransGen Edit parcel plainParcel ∧ ofJson parcel = ofJson plainParcel := by
  have edits : Relation.ReflTransGen Edit parcel plainParcel := by
    refine .head (@Edit.remove [("type".toList, .str "object".toList)] _ "x-mark".toList _ (by decide)) ?_
    refine .head (@Edit.reorder _ _ (by simp [Ordered.WellFormed, Ordered.keys, parcelFields])
      (@List.perm_append_comm _ [("type".toList, Json.str "object".toList)] _)) ?_
    refine .head (@Edit.property [] _ [] _ _ _ _ (@Edit.default [] [] _ (.num (.int 7)) rfl)) ?_
    refine .single (@Edit.property [] _ [_] [] _ _ _ (@Edit.member [] [] [] _ _ _
      (@Edit.remove [_] [] "pattern".toList _ (by decide))))
  exact ⟨edits, schema_reads_vocabulary_only.1 _ _ edits⟩

end Schema

end ApiTypes
