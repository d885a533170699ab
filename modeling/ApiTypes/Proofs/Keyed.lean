import ApiTypes.Json.Reader
import ApiTypes.Proofs.Ordered
/-!
Values whose objects have each key once. The values that are read from a text are such values, and so are their parts. What
holds of every value that is read is shown in one induction along the reader.
-/
namespace ApiTypes.Json

mutual

def isKeyed : Json → Bool
  | obj fields => decide (Ordered.keys fields).Nodup && areFieldsKeyed fields
  | arr items => areItemsKeyed items
  | null | bool _ | num _ | str _ => true

def areItemsKeyed : List Json → Bool
  | [] => true
  | v :: rest => v.isKeyed && areItemsKeyed rest

def areFieldsKeyed : Fields → Bool
  | [] => true
  | (_, v) :: rest => v.isKeyed && areFieldsKeyed rest

end

theorem items_keyed_iff (items : List Json) : areItemsKeyed items = true ↔ ∀ v ∈ items, v.isKeyed = true := by
  induction items with
  | nil => simp [areItemsKeyed]
  | cons v rest ih => simp [areItemsKeyed, ih]

theorem fields_keyed_iff (fields : Fields) : areFieldsKeyed fields = true ↔ ∀ field ∈ fields, field.2.isKeyed = true := by
  induction fields with
  | nil => simp [areFieldsKeyed]
  | cons field rest ih => rw [areFieldsKeyed, Bool.and_eq_true, ih, List.forall_mem_cons]

theorem keyed_keys {fields : Fields} (keyed : (obj fields).isKeyed = true) : (Ordered.keys fields).Nodup := by
  rw [isKeyed, Bool.and_eq_true] at keyed
  exact of_decide_eq_true keyed.1

theorem keyed_item {items : List Json} {v : Json} (keyed : (arr items).isKeyed = true) (mem : v ∈ items) :
    v.isKeyed = true := by
  rw [isKeyed] at keyed
  exact (items_keyed_iff items).mp keyed v mem

theorem keyed_field {fields : Fields} {field : Text × Json} (keyed : (obj fields).isKeyed = true) (mem : field ∈ fields) :
    field.2.isKeyed = true := by
  rw [isKeyed, Bool.and_eq_true] at keyed
  exact (fields_keyed_iff fields).mp keyed.2 field mem

theorem keyed_get {v w : Json} {key : Text} (keyed : v.isKeyed = true) (found : v.get? key = some w) : w.isKeyed = true := by
  cases v with
  | obj fields => exact keyed_field keyed (Ordered.get_mem found)
  | _ => simp [get?] at found

theorem keyed_inner {fields inner : Fields} {key : Text} (keyed : (obj fields).isKeyed = true)
    (found : (Ordered.get? key fields).bind asFields? = some inner) : (obj inner).isKeyed = true := by
  obtain ⟨v, there, isObject⟩ := Option.bind_eq_some_iff.mp found
  cases v with
  | obj own =>
    cases isObject
    exact keyed_field keyed (Ordered.get_mem there)
  | _ => simp [asFields?] at isObject

theorem of_list_mem {fields : Fields} {field : Text × Json} (mem : field ∈ Ordered.ofList fields) : field ∈ fields := by
  rcases Ordered.put_all_mem mem with before | listed
  · simp at before
  · exact listed

/-! ### Reading -/

/-- A property that values have if numbers have it as they are read, and a container has it if its parts do. -/
structure Readable (P : Json → Prop) : Prop where
  null : P .null
  bool : ∀ b, P (.bool b)
  str : ∀ s, P (.str s)
  num : ∀ {t n rest}, number? t = some (n, rest) → P (.num n)
  arr : ∀ {items}, (∀ v ∈ items, P v) → P (.arr items)
  obj : ∀ {fields}, (∀ field ∈ fields, P field.2) → P (.obj (Ordered.ofList fields))

structure Reads (P : Json → Prop) (fuel : Nat) : Prop where
  value : ∀ {depth t v rest}, valueWithin fuel depth t = some (v, rest) → P v
  items : ∀ {depth t items rest}, itemsWithin fuel depth t = some (items, rest) → ∀ v ∈ items, P v
  fields : ∀ {depth t fields rest}, fieldsWithin fuel depth t = some (fields, rest) → ∀ field ∈ fields, P field.2

namespace Readable

variable {P : Json → Prop} {fuel depth : Nat} {t rest : Text}

theorem value_step (readable : Readable P) (before : Reads P fuel) {v : Json}
    (found : valueWithin (fuel + 1) depth t = some (v, rest)) : P v := by
  rw [valueWithin] at found
  split at found
  · cases found
    exact readable.null
  · cases found
    exact readable.bool true
  · cases found
    exact readable.bool false
  · obtain ⟨read, -, same⟩ := Option.map_eq_some_iff.mp found
    cases same
    exact readable.str _
  · split at found
    · cases found
    · split at found
      · cases found
        exact readable.arr (by simp)
      · obtain ⟨read, inner, same⟩ := Option.map_eq_some_iff.mp found
        cases same
        exact readable.arr (before.items inner)
  · split at found
    · cases found
    · split at found
      · cases found
        exact readable.obj (List.forall_mem_nil _)
      · obtain ⟨read, inner, same⟩ := Option.map_eq_some_iff.mp found
        cases same
        exact readable.obj (before.fields inner)
  · obtain ⟨read, number, same⟩ := Option.map_eq_some_iff.mp found
    cases same
    exact readable.num number

theorem items_step (before : Reads P fuel) {items : List Json}
    (found : itemsWithin (fuel + 1) depth t = some (items, rest)) : ∀ v ∈ items, P v := by
  rw [itemsWithin] at found
  split at found
  · cases found
  · rename_i v after first
    have own := before.value first
    split at found
    · obtain ⟨read, later, same⟩ := Option.map_eq_some_iff.mp found
      cases same
      simpa [own] using before.items later
    · cases found
      simpa using own
    · cases found

theorem fields_step (before : Reads P fuel) {fields : Fields}
    (found : fieldsWithin (fuel + 1) depth t = some (fields, rest)) : ∀ field ∈ fields, P field.2 := by
  rw [fieldsWithin] at found
  split at found
  · split at found
    · cases found
    · split at found
      · split at found
        · cases found
        · rename_i v after first
          have own := before.value first
          split at found
          · obtain ⟨read, later, same⟩ := Option.map_eq_some_iff.mp found
            cases same
            exact List.forall_mem_cons.mpr ⟨own, before.fields later⟩
          · cases found
            simpa using own
          · cases found
      · cases found
  · cases found

theorem reads (readable : Readable P) (fuel : Nat) : Reads P fuel := by
  induction fuel with
  | zero => exact ⟨by simp [valueWithin], by simp [itemsWithin], by simp [fieldsWithin]⟩
  | succ fuel ih => exact ⟨readable.value_step ih, items_step ih, fields_step ih⟩

theorem read (readable : Readable P) {v : Json} (found : read? t = some v) : P v := by
  unfold read? at found
  split at found
  · rename_i w rest value
    obtain ⟨-, same⟩ := Option.ite_none_right_eq_some.mp found
    cases same
    exact (readable.reads _).value value
  · cases found

end Readable

/-- A value that is read from a text has no key twice. -/
theorem read_keyed {t : Text} {v : Json} (read : read? t = some v) : v.isKeyed = true := by
  refine Readable.read (P := fun v => v.isKeyed = true) ⟨rfl, fun _ => rfl, fun _ => rfl, fun _ => rfl, ?_, ?_⟩ read
  · intro items keyed
    rw [isKeyed]
    exact (items_keyed_iff items).mpr keyed
  · intro fields keyed
    have apart : (Ordered.keys (Ordered.ofList fields)).Nodup :=
      Ordered.put_all_keys_apart (by simp [Ordered.WellFormed, Ordered.keys])
    rw [isKeyed, Bool.and_eq_true, decide_eq_true_eq, fields_keyed_iff]
    exact ⟨apart, fun field mem => keyed field (of_list_mem mem)⟩

end ApiTypes.Json
