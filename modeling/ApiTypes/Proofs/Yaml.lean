import Mathlib.Data.List.Forall2
import Mathlib.Logic.Relation
import ApiTypes.Yaml.ToJson
import ApiTypes.Proofs.LastWins
/-!
YAML values as JSON values. What a value becomes is said as a relation between two trees, and that it becomes anything
is decided by the numbers and the keys that occur in it. The conversion, which puts the entries of a mapping into an object
one after another and ends at the first error, is exactly this.
-/
namespace ApiTypes.Yaml

open ApiTypes.Decimal (Binary64)

/-! ### Values that can be converted -/

/-- A value stands directly in another one; a key does not. -/
inductive Part : Value → Value → Prop where
  | item {items : List Value} {v : Value} (mem : v ∈ items) : Part v (.seq items)
  | entry {entries : List (Value × Value)} {k v : Value} (mem : (k, v) ∈ entries) : Part v (.map entries)
  | content (tag : Text) (v : Value) : Part v (.tagged tag v)

def Occurs : Value → Value → Prop := Relation.ReflTransGen Part

def IsKey (k v : Value) : Prop := ∃ entries, Occurs (.map entries) v ∧ k ∈ entries.map Prod.fst

def Number.isFinite : Number → Bool
  | .int _ | .real _ => true
  | .infinite _ | .nan => false

def Value.isPlain : Value → Bool
  | .null | .bool _ | .num _ | .str _ => true
  | .seq _ | .map _ | .tagged _ _ => false

structure Convertible (v : Value) : Prop where
  numbers : ∀ n, Occurs (.num n) v → n.isFinite = true
  keys : ∀ k, IsKey k v → k.isPlain = true

/- What occurs in a value is the value itself or occurs in a part of it. -/
theorem convertible_iff (v : Value) : Convertible v ↔
    (∀ n, v = .num n → n.isFinite = true) ∧ (∀ entries, v = .map entries → ∀ k ∈ entries.map Prod.fst, k.isPlain = true) ∧
      ∀ part, Part part v → Convertible part := by
  constructor
  · intro convertible
    refine ⟨?own, ?ownKeys, ?parts⟩
    case own =>
      rintro n rfl
      exact convertible.numbers n .refl
    case ownKeys =>
      rintro entries rfl k mem
      exact convertible.keys k ⟨entries, .refl, mem⟩
    case parts =>
      intro part direct
      refine ⟨fun n inside => convertible.numbers n (inside.tail direct), ?_⟩
      rintro k ⟨entries, inside, mem⟩
      exact convertible.keys k ⟨entries, inside.tail direct, mem⟩
  · rintro ⟨own, ownKeys, parts⟩
    refine ⟨?numbers, ?keys⟩
    case numbers =>
      intro n inside
      rcases Relation.ReflTransGen.cases_tail inside with same | ⟨part, inner, direct⟩
      · exact own n same
      · exact (parts part direct).numbers n inner
    case keys =>
      rintro k ⟨entries, inside, mem⟩
      rcases Relation.ReflTransGen.cases_tail inside with same | ⟨part, inner, direct⟩
      · exact ownKeys entries same k mem
      · exact (parts part direct).keys k ⟨entries, inner, mem⟩

theorem convertible_seq (items : List Value) : Convertible (.seq items) ↔ ∀ v ∈ items, Convertible v := by
  rw [convertible_iff]
  constructor
  · rintro ⟨-, -, parts⟩ v mem
    exact parts v (.item mem)
  · intro each
    refine ⟨by simp, by simp, ?_⟩
    rintro part ⟨mem⟩
    exact each part mem

theorem convertible_map (entries : List (Value × Value)) :
    Convertible (.map entries) ↔ ∀ k v, (k, v) ∈ entries → k.isPlain = true ∧ Convertible v := by
  rw [convertible_iff]
  constructor
  · rintro ⟨-, keys, parts⟩ k v mem
    exact ⟨keys entries rfl k (List.mem_map_of_mem mem), parts v (.entry mem)⟩
  · intro each
    refine ⟨by simp, ?_, ?_⟩
    · rintro inner same k mem
      cases same
      obtain ⟨⟨k', v⟩, listed, rfl⟩ := List.mem_map.mp mem
      exact (each k' v listed).1
    · intro part direct
      cases direct with
      | entry mem => exact (each _ part mem).2

theorem convertible_tagged (tag : Text) (v : Value) : Convertible (.tagged tag v) ↔ Convertible v := by
  rw [convertible_iff]
  constructor
  · rintro ⟨-, -, parts⟩
    exact parts v (.content tag v)
  · intro convertible
    refine ⟨by simp, by simp, ?_⟩
    intro part direct
    cases direct
    exact convertible

theorem convertible_num (n : Number) : Convertible (.num n) ↔ n.isFinite = true := by
  rw [convertible_iff]
  constructor
  · rintro ⟨own, -⟩
    exact own n rfl
  · intro finite
    refine ⟨?_, by simp, ?_⟩
    · rintro m same
      cases same
      exact finite
    · rintro part ⟨⟩

/-! ### What a value becomes -/

inductive PrintsAs : Value → Text → Prop where
  | text (s : Text) : PrintsAs (.str s) s
  | number (n : Number) : PrintsAs (.num n) n.text
  | yes : PrintsAs (.bool true) "true".toList
  | no : PrintsAs (.bool false) "false".toList
  | null : PrintsAs .null "null".toList

inductive Becomes : Value → Json → Prop where
  | null : Becomes .null .null
  | bool (b : Bool) : Becomes (.bool b) (.bool b)
  | int (i : Word) : Becomes (.num (.int i)) (.num (.int i.value))
  | real (x : Binary64) : Becomes (.num (.real x)) (.num (.real x))
  | text (s : Text) : Becomes (.str s) (.str s)
  | seq {items : List Value} {js : List Json} (each : List.Forall₂ Becomes items js) : Becomes (.seq items) (.arr js)
  /-- Every entry of the mapping has its text and its value among `es`, in the same order; the object is made of these. -/
  | map {entries : List (Value × Value)} {es fields : Json.Fields}
    (keys : List.Forall₂ PrintsAs (entries.map Prod.fst) (es.map Prod.fst))
    (values : List.Forall₂ Becomes (entries.map Prod.snd) (es.map Prod.snd))
    (wins : Ordered.LastWins es fields) : Becomes (.map entries) (.obj fields)
  | tagged (tag : Text) {v : Value} {j : Json} (content : Becomes v j) : Becomes (.tagged tag v) j

theorem key_text_iff (k : Value) (t : Text) : k.keyText = .ok t ↔ PrintsAs k t := by
  constructor
  · intro printed
    cases k with
    | null | str _ | num _ =>
      cases printed
      constructor
    | bool b =>
      cases b <;> cases printed <;> constructor
    | seq _ | map _ | tagged _ _ => cases printed
  · rintro (_ | _) <;> rfl

theorem key_text_some_iff (k : Value) : (∃ t, k.keyText = .ok t) ↔ k.isPlain = true := by
  cases k <;> simp [Value.keyText, Value.isPlain]

/- An integer that has no room for its sign is not below zero. -/
theorem int_to_json (i : Word) : (Number.int i).toJson = .ok (.num (.int i.value)) := by
  simp only [Number.toJson, Number.signed?, Number.unsigned?]
  by_cases small : i.value < Nat.pow 2 63
  · rw [if_pos small]
  · have positive : 0 ≤ i.value := by omega
    rw [if_neg small, if_pos positive]
    simp only [Int.toNat_of_nonneg positive]

theorem number_becomes_iff (n : Number) (j : Json) : n.toJson = .ok j ↔ Becomes (.num n) j := by
  constructor
  · intro converted
    cases n with
    | int i =>
      rw [int_to_json] at converted
      cases converted
      exact .int i
    | real x =>
      cases converted
      exact .real x
    | infinite _ | nan => cases converted
  · rintro (_ | _)
    · exact int_to_json _
    · rfl

theorem number_some_iff (n : Number) : (∃ j, n.toJson = .ok j) ↔ n.isFinite = true := by
  cases n with
  | int i => simp [int_to_json, Number.isFinite]
  | real _ | infinite _ | nan => simp [Number.toJson, Number.signed?, Number.unsigned?, Number.finite?, Number.isFinite]

/-! ### Items and entries -/

theorem items_cons_ok {v : Value} {rest : List Value} {js : List Json} :
    Value.itemsToJson (v :: rest) = .ok js ↔
      ∃ j later, v.toJson = .ok j ∧ Value.itemsToJson rest = .ok later ∧ js = j :: later := by
  rw [Value.itemsToJson]
  cases v.toJson <;> cases Value.itemsToJson rest <;> simp [bind, Except.bind, pure, Except.pure, eq_comm]

theorem entries_cons_ok {k v : Value} {rest : List (Value × Value)} {done fields : Json.Fields} :
    Value.entriesToJson done ((k, v) :: rest) = .ok fields ↔
      ∃ t j, k.keyText = .ok t ∧ v.toJson = .ok j ∧ Value.entriesToJson (Ordered.put t j done) rest = .ok fields := by
  rw [Value.entriesToJson]
  cases k.keyText <;> cases v.toJson <;> simp [bind, Except.bind]

theorem map_ok_iff {ε α β : Type} {f : α → β} {x : Except ε α} {b : β} : x.map f = .ok b ↔ ∃ a, x = .ok a ∧ f a = b := by
  cases x <;> simp [Except.map]

/- What has been put into the object before does not matter to the entries that follow, so they are put into any. -/

mutual

theorem becomes_iff (v : Value) (j : Json) : v.toJson = .ok j ↔ Becomes v j := by
  match v with
  | .null | .bool _ | .str _ =>
    rw [Value.toJson]
    constructor
    · intro same
      cases same
      constructor
    · intro becomes
      cases becomes
      rfl
  | .num n => exact number_becomes_iff n j
  | .seq items =>
    rw [Value.toJson, map_ok_iff]
    constructor
    · rintro ⟨js, converted, rfl⟩
      exact .seq ((items_become_iff items js).mp converted)
    · intro becomes
      cases becomes with
      | seq each => exact ⟨_, (items_become_iff items _).mpr each, rfl⟩
  | .map entries =>
    rw [Value.toJson, map_ok_iff]
    constructor
    · rintro ⟨fields, converted, rfl⟩
      obtain ⟨es, keys, values, rfl⟩ := (entries_become_iff entries [] fields).mp converted
      exact .map keys values (Ordered.LastWins.of_list es)
    · intro becomes
      cases becomes with
      | map keys values wins =>
        -- There is only one object with these keys in this order and these values.
        have made := wins.unique (Ordered.LastWins.of_list _)
        exact ⟨_, (entries_become_iff entries [] _).mpr ⟨_, keys, values, made⟩, rfl⟩
  | .tagged tag v =>
    rw [Value.toJson, becomes_iff v j]
    constructor
    · exact .tagged tag
    · intro becomes
      cases becomes with
      | tagged _ content => exact content

theorem items_become_iff (items : List Value) (js : List Json) :
    Value.itemsToJson items = .ok js ↔ List.Forall₂ Becomes items js := by
  match items with
  | [] =>
    rw [Value.itemsToJson, List.forall₂_nil_left_iff, Except.ok.injEq, eq_comm]
  | v :: rest =>
    rw [items_cons_ok, List.forall₂_cons_left_iff]
    constructor
    · rintro ⟨j, later, first, converted, rfl⟩
      exact ⟨j, later, (becomes_iff v j).mp first, (items_become_iff rest later).mp converted, rfl⟩
    · rintro ⟨j, later, first, converted, rfl⟩
      exact ⟨j, later, (becomes_iff v j).mpr first, (items_become_iff rest later).mpr converted, rfl⟩

theorem entries_become_iff (entries : List (Value × Value)) (done fields : Json.Fields) :
    Value.entriesToJson done entries = .ok fields ↔
      ∃ es : Json.Fields, List.Forall₂ PrintsAs (entries.map Prod.fst) (es.map Prod.fst) ∧
        List.Forall₂ Becomes (entries.map Prod.snd) (es.map Prod.snd) ∧
        fields = es.foldl (fun m e => Ordered.put e.1 e.2 m) done := by
  match entries with
  | [] =>
    rw [Value.entriesToJson]
    constructor
    · intro same
      cases same
      exact ⟨[], .nil, .nil, rfl⟩
    · rintro ⟨es, keys, -, rfl⟩
      rw [List.map_nil, List.forall₂_nil_left_iff, List.map_eq_nil_iff] at keys
      rw [keys]
      rfl
  | (k, v) :: rest =>
    rw [entries_cons_ok]
    constructor
    · rintro ⟨t, j, printed, converted, later⟩
      obtain ⟨es, keys, values, rfl⟩ := (entries_become_iff rest _ fields).mp later
      exact ⟨(t, j) :: es, .cons ((key_text_iff k t).mp printed) keys, .cons ((becomes_iff v j).mp converted) values, rfl⟩
    · rintro ⟨es, keys, values, rfl⟩
      match es, keys, values with
      | (t, j) :: es, .cons printed keys, .cons converted values =>
        exact ⟨t, j, (key_text_iff k t).mpr printed, (becomes_iff v j).mpr converted,
          (entries_become_iff rest _ _).mpr ⟨es, keys, values, rfl⟩⟩

end

mutual

theorem converted_iff (v : Value) : (∃ j, v.toJson = .ok j) ↔ Convertible v := by
  match v with
  | .null | .bool _ | .str _ =>
    refine ⟨fun _ => ?_, fun _ => ⟨_, rfl⟩⟩
    rw [convertible_iff]
    exact ⟨by simp, by simp, by rintro part ⟨⟩⟩
  | .num n => exact (number_some_iff n).trans (convertible_num n).symm
  | .seq items =>
    rw [convertible_seq, ← items_converted_iff, Value.toJson]
    simp [map_ok_iff]
  | .map entries =>
    rw [convertible_map, ← entries_converted_iff entries [], Value.toJson]
    simp [map_ok_iff]
  | .tagged tag v => rw [convertible_tagged, ← converted_iff v, Value.toJson]

theorem items_converted_iff (items : List Value) :
    (∃ js, Value.itemsToJson items = .ok js) ↔ ∀ v ∈ items, Convertible v := by
  match items with
  | [] => simp [Value.itemsToJson]
  | v :: rest =>
    rw [List.forall_mem_cons, ← converted_iff v, ← items_converted_iff rest]
    constructor
    · rintro ⟨js, converted⟩
      obtain ⟨j, later, first, after, -⟩ := items_cons_ok.mp converted
      exact ⟨⟨j, first⟩, ⟨later, after⟩⟩
    · rintro ⟨⟨j, first⟩, ⟨later, after⟩⟩
      exact ⟨j :: later, items_cons_ok.mpr ⟨j, later, first, after, rfl⟩⟩

theorem entries_converted_iff (entries : List (Value × Value)) (done : Json.Fields) :
    (∃ fields, Value.entriesToJson done entries = .ok fields) ↔
      ∀ k v, (k, v) ∈ entries → k.isPlain = true ∧ Convertible v := by
  match entries with
  | [] => simp [Value.entriesToJson]
  | (k, v) :: rest =>
    constructor
    · rintro ⟨fields, converted⟩ k' v' mem
      obtain ⟨t, j, printed, first, later⟩ := entries_cons_ok.mp converted
      rcases List.mem_cons.mp mem with own | after
      · cases own
        exact ⟨(key_text_some_iff k).mp ⟨t, printed⟩, (converted_iff v).mp ⟨j, first⟩⟩
      · exact (entries_converted_iff rest _).mp ⟨fields, later⟩ k' v' after
    · intro each
      obtain ⟨plain, convertible⟩ := each k v List.mem_cons_self
      obtain ⟨t, printed⟩ := (key_text_some_iff k).mpr plain
      obtain ⟨j, first⟩ := (converted_iff v).mpr convertible
      obtain ⟨fields, later⟩ := (entries_converted_iff rest (Ordered.put t j done)).mpr
        fun k' v' after => each k' v' (List.mem_cons_of_mem _ after)
      exact ⟨fields, entries_cons_ok.mpr ⟨t, j, printed, first, later⟩⟩

end

/-- A value is converted unless it has a number that is not finite or a key that is no plain value, anywhere in it, and it is
converted to what it becomes. -/
theorem conversion_is_exact (v : Value) :
    ((∃ j, v.toJson = .ok j) ↔
      (∀ n, Occurs (.num n) v → n.isFinite = true) ∧ ∀ k, IsKey k v → k.isPlain = true) ∧
    ∀ j, v.toJson = .ok j ↔ Becomes v j := by
  refine ⟨?_, becomes_iff v⟩
  rw [converted_iff]
  exact ⟨fun convertible => ⟨convertible.numbers, convertible.keys⟩, fun ⟨numbers, keys⟩ => ⟨numbers, keys⟩⟩

example : (Value.map [(.num (.int ⟨200, by decide, by decide⟩), .null), (.bool true, .null),
    (.str "200".toList, .tagged [] (.bool false))]).toJson =
    .ok (.obj [("200".toList, .bool false), ("true".toList, .null)]) := rfl

end ApiTypes.Yaml
