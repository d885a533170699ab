import Mathlib.Data.List.Sort
import ApiTypes.Proofs.Ordered
/-!
What a map shows of the entries that were put into it one after another. Its keys stand in the order in which they first
came and under each key is what came last, and this is all: no other map shows the same. What was there before and is
not put in again stays as it is, and where it is.
-/
namespace ApiTypes.Ordered

variable {κ α : Type} [BEq κ]

def last? (k : κ) (es : List (κ × α)) : Option α := ((es.filter (·.1 == k)).getLast?).map Prod.snd

/-- A map is what comes of putting the entries `es` into an empty one. -/
structure LastWins (es entries : List (κ × α)) : Prop where
  order : (keys entries).Pairwise fun x y => (keys es).idxOf x < (keys es).idxOf y
  inserted : ∀ k, k ∈ keys entries ↔ k ∈ keys es
  last : ∀ k, get? k entries = last? k es

theorem last_append (k : κ) (es more : List (κ × α)) : last? k (es ++ more) = (last? k more).or (last? k es) := by
  rw [last?, List.filter_append, List.getLast?_append, Option.map_or]
  rfl

theorem last_single (k x : κ) (v : α) : last? x [(k, v)] = if k == x then some v else none := by
  rw [last?, List.filter_singleton]
  cases k == x <;> rfl

theorem LastWins.empty : LastWins ([] : List (κ × α)) [] :=
  ⟨List.Pairwise.nil, fun _ => Iff.rfl, fun _ => rfl⟩

theorem LastWins.apart {es entries : List (κ × α)} (wins : LastWins es entries) : WellFormed entries := by
  refine List.Pairwise.imp (fun {x y} less same => ?_) wins.order
  exact Nat.lt_irrefl _ (same ▸ less)

variable [LawfulBEq κ]

namespace LastWins

variable {es entries : List (κ × α)}

/- A key that is there keeps its place; a new one comes later than all others in the list of entries too. -/
theorem put_order (wins : LastWins es entries) (k : κ) (v : α) :
    (keys (put k v entries)).Pairwise fun x y => (keys (es ++ [(k, v)])).idxOf x < (keys (es ++ [(k, v)])).idxOf y := by
  have split : keys (es ++ [(k, v)]) = keys es ++ [k] := List.map_append
  have place : ∀ x ∈ keys entries, (keys es ++ [k]).idxOf x = (keys es).idxOf x :=
    fun x mem => List.idxOf_append_of_mem ((wins.inserted x).mp mem)
  have before : (keys entries).Pairwise fun x y => (keys es ++ [k]).idxOf x < (keys es ++ [k]).idxOf y := by
    refine wins.order.imp_of_mem fun {x y} left right less => ?_
    rwa [place x left, place y right]
  rw [split]
  by_cases old : k ∈ keys entries
  · rwa [put_old old]
  · have behind : keys (put k v entries) = keys entries ++ [k] := by
      rw [put_new old]
      exact List.map_append
    rw [behind, List.pairwise_append]
    refine ⟨before, List.pairwise_singleton _ k, fun x mem y own => ?_⟩
    have listed := (wins.inserted x).mp mem
    have unlisted : k ∉ keys es := fun mem => old ((wins.inserted k).mpr mem)
    rw [List.mem_singleton.mp own, place x mem, List.idxOf_append, if_neg unlisted]
    exact Nat.lt_of_lt_of_le (List.idxOf_lt_length_iff.mpr listed) (Nat.le_add_left _ _)

theorem put (wins : LastWins es entries) (k : κ) (v : α) : LastWins (es ++ [(k, v)]) (put k v entries) where
  order := wins.put_order k v
  inserted x := by
    rw [put_key_iff, wins.inserted]
    simp [keys, or_comm]
  last x := by
    rw [get_put, wins.last, last_append, last_single]
    cases k == x <;> rfl

theorem of_list (es : List (κ × α)) : LastWins es (ofList es) := by
  induction es using List.reverseRecOn with
  | nil => exact empty
  | append_singleton es e ih =>
    have last : ofList (es ++ [e]) = Ordered.put e.1 e.2 (ofList es) := by simp [ofList, List.foldl_append]
    rw [last]
    exact ih.put e.1 e.2

end LastWins

theorem entries_of_keys {entries : List (κ × α)} (apart : WellFormed entries) :
    (keys entries).map (fun k => (k, get? k entries)) = entries.map fun e => (e.1, some e.2) := by
  rw [keys, List.map_map]
  refine List.map_congr_left fun e mem => ?_
  rw [Function.comp_apply, get_of_mem apart mem]

theorem LastWins.unique {es entries others : List (κ × α)} (wins : LastWins es entries) (wins' : LastWins es others) :
    entries = others := by
  let Before : κ → κ → Prop := fun x y => (keys es).idxOf x < (keys es).idxOf y
  have irreflexive : Std.Irrefl Before := ⟨fun _ => Nat.lt_irrefl _⟩
  have antisymmetric : Std.Antisymm Before := ⟨fun _ _ less more => absurd more (Nat.lt_asymm less)⟩
  have sameKeys : keys entries = keys others :=
    List.Pairwise.eq_of_mem_iff (r := Before) wins.order wins'.order
      fun k => (wins.inserted k).trans (wins'.inserted k).symm
  have sameEntries : entries.map (fun e => (e.1, some e.2)) = others.map fun e => (e.1, some e.2) := by
    rw [← entries_of_keys wins.apart, ← entries_of_keys wins'.apart, sameKeys]
    exact List.map_congr_left fun k _ => by rw [wins.last, wins'.last]
  refine List.map_injective_iff.mpr ?_ sameEntries
  intro e f equal
  simpa [Prod.ext_iff] using equal

/-! ### What stays -/

theorem put_keeps_place {k : κ} {v : α} {entries : List (κ × α)} {i : Nat} {e : κ × α} (there : entries[i]? = some e)
    (other : e.1 ≠ k) : (put k v entries)[i]? = some e := by
  induction entries generalizing i with
  | nil => simp at there
  | cons first entries ih =>
    obtain ⟨k', v'⟩ := first
    cases i with
    | zero =>
      have own : (k', v') = e := by simpa using there
      have apart : k' ≠ k := by simpa [← own] using other
      simp [put, apart, own]
    | succ i =>
      have later : entries[i]? = some e := by simpa using there
      by_cases same : k' = k
      · simp [put, same, later]
      · simp [put, same, ih later]

theorem put_all_keeps_place {es entries : List (κ × α)} {i : Nat} {e : κ × α} (there : entries[i]? = some e)
    (other : e.1 ∉ keys es) : (es.foldl (fun m e => put e.1 e.2 m) entries)[i]? = some e := by
  induction es generalizing entries with
  | nil => exact there
  | cons first es ih =>
    simp only [keys, List.map_cons, List.mem_cons, not_or] at other
    exact ih (put_keeps_place there other.1) other.2

theorem put_keys_lead (k : κ) (v : α) (entries : List (κ × α)) : keys entries <+: keys (put k v entries) := by
  by_cases old : k ∈ keys entries
  · exact ⟨[], by rw [List.append_nil, put_old old]⟩
  · rw [put_new old, keys, keys, List.map_append]
    exact List.prefix_append _ _

theorem put_all_keys_lead (es entries : List (κ × α)) :
    keys entries <+: keys (es.foldl (fun m e => put e.1 e.2 m) entries) := by
  induction es generalizing entries with
  | nil => exact List.prefix_refl _
  | cons e es ih => exact (put_keys_lead e.1 e.2 entries).trans (ih _)

end ApiTypes.Ordered
