import Mathlib.Data.List.Induction
import ApiTypes.Ordered
/-!
Ordered maps: what is found in a map that was made from others, and what a map holds after entries were put into it. A
lookup only ever sees the first entry of a key, so that part does not ask for keys that occur once.
-/
namespace ApiTypes.Ordered

variable {κ κ' α β : Type} [BEq κ] [LawfulBEq κ] [BEq κ'] [LawfulBEq κ']

theorem get_mem {k : κ} {v : α} {entries : List (κ × α)} (found : get? k entries = some v) : (k, v) ∈ entries := by
  induction entries with
  | nil => simp [get?] at found
  | cons e entries ih =>
    obtain ⟨k', v'⟩ := e
    simp only [get?] at found
    split at found
    · rename_i same
      cases found
      simp [beq_iff_eq.mp same]
    · exact List.mem_cons_of_mem _ (ih found)

omit [LawfulBEq κ] in
theorem get_append (k : κ) (entries more : List (κ × α)) :
    get? k (entries ++ more) = (get? k entries).or (get? k more) := by
  induction entries with
  | nil => rfl
  | cons e entries ih =>
    obtain ⟨k', v⟩ := e
    simp only [List.cons_append, get?]
    split
    · rfl
    · exact ih

theorem get_append_other {k place : κ} (other : k ≠ place) (entries : List (κ × α)) (v : α) :
    get? k (entries ++ [(place, v)]) = get? k entries := by
  have apart : ¬ (place == k) = true := fun same => other (beq_iff_eq.mp same).symm
  rw [get_append, get?, if_neg apart, get?, Option.or_none]

theorem get_map (k : κ) (f : κ → α → β) (entries : List (κ × α)) :
    get? k (entries.map fun e => (e.1, f e.1 e.2)) = (get? k entries).map (f k) := by
  induction entries with
  | nil => rfl
  | cons e entries ih =>
    obtain ⟨k', v⟩ := e
    by_cases same : k' = k
    · subst same
      simp [get?]
    · simp only [List.map_cons, get?, beq_iff_eq, same, if_false, ih]

theorem get_filter (k : κ) (keep : κ → Bool) (entries : List (κ × α)) :
    get? k (entries.filter fun e => keep e.1) = if keep k then get? k entries else none := by
  induction entries with
  | nil => simp [get?]
  | cons e entries ih =>
    obtain ⟨k', v⟩ := e
    by_cases same : k' = k
    · subst same
      by_cases kept : keep k'
      · simp [get?, kept]
      · simp only [kept, Bool.false_eq_true, if_false] at ih ⊢
        simp [kept, ih]
    · by_cases kept : keep k' <;> simp [kept, get?, same, ih]

theorem get_none_key {k : κ} {entries : List (κ × α)} (missing : get? k entries = none) :
    k ∉ keys entries := by
  induction entries with
  | nil => simp [keys]
  | cons e entries ih =>
    obtain ⟨k', v'⟩ := e
    by_cases same : k' = k
    · simp [get?, same] at missing
    · simp only [get?, beq_iff_eq, same, if_false] at missing
      intro mem
      rcases List.mem_cons.mp mem with first | later
      · exact same first.symm
      · exact ih missing later

theorem get_absent {k : κ} {entries : List (κ × α)} (absent : k ∉ keys entries) : get? k entries = none := by
  cases found : get? k entries with
  | none => rfl
  | some v => exact absurd (List.mem_map_of_mem (get_mem found)) absent

theorem get_of_mem {k : κ} {v : α} {entries : List (κ × α)} (apart : WellFormed entries) (mem : (k, v) ∈ entries) :
    get? k entries = some v := by
  induction entries with
  | nil => simp at mem
  | cons e entries ih =>
    obtain ⟨k', v'⟩ := e
    simp only [WellFormed, keys, List.map_cons, List.nodup_cons] at apart
    rcases List.mem_cons.mp mem with same | later
    · cases same
      simp [get?]
    · have other : k' ≠ k := by
        intro same
        exact apart.1 (same ▸ List.mem_map_of_mem later)
      simp [get?, other, ih apart.2 later]

theorem get_eq_iff {k : κ} {v : α} {entries : List (κ × α)} (apart : WellFormed entries) :
    get? k entries = some v ↔ (k, v) ∈ entries :=
  ⟨get_mem, get_of_mem apart⟩

theorem get_perm {entries others : List (κ × α)} (apart : WellFormed entries) (same : entries.Perm others) (k : κ) :
    get? k entries = get? k others := by
  have apart' : WellFormed others := (same.map Prod.fst).nodup apart
  ext v
  rw [get_eq_iff apart, get_eq_iff apart', same.mem_iff]

/-! ### What is put in -/

theorem put_mem {k : κ} {v : α} {entries : List (κ × α)} {e : κ × α} (mem : e ∈ put k v entries) :
    e = (k, v) ∨ e ∈ entries := by
  induction entries with
  | nil => exact Or.inl (List.mem_singleton.mp mem)
  | cons first entries ih =>
    obtain ⟨k', v'⟩ := first
    simp only [put] at mem
    split at mem
    · rename_i same
      rcases List.mem_cons.mp mem with replaced | kept
      · exact Or.inl (by rw [replaced, beq_iff_eq.mp same])
      · exact Or.inr (List.mem_cons_of_mem _ kept)
    · rcases List.mem_cons.mp mem with kept | later
      · exact Or.inr (by simp [kept])
      · rcases ih later with replaced | kept
        · exact Or.inl replaced
        · exact Or.inr (List.mem_cons_of_mem _ kept)

theorem put_all_mem {es entries : List (κ × α)} {e : κ × α}
    (mem : e ∈ es.foldl (fun m e => put e.1 e.2 m) entries) : e ∈ entries ∨ e ∈ es := by
  induction es generalizing entries with
  | nil => exact Or.inl mem
  | cons first es ih =>
    rcases ih mem with before | later
    · rcases put_mem before with own | kept
      · exact Or.inr (by simp [own])
      · exact Or.inl kept
    · exact Or.inr (List.mem_cons_of_mem _ later)

theorem put_key_iff {k x : κ} {v : α} {entries : List (κ × α)} :
    x ∈ keys (put k v entries) ↔ x = k ∨ x ∈ keys entries := by
  induction entries with
  | nil => simp [put, keys]
  | cons e entries ih =>
    obtain ⟨k', v'⟩ := e
    by_cases same : k' = k
    · subst same
      simp [put, keys]
    · simp only [keys] at ih
      simp only [put, beq_iff_eq, same, if_false, keys, List.map_cons, List.mem_cons, ih]
      constructor
      · rintro (first | own | later)
        · exact Or.inr (Or.inl first)
        · exact Or.inl own
        · exact Or.inr (Or.inr later)
      · rintro (own | first | later)
        · exact Or.inr (Or.inl own)
        · exact Or.inl first
        · exact Or.inr (Or.inr later)

theorem put_keeps_keys_apart {k : κ} {v : α} {entries : List (κ × α)} (apart : WellFormed entries) :
    WellFormed (put k v entries) := by
  induction entries with
  | nil => simp [put, WellFormed, keys]
  | cons e entries ih =>
    obtain ⟨k', v'⟩ := e
    obtain ⟨new, rest⟩ := List.nodup_cons.mp apart
    by_cases same : k' = k
    · subst same
      simpa [put, WellFormed, keys] using apart
    · simp only [put, beq_iff_eq, same, if_false]
      refine List.nodup_cons.mpr ⟨?_, ih rest⟩
      intro mem
      rcases put_key_iff.mp mem with own | old
      · exact same own
      · exact new old

theorem put_all_keys_apart {es entries : List (κ × α)} (apart : WellFormed entries) :
    WellFormed (es.foldl (fun m e => put e.1 e.2 m) entries) := by
  induction es generalizing entries with
  | nil => exact apart
  | cons e es ih => exact ih (put_keeps_keys_apart apart)

theorem put_all_key_iff {es entries : List (κ × α)} {x : κ} :
    x ∈ keys (es.foldl (fun m e => put e.1 e.2 m) entries) ↔
      x ∈ keys es ∨ x ∈ keys entries := by
  induction es generalizing entries with
  | nil => simp [keys]
  | cons e es ih =>
    rw [List.foldl_cons, ih, put_key_iff]
    simp only [keys, List.map_cons, List.mem_cons]
    constructor
    · rintro (later | own | old)
      · exact Or.inl (Or.inr later)
      · exact Or.inl (Or.inl own)
      · exact Or.inr old
    · rintro ((own | later) | old)
      · exact Or.inr (Or.inl own)
      · exact Or.inl later
      · exact Or.inr (Or.inr old)

theorem put_new {k : κ} {v : α} {entries : List (κ × α)} (new : k ∉ keys entries) :
    put k v entries = entries ++ [(k, v)] := by
  induction entries with
  | nil => rfl
  | cons e entries ih =>
    obtain ⟨k', v'⟩ := e
    simp only [keys, List.map_cons, List.mem_cons, not_or] at new
    have other : (k' == k) = false := by simpa using Ne.symm new.1
    simp only [put, other, Bool.false_eq_true, if_false, List.cons_append]
    rw [ih new.2]

theorem put_old {k : κ} {v : α} {entries : List (κ × α)} (old : k ∈ keys entries) :
    keys (put k v entries) = keys entries := by
  induction entries with
  | nil => simp [keys] at old
  | cons e entries ih =>
    obtain ⟨k', v'⟩ := e
    by_cases own : k' = k
    · simp [put, own, keys]
    · have later : k ∈ keys entries := by
        rcases List.mem_cons.mp old with first | later
        · exact absurd first.symm own
        · exact later
      simp only [put, beq_iff_eq, own, if_false]
      exact congrArg (k' :: ·) (ih later)

theorem of_list_keys (es : List (κ × α)) : keys (ofList es) = (keys es).eraseDups := by
  induction es using List.reverseRecOn with
  | nil => rfl
  | append_singleton es e ih =>
    have last : ofList (es ++ [e]) = put e.1 e.2 (ofList es) := by simp [ofList, List.foldl_append]
    have split : keys (es ++ [e]) = keys es ++ [e.1] := by simp [keys]
    rw [last, split, List.eraseDups_append, ← ih]
    by_cases old : e.1 ∈ keys es
    · have there : e.1 ∈ keys (ofList es) := by rwa [ih, List.mem_eraseDups]
      rw [put_old there]
      simp [List.removeAll, old]
    · have new : e.1 ∉ keys (ofList es) := by rwa [ih, List.mem_eraseDups]
      have alone : [e.1].removeAll (keys es) = [e.1] := by simp [List.removeAll, old]
      rw [put_new new, alone, List.eraseDups_cons]
      simp [keys]

theorem erase_dups_distinct {ks : List κ} (distinct : ks.Nodup) : ks.eraseDups = ks := by
  induction ks with
  | nil => rfl
  | cons k ks ih =>
    obtain ⟨new, rest⟩ := List.nodup_cons.mp distinct
    have kept : ks.filter (fun x => !x == k) = ks := by
      rw [List.filter_eq_self]
      intro x mem
      have other : x ≠ k := fun same => new (same ▸ mem)
      simp [other]
    rw [List.eraseDups_cons, kept, ih rest]

theorem of_list_append_keys {es more : List (κ × α)} (apart : WellFormed es) (apart' : WellFormed more) :
    keys (ofList (es ++ more)) = keys es ++ (keys more).removeAll (keys es) := by
  have both : keys (es ++ more) = keys es ++ keys more := List.map_append
  have new : ((keys more).removeAll (keys es)).Nodup := List.filter_sublist.nodup apart'
  rw [of_list_keys, both, List.eraseDups_append, erase_dups_distinct apart, erase_dups_distinct new]

theorem get_put (k x : κ) (v : α) (entries : List (κ × α)) :
    get? x (put k v entries) = if k == x then some v else get? x entries := by
  induction entries with
  | nil => rfl
  | cons e entries ih =>
    obtain ⟨k', v'⟩ := e
    by_cases own : k' = k
    · subst own
      simp only [put, beq_self_eq_true, if_true, get?]
      split <;> rfl
    · simp only [put, beq_iff_eq, own, if_false, get?]
      by_cases found : k' = x
      · subst found
        simp [Ne.symm own]
      · simp only [found, if_false, ih, beq_iff_eq]

theorem put_all_get (k : κ) (es entries : List (κ × α)) :
    get? k (es.foldl (fun m e => put e.1 e.2 m) entries) =
      ((es.reverse.find? (·.1 == k)).map Prod.snd).or (get? k entries) := by
  induction es generalizing entries with
  | nil => rfl
  | cons e es ih =>
    rw [List.foldl_cons, ih, get_put, List.reverse_cons, List.find?_append, Option.map_or, Option.or_assoc]
    congr 1
    by_cases own : e.1 = k <;> simp [own]

omit [LawfulBEq κ] in
theorem find_get (k : κ) (entries : List (κ × α)) : (entries.find? (·.1 == k)).map Prod.snd = get? k entries := by
  induction entries with
  | nil => rfl
  | cons e entries ih =>
    obtain ⟨k', v⟩ := e
    rw [List.find?_cons, get?]
    by_cases own : (k' == k) = true
    · simp [own]
    · simp only [own, ih]
      rfl

theorem of_list_append_get {es more : List (κ × α)} (apart : WellFormed es) (apart' : WellFormed more) (k : κ) :
    get? k (ofList (es ++ more)) = (get? k more).or (get? k es) := by
  have found := put_all_get k (es ++ more) []
  rw [ofList, found, List.reverse_append, List.find?_append, Option.map_or, find_get, find_get,
    ← get_perm apart' (List.reverse_perm more).symm, ← get_perm apart (List.reverse_perm es).symm, get?, Option.or_none]

theorem put_all_new {es entries : List (κ × α)} (distinct : (keys entries ++ keys es).Nodup) :
    es.foldl (fun m e => put e.1 e.2 m) entries = entries ++ es := by
  induction es generalizing entries with
  | nil => simp
  | cons e es ih =>
    have new : e.1 ∉ keys entries := by
      intro mem
      exact (List.nodup_append.mp distinct).2.2 e.1 mem e.1 (by simp [keys]) rfl
    rw [List.foldl_cons, put_new new, ih]
    · simp
    · simpa [keys] using distinct

theorem put_map {f : κ → κ'} (injective : ∀ a b, f a = f b → a = b) (g : α → β) (k : κ) (v : α)
    (entries : List (κ × α)) :
    (put k v entries).map (fun e => (f e.1, g e.2)) =
      put (f k) (g v) (entries.map fun e => (f e.1, g e.2)) := by
  induction entries with
  | nil => rfl
  | cons e entries ih =>
    obtain ⟨k', v'⟩ := e
    by_cases same : k' = k
    · subst same
      simp [put]
    · have other : f k' ≠ f k := fun equal => same (injective k' k equal)
      simp [put, same, other, ih]

theorem put_all_map {f : κ → κ'} (injective : ∀ a b, f a = f b → a = b) (g : α → β) (es entries : List (κ × α)) :
    (es.foldl (fun m e => put e.1 e.2 m) entries).map (fun e => (f e.1, g e.2)) =
      (es.map fun e => (f e.1, g e.2)).foldl (fun m e => put e.1 e.2 m)
        (entries.map fun e => (f e.1, g e.2)) := by
  induction es generalizing entries with
  | nil => rfl
  | cons e es ih => rw [List.foldl_cons, ih, put_map injective, List.map_cons, List.foldl_cons]

end ApiTypes.Ordered
