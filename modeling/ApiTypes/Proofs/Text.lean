import ApiTypes.Text.Basic
/-!
Facts about texts: what it is for one text to lead another or to occur in it, what trimming takes away, and where
the lines and the pieces of a text come from.
-/
namespace ApiTypes.Text

/-! ### Code points -/

theorem of_valid_code {n : Nat} (valid : n.isValidChar) : (Char.ofNat n).toNat = n := by
  rw [Char.ofNat, dif_pos valid]
  rfl

/- A number that is no code point stands for the null character. -/
theorem of_nat_code (n : Nat) : (Char.ofNat n).toNat = n ∨ (Char.ofNat n).toNat = 0 := by
  by_cases valid : n.isValidChar
  · exact Or.inl (of_valid_code valid)
  · refine Or.inr ?_
    rw [Char.ofNat, dif_neg valid]
    rfl

theorem lower_kept {c : Char} (other : ¬ (65 ≤ c.toNat ∧ c.toNat < 91)) : c.toLower = c :=
  dif_neg fun within => other ⟨within.1, Nat.lt_succ_of_le within.2⟩

theorem lower_code {c : Char} (upper : 65 ≤ c.toNat ∧ c.toNat < 91) : c.toLower.toNat = c.toNat + 32 := by
  have codes : ∀ n < 91, 65 ≤ n → (Char.ofNat n).toLower.toNat = n + 32 := by decide
  have code := codes c.toNat upper.2 upper.1
  rwa [Char.ofNat_toNat] at code

theorem lower_eq {c d : Char} (same : c.toLower = d) (unlettered : d.isAlpha = false) : c = d := by
  have letters : ∀ n < 91, 65 ≤ n → (Char.ofNat n).toLower.isAlpha = true := by decide
  by_cases upper : 65 ≤ c.toNat ∧ c.toNat < 91
  · have lettered := letters c.toNat upper.2 upper.1
    rw [Char.ofNat_toNat, same, unlettered] at lettered
    simp at lettered
  · exact (lower_kept upper).symm.trans same

theorem lower_letter_iff {c letter : Char} (upper : 65 ≤ letter.toNat ∧ letter.toNat < 91) :
    c.toLower = letter.toLower ↔ c = letter ∨ c = letter.toLower := by
  have low := lower_code upper
  by_cases own : 65 ≤ c.toNat ∧ c.toNat < 91
  · constructor
    · intro same
      have codes := congrArg Char.toNat same
      rw [lower_code own, low] at codes
      exact Or.inl (Char.toNat_inj.mp (by omega))
    · rintro (rfl | rfl)
      · rfl
      · omega
  · rw [lower_kept own]
    constructor
    · exact Or.inr
    · rintro (rfl | same)
      · exact absurd upper own
      · exact same

theorem lower_ascii_eq {t u : Text} (unlettered : ∀ c ∈ u, c.isAlpha = false) (same : lowerAscii t = u) : t = u := by
  induction t generalizing u with
  | nil => exact same
  | cons c t ih =>
    subst same
    have first := lower_eq (rfl : c.toLower = _) (unlettered c.toLower (by simp [lowerAscii]))
    have later : t = lowerAscii t := ih (fun d mem => unlettered d (List.mem_cons_of_mem c.toLower mem)) rfl
    change c :: t = c.toLower :: lowerAscii t
    rw [← first, ← later]

/-! ### Occurrences -/

theorem starts_with_iff (t lead : Text) : startsWith t lead = true ↔ lead <+: t := by
  induction lead generalizing t with
  | nil => simp [startsWith, dropLead?]
  | cons c lead ih =>
    cases t with
    | nil => simp [startsWith, dropLead?]
    | cons d t =>
      by_cases same : c = d
      · subst d
        have step : startsWith (c :: t) (c :: lead) = startsWith t lead := by simp [startsWith, dropLead?]
        rw [step, ih, List.cons_prefix_cons]
        simp
      · simp [startsWith, dropLead?, same, List.cons_prefix_cons]

theorem includes_iff_infix (piece t : Text) : includes piece t = true ↔ piece <:+: t := by
  induction t with
  | nil => simp [includes]
  | cons c t ih => simp [includes, starts_with_iff, ih, List.infix_cons_iff]

theorem not_includes_iff (piece t : Text) : includes piece t = false ↔ ¬ piece <:+: t := by
  rw [← includes_iff_infix, Bool.not_eq_true]

theorem pair_not_across {a b : Char} {s t : Text} (left : ¬ [a, b] <:+: s) (right : ¬ [a, b] <:+: t)
    (seam : s.getLast? = some a → t.head? ≠ some b) : ¬ [a, b] <:+: s ++ t := by
  induction s with
  | nil => exact right
  | cons c s ih =>
    have left' : ¬ [a, b] <:+: s := fun inside => left (List.infix_cons_iff.mpr (Or.inr inside))
    have seam' : s.getLast? = some a → t.head? ≠ some b := by
      intro last
      apply seam
      simp [List.getLast?_cons, last]
    rw [List.cons_append, List.infix_cons_iff, not_or]
    refine ⟨?_, ih left' seam'⟩
    intro first
    cases s with
    | nil =>
      cases t with
      | nil => simp [List.cons_prefix_cons] at first
      | cons d t =>
        simp only [List.nil_append, List.cons_prefix_cons] at first
        obtain ⟨rfl, rfl, -⟩ := first
        exact seam rfl rfl
    | cons d s =>
      apply left
      simp only [List.cons_append, List.cons_prefix_cons] at first
      obtain ⟨rfl, rfl, -⟩ := first
      exact List.infix_cons_iff.mpr (Or.inl (by simp [List.cons_prefix_cons]))

theorem append_mark_inj {c : Char} {s s' t t' : Text} (single : c ∉ s) (single' : c ∉ s')
    (same : s ++ c :: t = s' ++ c :: t') : s = s' ∧ t = t' := by
  induction s generalizing s' with
  | nil =>
    cases s' with
    | nil => exact ⟨rfl, (List.cons.inj same).2⟩
    | cons d s' =>
      have first : c = d := (List.cons.inj same).1
      exact absurd (first ▸ List.mem_cons_self) single'
  | cons b s ih =>
    cases s' with
    | nil =>
      have first : b = c := (List.cons.inj same).1
      exact absurd (first ▸ List.mem_cons_self) single
    | cons d s' =>
      obtain ⟨rfl, rest⟩ := List.cons.inj same
      obtain ⟨rfl, rfl⟩ := ih (fun mem => single (List.mem_cons_of_mem _ mem))
        (fun mem => single' (List.mem_cons_of_mem _ mem)) rest
      exact ⟨rfl, rfl⟩

/-! ### Replacement -/

section Replacement

variable (piece by_ : Text)

theorem replace_skip (t u : Text) : replaceFrom piece by_ t.length (t ++ u) = replaceFrom piece by_ 0 u := by
  induction t with
  | nil => rfl
  | cons c t ih => exact ih

theorem replace_occurrence (c : Char) (t : Text) :
    replaceFrom (c :: piece) by_ 0 (c :: (piece ++ t)) = by_ ++ replaceFrom (c :: piece) by_ 0 t := by
  have yes : startsWith (c :: (piece ++ t)) (c :: piece) = true := by
    rw [starts_with_iff]
    exact List.prefix_append (c :: piece) t
  rw [replaceFrom, if_pos yes]
  exact congrArg (by_ ++ ·) (replace_skip (c :: piece) by_ piece t)

variable {piece}

theorem replace_other {c : Char} {t : Text} (other : ¬ piece <+: c :: t) :
    replaceFrom piece by_ 0 (c :: t) = c :: replaceFrom piece by_ 0 t := by
  have no : startsWith (c :: t) piece = false := by
    rw [← Bool.not_eq_true, starts_with_iff]
    exact other
  simp [replaceFrom, no]

theorem replace_char (c : Char) (t : Text) : replace [c] by_ t = t.flatMap fun d => if d = c then by_ else [d] := by
  unfold replace
  induction t with
  | nil => rfl
  | cons d t ih =>
    rw [List.flatMap_cons, ← ih]
    by_cases same : d = c
    · subst same
      rw [if_pos rfl]
      exact replace_occurrence [] by_ d t
    · rw [if_neg same, replace_other by_ (by simp [Ne.symm same])]
      rfl

end Replacement

/-! ### Trimming -/

theorem trim_end_split (t : Text) : ∃ blanks, t = trimEnd t ++ blanks ∧ blanks.all isBlank = true := by
  refine ⟨(t.reverse.takeWhile isBlank).reverse, ?_, ?_⟩
  · rw [trimEnd, ← List.reverse_append, List.takeWhile_append_dropWhile, List.reverse_reverse]
  · simp

theorem trim_start_shown {c : Char} {t : Text} (shown : isBlank c = false) : trimStart (c :: t) = c :: t := by
  simp [trimStart, shown]

theorem trim_end_shown {c : Char} {t : Text} (shown : isBlank c = false) : ∃ u, trimEnd (c :: t) = c :: u := by
  obtain ⟨blanks, split, blank⟩ := trim_end_split (c :: t)
  cases kept : trimEnd (c :: t) with
  | nil =>
    rw [kept, List.nil_append] at split
    simp [← split, shown] at blank
  | cons d u =>
    rw [kept, List.cons_append, List.cons.injEq] at split
    exact ⟨u, by rw [← split.1]⟩

theorem trim_end_blank {b : Char} (t : Text) (blank : isBlank b = true) : trimEnd (t ++ [b]) = trimEnd t := by
  simp [trimEnd, blank]

theorem trim_blank_end {b : Char} (t : Text) (blank : isBlank b = true) : trim (t ++ [b]) = trim t := by
  induction t with
  | nil => simp [trim, trimStart, trimEnd, blank]
  | cons c t ih =>
    cases first : isBlank c with
    | true => simpa [trim, trimStart, first] using ih
    | false =>
      rw [trim, trim, List.cons_append, trim_start_shown first, trim_start_shown first, ← List.cons_append,
        trim_end_blank _ blank]

theorem trim_infix (t : Text) : trim t <:+: t := by
  obtain ⟨blanks, split, -⟩ := trim_end_split (trimStart t)
  have lead : trim t <+: trimStart t := ⟨blanks, split.symm⟩
  exact lead.isInfix.trans (List.dropWhile_suffix _).isInfix

theorem trim_blank_lead {lead : Text} (blank : lead.all isBlank = true) (t : Text) : trim (lead ++ t) = trim t := by
  induction lead with
  | nil => rfl
  | cons c lead ih =>
    simp only [List.all_cons, Bool.and_eq_true] at blank
    simpa [trim, trimStart, blank.1] using ih blank.2

theorem trim_first {t u : Text} {c : Char} (trimmed : trim t = c :: u) : isBlank c = false := by
  obtain ⟨blanks, split, -⟩ := trim_end_split (trimStart t)
  have first : (trimStart t).head? = some c := by
    rw [split, ← trim, trimmed]
    rfl
  have shown := List.head?_dropWhile_not isBlank t
  rw [← trimStart, first] at shown
  simpa using shown

theorem trim_last {t : Text} {c : Char} (last : (trim t).getLast? = some c) : isBlank c = false := by
  have shown := List.head?_dropWhile_not isBlank (trimStart t).reverse
  rw [trim, trimEnd, List.getLast?_reverse] at last
  rw [last] at shown
  simpa using shown

theorem drop_blank_keeps {c : Char} {t : Text} (mem : c ∈ t) (shown : isBlank c = false) : c ∈ t.dropWhile isBlank := by
  rw [← List.takeWhile_append_dropWhile (p := isBlank) (l := t), List.mem_append] at mem
  rcases mem with lead | rest
  · have blank := List.all_eq_true.mp List.all_takeWhile c lead
    rw [shown] at blank
    simp at blank
  · exact rest

theorem trim_keeps {c : Char} {t : Text} (mem : c ∈ t) (shown : isBlank c = false) : c ∈ trim t := by
  have start : c ∈ (trimStart t).reverse := List.mem_reverse.mpr (drop_blank_keeps mem shown)
  exact List.mem_reverse.mpr (drop_blank_keeps start shown)

theorem trim_trim (t : Text) : trim (trim t) = trim t := by
  cases trimmed : trim t with
  | nil => rfl
  | cons c u =>
    rw [trim, trim_start_shown (trim_first trimmed), ← trimmed]
    obtain ⟨blanks, split, blank⟩ := trim_end_split (trim t)
    -- What trimming the end again would take away is blank, and the last character is not.
    cases last : blanks.getLast? with
    | none =>
      rw [List.getLast?_eq_none_iff.mp last, List.append_nil] at split
      exact split.symm
    | some d =>
      have ends : (trim t).getLast? = some d := by
        rw [split, List.getLast?_append, last]
        rfl
      have dark := List.all_eq_true.mp blank d (List.mem_of_getLast? last)
      rw [trim_last ends] at dark
      simp at dark

/-! ### Lines -/

theorem drop_return_cases (t : Text) : dropReturn t = t ∨ t = dropReturn t ++ ['\r'] := by
  fun_induction dropReturn t with
  | case1 => exact Or.inl rfl
  | case2 => exact Or.inr rfl
  | case3 c rest _ ih =>
    rcases ih with same | dropped
    · exact Or.inl (by rw [same])
    · exact Or.inr (by rw [List.cons_append, ← dropped])

theorem trim_drop_return (t : Text) : trim (dropReturn t) = trim t := by
  rcases drop_return_cases t with same | dropped
  · rw [same]
  · rw [dropped, trim_blank_end _ rfl, ← dropped]

theorem drop_return_leads (t : Text) : dropReturn t <+: t := by
  rcases drop_return_cases t with same | dropped
  · exact ⟨[], by rw [List.append_nil, same]⟩
  · exact ⟨['\r'], dropped.symm⟩

theorem lines_from_infix {pending t l : Text} (mem : l ∈ linesFrom pending t) : l <:+: pending.reverse ++ t := by
  induction t generalizing pending with
  | nil =>
    simp only [linesFrom] at mem
    split at mem
    · simp at mem
    · simp only [List.mem_singleton] at mem
      simp [mem]
  | cons c t ih =>
    simp only [linesFrom] at mem
    split at mem
    · rcases List.mem_cons.mp mem with first | later
      · rw [first]
        exact (drop_return_leads _).isInfix.trans (List.prefix_append _ _).isInfix
      · have inside := ih later
        simp only [List.reverse_nil, List.nil_append] at inside
        exact inside.trans ((List.suffix_cons c t).trans (List.suffix_append _ _)).isInfix
    · have inside := ih mem
      simpa using inside

theorem lines_from_no_feed {pending t l : Text} (clean : '\n' ∉ pending) (mem : l ∈ linesFrom pending t) :
    '\n' ∉ l := by
  induction t generalizing pending with
  | nil =>
    simp only [linesFrom] at mem
    split at mem
    · simp at mem
    · simp only [List.mem_singleton] at mem
      simpa [mem] using clean
  | cons c t ih =>
    simp only [linesFrom] at mem
    split at mem
    · rcases List.mem_cons.mp mem with first | later
      · rw [first]
        intro feed
        exact clean (by simpa using (drop_return_leads pending.reverse).subset feed)
      · exact ih (by simp) later
    · rename_i other
      have apart : '\n' ≠ c := fun same => other (beq_iff_eq.mpr same.symm)
      exact ih (by simp [apart, clean]) mem

theorem drop_return_kept {t : Text} (last : t.getLast? ≠ some '\r') : dropReturn t = t := by
  rcases drop_return_cases t with same | dropped
  · exact same
  · rw [dropped, List.getLast?_concat] at last
    exact absurd rfl last

theorem lines_from_feed {l : Text} (single : '\n' ∉ l) (pending rest : Text) :
    linesFrom pending (l ++ '\n' :: rest) = dropReturn (pending.reverse ++ l) :: lines rest := by
  induction l generalizing pending with
  | nil => simp [linesFrom, lines]
  | cons c l ih =>
    simp only [List.mem_cons, not_or] at single
    have other : (c == '\n') = false := by simpa using Ne.symm single.1
    rw [List.cons_append, linesFrom, other, if_neg (by simp), ih single.2]
    simp

theorem lines_feed {l : Text} (single : '\n' ∉ l) (rest : Text) :
    lines (l ++ '\n' :: rest) = dropReturn l :: lines rest := by
  simpa [lines] using lines_from_feed single [] rest

theorem lines_append (t u : Text) : lines (t ++ '\n' :: u) = lines (t ++ ['\n']) ++ lines u := by
  suffices within : ∀ pending, linesFrom pending (t ++ '\n' :: u) = linesFrom pending (t ++ ['\n']) ++ lines u from
    within []
  induction t with
  | nil => intro pending; simp [linesFrom, lines]
  | cons c t ih =>
    intro pending
    simp only [List.cons_append, linesFrom, ih]
    split <;> rfl

/-- Lines that are joined are read back, unless a return at their end is lost. -/
theorem lines_join {ls : List Text} (some : ls ≠ []) (each : ∀ l ∈ ls, '\n' ∉ l ∧ l.getLast? ≠ .some '\r') :
    lines (joinWith ['\n'] ls ++ ['\n']) = ls := by
  induction ls with
  | nil => exact absurd rfl some
  | cons l ls ih =>
    obtain ⟨single, last⟩ := each l (by simp)
    cases ls with
    | nil =>
      rw [joinWith, lines_feed single, drop_return_kept last]
      rfl
    | cons next ls =>
      have later := ih (by simp) fun l' mem => each l' (List.mem_cons_of_mem l mem)
      rw [joinWith, List.append_assoc, List.append_assoc, List.singleton_append, lines_feed single, drop_return_kept last,
        later]

theorem lines_infix {t l : Text} (mem : l ∈ lines t) : l <:+: t := by
  simpa using lines_from_infix mem

theorem lines_no_feed {t l : Text} (mem : l ∈ lines t) : '\n' ∉ l :=
  lines_from_no_feed (by simp) mem

theorem lines_cover {c : Char} {t : Text} (mem : c ∈ t) (inside : c ≠ '\n') (kept : c ≠ '\r') : ∃ l ∈ lines t, c ∈ l := by
  suffices within : ∀ pending, c ∈ pending ∨ c ∈ t → ∃ l ∈ linesFrom pending t, c ∈ l from within [] (Or.inr mem)
  clear mem
  induction t with
  | nil =>
    intro pending mem
    have there : c ∈ pending := mem.resolve_right List.not_mem_nil
    have nonempty : pending.isEmpty = false := by
      cases pending with
      | nil => simp at there
      | cons _ _ => rfl
    exact ⟨pending.reverse, by simp [linesFrom, nonempty], List.mem_reverse.mpr there⟩
  | cons d t ih =>
    intro pending mem
    rw [linesFrom]
    split
    · rename_i feed
      rcases mem with before | after
      · refine ⟨dropReturn pending.reverse, by simp, ?_⟩
        rcases drop_return_cases pending.reverse with same | dropped
        · rw [same]
          exact List.mem_reverse.mpr before
        · have there : c ∈ dropReturn pending.reverse ++ ['\r'] := dropped ▸ List.mem_reverse.mpr before
          simpa [kept] using there
      · have later : c ∈ t := (List.mem_cons.mp after).resolve_left fun same => inside (same.trans (beq_iff_eq.mp feed))
        obtain ⟨l, listed, there⟩ := ih [] (Or.inr later)
        exact ⟨l, List.mem_cons_of_mem _ listed, there⟩
    · apply ih
      rcases mem with before | after
      · exact Or.inl (List.mem_cons_of_mem _ before)
      · rcases List.mem_cons.mp after with rfl | later
        · exact Or.inl List.mem_cons_self
        · exact Or.inr later

/-! ### Pieces -/

theorem join_with_mem {c : Char} {sep : Text} {ts : List Text} (mem : c ∈ joinWith sep ts) :
    c ∈ sep ∨ ∃ t ∈ ts, c ∈ t := by
  induction ts with
  | nil => simp [joinWith] at mem
  | cons t rest ih =>
    cases rest with
    | nil => exact Or.inr ⟨t, by simp, mem⟩
    | cons u rest =>
      rw [joinWith, List.mem_append, List.mem_append] at mem
      rcases mem with (first | between) | later
      · exact Or.inr ⟨t, by simp, first⟩
      · exact Or.inl between
      · rcases ih later with between | ⟨v, listed, inside⟩
        · exact Or.inl between
        · exact Or.inr ⟨v, List.mem_cons_of_mem _ listed, inside⟩

theorem join_with_append {sep : Text} {ts us : List Text} (left : ts ≠ []) (right : us ≠ []) :
    joinWith sep (ts ++ us) = joinWith sep ts ++ sep ++ joinWith sep us := by
  induction ts with
  | nil => exact absurd rfl left
  | cons t ts ih =>
    cases ts with
    | nil =>
      cases us with
      | nil => exact absurd rfl right
      | cons u us => rfl
    | cons t' ts =>
      have later := ih (by simp)
      simp only [List.cons_append, joinWith] at later ⊢
      rw [later]
      simp

theorem split_at_mem {c sep : Char} {t piece : Text} (listed : piece ∈ splitAt sep t) (mem : c ∈ piece) : c ∈ t := by
  induction t generalizing piece with
  | nil =>
    simp only [splitAt, List.mem_singleton] at listed
    rwa [listed] at mem
  | cons d rest ih =>
    unfold splitAt at listed
    split at listed
    · rcases List.mem_cons.mp listed with rfl | later
      · simp at mem
      · exact List.mem_cons_of_mem _ (ih later mem)
    · split at listed
      · rw [List.mem_singleton.mp listed] at mem
        simp only [List.mem_singleton] at mem
        simp [mem]
      · rename_i first more pieces
        rcases List.mem_cons.mp listed with rfl | later
        · rcases List.mem_cons.mp mem with rfl | inside
          · simp
          · exact List.mem_cons_of_mem _ (ih (by rw [pieces]; simp) inside)
        · exact List.mem_cons_of_mem _ (ih (by rw [pieces]; simp [later]) mem)

theorem split_at_covers {sep c : Char} {t : Text} (mem : c ∈ t) : c = sep ∨ ∃ piece ∈ splitAt sep t, c ∈ piece := by
  induction t with
  | nil => simp at mem
  | cons d t ih =>
    rw [splitAt]
    by_cases isSep : d == sep
    · rw [if_pos isSep]
      rcases List.mem_cons.mp mem with rfl | later
      · exact Or.inl (beq_iff_eq.mp isSep)
      · rcases ih later with same | ⟨piece, listed, inside⟩
        · exact Or.inl same
        · exact Or.inr ⟨piece, List.mem_cons_of_mem _ listed, inside⟩
    · rw [if_neg isSep]
      cases pieces : splitAt sep t with
      | nil =>
        rw [pieces] at ih
        rcases List.mem_cons.mp mem with rfl | later
        · exact Or.inr ⟨[c], by simp, by simp⟩
        · rcases ih later with same | ⟨piece, listed, -⟩
          · exact Or.inl same
          · simp at listed
      | cons piece more =>
        rw [pieces] at ih
        rcases List.mem_cons.mp mem with rfl | later
        · exact Or.inr ⟨c :: piece, by simp, by simp⟩
        · rcases ih later with same | ⟨found, listed, inside⟩
          · exact Or.inl same
          · rcases List.mem_cons.mp listed with rfl | further
            · exact Or.inr ⟨d :: found, by simp, by simp [inside]⟩
            · exact Or.inr ⟨found, by simp [further], inside⟩

theorem split_at_some (sep : Char) (t : Text) : splitAt sep t ≠ [] := by
  cases t with
  | nil => simp [splitAt]
  | cons c t =>
    rw [splitAt]
    split
    · simp
    · split <;> simp

theorem split_at_mark (sep : Char) (t u : Text) : splitAt sep (t ++ sep :: u) = splitAt sep t ++ splitAt sep u := by
  induction t with
  | nil => simp [splitAt]
  | cons c t ih =>
    rw [List.cons_append, splitAt, splitAt, ih]
    split
    · rfl
    · cases pieces : splitAt sep t with
      | nil => exact absurd pieces (split_at_some sep t)
      | cons piece more => rfl

theorem split_at_single {sep : Char} {piece : Text} (absent : sep ∉ piece) : splitAt sep piece = [piece] := by
  induction piece with
  | nil => rfl
  | cons c piece ih =>
    simp only [List.mem_cons, not_or] at absent
    rw [splitAt, if_neg (by simp [Ne.symm absent.1]), ih absent.2]

theorem split_at_append {sep : Char} {piece : Text} (absent : sep ∉ piece) (rest : Text) :
    splitAt sep (piece ++ sep :: rest) = piece :: splitAt sep rest := by
  rw [split_at_mark, split_at_single absent, List.singleton_append]

theorem split_at_pieces {sep : Char} {piece : Text} {pieces : List Text} (absent : ∀ p ∈ piece :: pieces, sep ∉ p) :
    splitAt sep (piece ++ pieces.flatMap (sep :: ·)) = piece :: pieces := by
  induction pieces generalizing piece with
  | nil =>
    rw [List.flatMap_nil, List.append_nil]
    exact split_at_single (absent piece (by simp))
  | cons next pieces ih =>
    rw [List.flatMap_cons, List.cons_append, split_at_append (absent piece (by simp)),
      ih fun p mem => absent p (by simp [mem])]

theorem cut_at_absent {sep : Char} {t : Text} (absent : sep ∉ t) : cutAt sep t = (t, none) := by
  induction t with
  | nil => rfl
  | cons c rest ih =>
    simp only [List.mem_cons, not_or] at absent
    rw [cutAt, if_neg (by simp [Ne.symm absent.1]), ih absent.2]

theorem cut_at_lead {c sep : Char} {t : Text} (mem : c ∈ (cutAt sep t).1) : c ∈ t ∧ c ≠ sep := by
  induction t with
  | nil => simp [cutAt] at mem
  | cons d rest ih =>
    unfold cutAt at mem
    split at mem
    · simp at mem
    · rename_i other
      rcases List.mem_cons.mp mem with rfl | later
      · exact ⟨by simp, by simpa using other⟩
      · exact ⟨List.mem_cons_of_mem _ (ih later).1, (ih later).2⟩

end ApiTypes.Text
