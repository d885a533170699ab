import ApiTypes.Proofs.Letter
/-!
Camel case written in camel case again. It stays as it is exactly if it is all letters and digits and each of them is in
the case that its place asks for: upper case where a word begins, lower case elsewhere. The name of an operation is made of
two texts in camel case, and the words of both stay apart in it exactly then.
-/
namespace ApiTypes.Text

/-! ### Capitalized words -/

theorem sigma_moves : toLowercase 'Σ' ≠ ['Σ'] := by
  have high : isAscii 'Σ' = false := by decide
  rw [toLowercase, high, if_neg Bool.false_ne_true, lowerShifts, lowerExpansions, rows_of_list, rows_of_list]
  decide +kernel

theorem lower_tail_own {t u v : Text} (same : lowerTail t ++ u = t ++ v) :
    (∀ c ∈ t, toLowercase c = [c]) ∧ u = v := by
  induction t with
  | nil => exact ⟨by simp, same⟩
  | cons c t ih =>
    rw [lowerTail, List.append_assoc, List.cons_append] at same
    split at same
    · rename_i final
      simp only [Bool.and_eq_true, beq_iff_eq] at final
      simp only [List.cons_append, List.cons.injEq, final.1] at same
      exact absurd same.1 (by decide)
    · obtain ⟨own, rest⟩ := lowercase_own same
      obtain ⟨others, tail⟩ := ih rest
      exact ⟨List.forall_mem_cons.mpr ⟨own, others⟩, tail⟩

theorem lower_tail_kept {t : Text} (own : ∀ c ∈ t, toLowercase c = [c]) : lowerTail t = t := by
  induction t with
  | nil => rfl
  | cons c t ih =>
    obtain ⟨first, others⟩ := List.forall_mem_cons.mp own
    have notSigma : (c == 'Σ') = false := by
      refine beq_eq_false_iff_ne.mpr ?_
      rintro rfl
      exact sigma_moves first
    rw [lowerTail, notSigma, ih others, first]
    rfl

theorem capitalize_kept_iff (c : Char) (t : Text) :
    capitalize (c :: t) = c :: t ↔ toUppercase c = [c] ∧ ∀ d ∈ t, toLowercase d = [d] := by
  constructor
  · intro same
    obtain ⟨own, rest⟩ := uppercase_own same
    exact ⟨own, (lower_tail_own (congrArg (· ++ []) rest)).1⟩
  · rintro ⟨own, others⟩
    rw [capitalize, own, lower_tail_kept others]
    rfl

theorem capitalize_own {w t u : Text} (same : capitalize w ++ t = w ++ u) : capitalize w = w ∧ t = u := by
  cases w with
  | nil => exact ⟨rfl, same⟩
  | cons c w =>
    rw [capitalize, List.append_assoc, List.cons_append] at same
    obtain ⟨own, rest⟩ := uppercase_own same
    obtain ⟨others, tail⟩ := lower_tail_own rest
    exact ⟨(capitalize_kept_iff c w).mpr ⟨own, others⟩, tail⟩

theorem words_own {ws : List Text} {t u : Text} (same : ws.flatMap capitalize ++ t = ws.flatten ++ u) :
    (∀ w ∈ ws, capitalize w = w) ∧ t = u := by
  induction ws with
  | nil => exact ⟨by simp, same⟩
  | cons w ws ih =>
    rw [List.flatMap_cons, List.flatten_cons, List.append_assoc, List.append_assoc] at same
    obtain ⟨own, rest⟩ := capitalize_own same
    obtain ⟨others, tail⟩ := ih rest
    exact ⟨List.forall_mem_cons.mpr ⟨own, others⟩, tail⟩

/-! ### Texts of letters and digits -/

theorem words_from_flatten (w : WordCase) (word t : Text) : (wordsFrom w word t).flatten = word.reverse ++ t := by
  induction t generalizing w word with
  | nil =>
    rw [wordsFrom]
    split
    · simp_all
    · simp
  | cons c t ih =>
    rw [wordsFrom]
    split
    · rename_i last
      simp [List.head?_eq_none_iff.mp last]
    · split
      · simp [ih]
      · split <;> simp [ih]

theorem stretches_break {stretch t : Text} {m : Char} (letters : t.all isAlphanumeric = true)
    (mark : isAlphanumeric m = false) (u : Text) :
    stretchesFrom stretch (t ++ m :: u) = (stretch.reverse ++ t) :: stretchesFrom [] u := by
  induction t generalizing stretch with
  | nil => simp [stretchesFrom, mark]
  | cons c t ih =>
    simp only [List.all_cons, Bool.and_eq_true] at letters
    rw [List.cons_append, stretchesFrom, if_pos letters.1, ih letters.2]
    simp

theorem stretches_whole {stretch t : Text} (letters : t.all isAlphanumeric = true) :
    stretchesFrom stretch t = [stretch.reverse ++ t] := by
  induction t generalizing stretch with
  | nil => simp [stretchesFrom]
  | cons c t ih =>
    simp only [List.all_cons, Bool.and_eq_true] at letters
    rw [stretchesFrom, if_pos letters.1, ih letters.2]
    simp

theorem words_whole {t : Text} (letters : t.all isAlphanumeric = true) : words t = wordsFrom .none [] t := by
  simp [words, stretches_whole letters]

theorem words_break {t : Text} {m : Char} (letters : t.all isAlphanumeric = true) (mark : isAlphanumeric m = false)
    (u : Text) : words (t ++ m :: u) = wordsFrom .none [] t ++ words u := by
  simp [words, stretches_break letters mark]

theorem capitalized_letter {ws : List Text} (letters : ∀ w ∈ ws, w.all isAlphanumeric = true) {c : Char} {t : Text}
    (starts : ws.flatMap capitalize = c :: t) : isAlphanumeric c = true := by
  induction ws with
  | nil => simp at starts
  | cons w ws ih =>
    obtain ⟨first, others⟩ := List.forall_mem_cons.mp letters
    cases w with
    | nil => exact ih others starts
    | cons d w =>
      simp only [List.all_cons, Bool.and_eq_true] at first
      obtain ⟨e, u, upper, letter⟩ := uppercase_letter first.1
      rw [List.flatMap_cons, capitalize, upper, List.cons_append, List.cons_append, List.cons.injEq] at starts
      rwa [starts.1] at letter

theorem camel_drops_mark {t u : Text} {m : Char} (letters : t.all isAlphanumeric = true)
    (mark : isAlphanumeric m = false) : camel (t ++ m :: u) ≠ t ++ m :: u := by
  intro kept
  have same : (wordsFrom .none [] t).flatMap capitalize ++ camel u = (wordsFrom .none [] t).flatten ++ m :: u := by
    rw [words_from_flatten]
    rwa [camel, words_break letters mark, List.flatMap_append] at kept
  have letter := capitalized_letter (fun _ mem => letters_of_word mem) (words_own same).2
  rw [mark] at letter
  contradiction

theorem camel_kept_iff (t : Text) :
    camel t = t ↔ t.all isAlphanumeric = true ∧ ∀ w ∈ wordsFrom .none [] t, capitalize w = w := by
  have whole : (wordsFrom .none [] t).flatten = t := words_from_flatten .none [] t
  constructor
  · intro kept
    cases found : t.find? (fun c => !isAlphanumeric c) with
    | some m =>
      obtain ⟨mark, u, v, rfl, letters⟩ := List.find?_eq_some_iff_append.mp found
      exact absurd kept (camel_drops_mark (by simpa using letters) (by simpa using mark))
    | none =>
      have letters : t.all isAlphanumeric = true := by simpa using found
      rw [camel, words_whole letters] at kept
      have same : (wordsFrom .none [] t).flatMap capitalize ++ [] = (wordsFrom .none [] t).flatten ++ [] := by
        rw [kept, whole]
      exact ⟨letters, (words_own same).1⟩
  · rintro ⟨letters, own⟩
    rw [camel, words_whole letters, List.flatMap_def, List.map_congr_left own, List.map_id']
    exact whole

/-! ### Where words begin -/

/-- Whether a character after the first of a text begins a word, by the case of the last character before it that has
one, and by the character after it. -/
def beginsAfter (g : WordCase) (c : Char) (after : Text) : Bool :=
  isUppercase c && (g == .lower || g == .upper && after.head?.any isLowercase)

def cutWords (g : WordCase) (word : Text) : Text → List Text
  | [] => [word.reverse]
  | c :: t =>
    if beginsAfter g c t then word.reverse :: cutWords (g.after c) [c] t else cutWords (g.after c) (c :: word) t

/-- What the case of the last character of a word so far says of the text so far. A word that has just begun has forgotten
a case before it, which then makes no difference to the next character. -/
def Tracks (w g : WordCase) (t : Text) : Prop :=
  (w = g ∨ w = .none ∧ g = .upper ∧ t.head?.any isLowercase = true) ∧ (g = .lower → t.head?.any isUppercase = false)

theorem after_lower {g : WordCase} {c : Char} (lower : isLowercase c = true) : g.after c = .lower := by
  simp [WordCase.after, lower]

theorem after_upper {g : WordCase} {c : Char} (upper : isUppercase c = true) : g.after c = .upper := by
  simp [WordCase.after, upper, uppercase_not_lowercase upper]

def Starts (g : WordCase) (c : Char) : Prop := g = .none ∨ isUppercase c = true

theorem Starts.after {g : WordCase} {c : Char} (starts : Starts g c) : WordCase.none.after c = g.after c := by
  rcases starts with rfl | upper
  · rfl
  · rw [after_upper upper, after_upper upper]

theorem Tracks.after {w g : WordCase} {c : Char} {t : Text} (tracks : Tracks w g (c :: t)) : w.after c = g.after c := by
  obtain ⟨rfl | ⟨-, -, lower⟩, -⟩ := tracks
  · rfl
  · rw [after_lower (g := w) lower, after_lower lower]

theorem Tracks.begins {w g : WordCase} {c : Char} {t : Text} (tracks : Tracks w g (c :: t)) :
    beginsAfter g c t = (w == .upper && isUppercase c && t.head?.any isLowercase) := by
  cases upper : isUppercase c with
  | false => simp [beginsAfter, upper]
  | true =>
    have notLower : g ≠ .lower := by
      intro lower
      have := tracks.2 lower
      simp [upper] at this
    have same : w = g := by
      refine tracks.1.resolve_right ?_
      rintro ⟨-, -, lower⟩
      simp [uppercase_not_lowercase upper] at lower
    cases g <;> simp_all [beginsAfter]

/-- The words of a text are those between the places where words begin. This is said of a text whose first word has begun,
and of one where it has not. -/
theorem words_from_cut (t : Text) :
    (∀ w g word, word ≠ [] → Tracks w g t → wordsFrom w word t = cutWords g word t) ∧
    (∀ (g : WordCase) c u, t = c :: u → Starts g c → wordsFrom .none [] t = cutWords (g.after c) [c] u) := by
  induction t with
  | nil =>
    constructor
    · intro w g word begun tracks
      simp [wordsFrom, cutWords, begun]
    · simp
  | cons c t ih =>
    obtain ⟨going, fresh⟩ := ih
    have later (g : WordCase) (word : Text) (n : Char) (u : Text) (same : t = n :: u) (lower : g = .lower)
        (upper : isUppercase n = true) : word.reverse :: wordsFrom .none [] t = cutWords g word t := by
      have begins : beginsAfter g n u = true := by simp [beginsAfter, lower, upper]
      rw [fresh g n u same (Or.inr upper), same, cutWords, if_pos begins]
    constructor
    · intro w g word begun tracks
      have begins := tracks.begins
      rw [cutWords, wordsFrom]
      cases t with
      | nil => simp [begins, cutWords]
      | cons n t =>
        simp only [List.head?_cons, Option.any_some] at begins
        simp only [List.head?_cons, tracks.after]
        split
        · rename_i ends
          simp only [Bool.and_eq_true, beq_iff_eq] at ends
          rw [if_neg (by simp [begins, uppercase_not_lowercase ends.2])]
          exact later (g.after c) (c :: word) n t rfl ends.1 ends.2
        · rename_i stays
          simp only [Bool.and_eq_true, beq_iff_eq, not_and, Bool.not_eq_true] at stays
          rw [← begins]
          split
          · rename_i here
            simp only [begins, Bool.and_eq_true, beq_iff_eq] at here
            have upper : g.after c = .upper := after_upper here.1.2
            rw [going .none (g.after c) [c] (by simp) ⟨Or.inr ⟨rfl, upper, here.2⟩, stays⟩]
          · exact going (g.after c) (g.after c) (c :: word) (by simp) ⟨Or.inl rfl, stays⟩
    · rintro g d u same starts
      obtain ⟨rfl, rfl⟩ := List.cons.inj same
      rw [wordsFrom]
      cases t with
      | nil => simp [cutWords]
      | cons n t =>
        simp only [List.head?_cons, starts.after]
        split
        · rename_i ends
          simp only [Bool.and_eq_true, beq_iff_eq] at ends
          exact later (g.after c) [c] n t rfl ends.1 ends.2
        · rename_i stays
          simp only [Bool.and_eq_true, beq_iff_eq, not_and, Bool.not_eq_true] at stays
          exact going (g.after c) (g.after c) [c] (by simp) ⟨Or.inl rfl, stays⟩

/-! ### Characters in their case -/

/-- A character is its own upper case where a word begins, and its own lower case elsewhere. -/
def IsOwn (begins : Bool) (c : Char) : Prop := (if begins then toUppercase c else toLowercase c) = [c]

theorem own_upper_iff (c : Char) : IsOwn true c ↔ toUppercase c = [c] := by
  rw [IsOwn, if_pos rfl]

theorem own_lower_iff (c : Char) : IsOwn false c ↔ toLowercase c = [c] := by
  rw [IsOwn, if_neg Bool.false_ne_true]

def caseAfter (g : WordCase) (t : Text) : WordCase := t.foldl WordCase.after g

def GoesOn (g : WordCase) (t : Text) : Prop :=
  ∀ before c after, t = before ++ c :: after → IsOwn (beginsAfter (caseAfter g before) c after) c

theorem every_character_cons (p : Text → Char → Text → Prop) (c : Char) (t : Text) :
    (∀ before d after, c :: t = before ++ d :: after → p before d after) ↔
      p [] c t ∧ ∀ before d after, t = before ++ d :: after → p (c :: before) d after := by
  constructor
  · intro every
    refine ⟨every [] c t rfl, ?_⟩
    rintro before d after rfl
    exact every (c :: before) d after rfl
  · rintro ⟨first, others⟩ before d after same
    cases before with
    | nil =>
      obtain ⟨rfl, rfl⟩ := List.cons.inj same
      exact first
    | cons e before =>
      obtain ⟨rfl, rfl⟩ := List.cons.inj same
      exact others before d after rfl

theorem goes_on_cons (g : WordCase) (c : Char) (t : Text) :
    GoesOn g (c :: t) ↔ IsOwn (beginsAfter g c t) c ∧ GoesOn (g.after c) t :=
  every_character_cons _ c t

theorem capitalize_more_iff {word : Text} (begun : word ≠ []) (c : Char) :
    capitalize (word ++ [c]) = word ++ [c] ↔ capitalize word = word ∧ toLowercase c = [c] := by
  obtain ⟨d, rest, rfl⟩ := List.exists_cons_of_ne_nil begun
  rw [List.cons_append, capitalize_kept_iff, capitalize_kept_iff, List.forall_mem_append]
  simp [and_assoc]

theorem cut_kept_iff (g : WordCase) {word : Text} (begun : word ≠ []) (t : Text) :
    (∀ w ∈ cutWords g word t, capitalize w = w) ↔ capitalize word.reverse = word.reverse ∧ GoesOn g t := by
  induction t generalizing g word with
  | nil => simp [cutWords, GoesOn]
  | cons c t ih =>
    rw [cutWords, goes_on_cons]
    split
    · rename_i begins
      rw [List.forall_mem_cons, ih (g.after c) (by simp), List.reverse_singleton, capitalize_kept_iff]
      simp [begins, own_upper_iff]
    · rename_i stays
      rw [ih (g.after c) (by simp), List.reverse_cons, capitalize_more_iff (by simpa using begun)]
      simp [stays, own_lower_iff, and_assoc]

def beginsWord (before : Text) (c : Char) (after : Text) : Bool :=
  before.isEmpty || beginsAfter (caseAfter .none before) c after

def Steady (t : Text) : Prop := ∀ before c after, t = before ++ c :: after → IsOwn (beginsWord before c after) c

theorem steady_cons (c : Char) (t : Text) :
    Steady (c :: t) ↔ toUppercase c = [c] ∧ GoesOn (WordCase.none.after c) t := by
  rw [← own_upper_iff]
  exact every_character_cons _ c t

theorem camel_steady_iff (t : Text) : camel t = t ↔ t.all isAlphanumeric = true ∧ Steady t := by
  rw [camel_kept_iff]
  refine and_congr_right fun _ => ?_
  cases t with
  | nil => simp [wordsFrom, Steady]
  | cons c t =>
    rw [(words_from_cut (c :: t)).2 .none c t rfl (Or.inl rfl), cut_kept_iff _ (by simp), steady_cons,
      List.reverse_singleton, capitalize_kept_iff]
    simp

/-! ### Words of ASCII letters and digits -/

def Sturdy (w : Text) : Prop := w.all isAscii = true ∧ (w.drop 1).any Char.isAlpha = true

instance (w : Text) : Decidable (Sturdy w) := inferInstanceAs (Decidable (_ ∧ _))

set_option maxRecDepth 1000 in
theorem ascii_upper {c : Char} (ascii : isAscii c = true) :
    toUppercase c = [c.toUpper] ∧ toUppercase c.toUpper = [c.toUpper] ∧ IsOwn (isUppercase c.toUpper) c.toUpper := by
  have own := ascii_all (p := fun c => isAscii c.toUpper && c.toUpper.toUpper == c.toUpper &&
    (isUppercase c.toUpper || c.toUpper.toLower == c.toUpper)) (by decide) ascii
  simp only [Bool.and_eq_true, Bool.or_eq_true, beq_iff_eq] at own
  obtain ⟨⟨still, upper⟩, cased⟩ := own
  refine ⟨by simp [toUppercase, ascii], by simp [toUppercase, still, upper], ?_⟩
  cases capital : isUppercase c.toUpper with
  | true => simp [own_upper_iff, toUppercase, still, upper]
  | false => simpa [own_lower_iff, toLowercase, still, capital] using cased

set_option maxRecDepth 1000 in
theorem ascii_lower {c : Char} (ascii : isAscii c = true) :
    toLowercase c = [c.toLower] ∧ toLowercase c.toLower = [c.toLower] ∧ isUppercase c.toLower = false ∧
      (c.isAlpha = true → isLowercase c.toLower = true) := by
  have own := ascii_all (p := fun c => isAscii c.toLower && c.toLower.toLower == c.toLower && !isUppercase c.toLower &&
    (!c.isAlpha || isLowercase c.toLower)) (by decide) ascii
  simp only [Bool.and_eq_true, Bool.or_eq_true, beq_iff_eq, Bool.not_eq_true'] at own
  obtain ⟨⟨⟨still, lower⟩, small⟩, letter⟩ := own
  refine ⟨by simp [toLowercase, ascii], by simp [toLowercase, still, lower], small, ?_⟩
  intro alpha
  simpa [alpha] using letter

theorem lower_tail_ascii {t : Text} (ascii : t.all isAscii = true) : lowerTail t = t.map Char.toLower := by
  induction t with
  | nil => rfl
  | cons c t ih =>
    simp only [List.all_cons, Bool.and_eq_true] at ascii
    have notSigma : (c == 'Σ') = false := by
      refine beq_eq_false_iff_ne.mpr ?_
      rintro rfl
      exact absurd ascii.1 (by decide)
    rw [lowerTail, notSigma, ih ascii.2, (ascii_lower ascii.1).1]
    rfl

theorem goes_on_ascii {g : WordCase} {t u : Text} (ascii : t.all isAscii = true)
    (goes : GoesOn (caseAfter g (t.map Char.toLower)) u) : GoesOn g (t.map Char.toLower ++ u) := by
  induction t generalizing g with
  | nil => exact goes
  | cons c t ih =>
    simp only [List.all_cons, Bool.and_eq_true] at ascii
    obtain ⟨-, own, small, -⟩ := ascii_lower ascii.1
    rw [List.map_cons, List.cons_append, goes_on_cons]
    refine ⟨?_, ih ascii.2 goes⟩
    rw [beginsAfter, small, Bool.false_and, own_lower_iff]
    exact own

theorem case_after_letter {g : WordCase} {t : Text} (ascii : t.all isAscii = true)
    (letter : g = .lower ∨ t.any Char.isAlpha = true) : caseAfter g (t.map Char.toLower) = .lower := by
  induction t generalizing g with
  | nil => simpa [caseAfter] using letter
  | cons c t ih =>
    simp only [List.all_cons, Bool.and_eq_true] at ascii
    obtain ⟨-, -, small, lower⟩ := ascii_lower ascii.1
    refine ih ascii.2 ?_
    by_cases alpha : c.isAlpha = true
    · exact Or.inl (after_lower (lower alpha))
    · rcases letter with rfl | later
      · exact Or.inl (by simp [WordCase.after, small])
      · exact Or.inr (by simpa [alpha] using later)

theorem capitalize_ascii {c : Char} {t : Text} (ascii : (c :: t).all isAscii = true) :
    capitalize (c :: t) = c.toUpper :: t.map Char.toLower := by
  simp only [List.all_cons, Bool.and_eq_true] at ascii
  rw [capitalize, (ascii_upper ascii.1).1, lower_tail_ascii ascii.2]
  rfl

theorem sturdy_words_go_on {ws : List Text} (sturdy : ∀ w ∈ ws, Sturdy w) : GoesOn .lower (ws.flatMap capitalize) := by
  induction ws with
  | nil => simp [GoesOn]
  | cons w ws ih =>
    obtain ⟨⟨ascii, letter⟩, others⟩ := List.forall_mem_cons.mp sturdy
    cases w with
    | nil => simp at letter
    | cons c t =>
      rw [List.flatMap_cons, capitalize_ascii ascii, List.cons_append, goes_on_cons]
      simp only [List.all_cons, Bool.and_eq_true] at ascii
      constructor
      · simpa [beginsAfter] using (ascii_upper ascii.1).2.2
      · apply goes_on_ascii ascii.2
        rw [case_after_letter ascii.2 (Or.inr letter)]
        exact ih others

theorem sturdy_words_steady {ws : List Text} (sturdy : ∀ w ∈ ws, Sturdy w) : Steady (ws.flatMap capitalize) := by
  cases ws with
  | nil => simp [Steady]
  | cons w ws =>
    obtain ⟨⟨ascii, letter⟩, others⟩ := List.forall_mem_cons.mp sturdy
    cases w with
    | nil => simp at letter
    | cons c t =>
      rw [List.flatMap_cons, capitalize_ascii ascii, List.cons_append, steady_cons]
      simp only [List.all_cons, Bool.and_eq_true] at ascii
      refine ⟨(ascii_upper ascii.1).2.1, ?_⟩
      apply goes_on_ascii ascii.2
      rw [case_after_letter ascii.2 (Or.inr letter)]
      exact sturdy_words_go_on others

set_option maxRecDepth 1000 in
theorem ascii_letters {w : Text} (ascii : w.all isAscii = true) (letters : w.all isAlphanumeric = true) :
    (capitalize w).all isAlphanumeric = true := by
  have cased (c : Char) (low : isAscii c = true) (letter : isAlphanumeric c = true) :
      isAlphanumeric c.toUpper = true ∧ isAlphanumeric c.toLower = true := by
    have both := ascii_all (p := fun c => !isAlphanumeric c || isAlphanumeric c.toUpper && isAlphanumeric c.toLower)
      (by decide) low
    simpa [letter] using both
  cases w with
  | nil => rfl
  | cons c t =>
    rw [capitalize_ascii ascii]
    simp only [List.all_cons, Bool.and_eq_true, List.all_eq_true, List.all_map, Function.comp] at ascii letters ⊢
    exact ⟨(cased c ascii.1 letters.1).1, fun d mem => (cased d (ascii.2 d mem) (letters.2 d mem)).2⟩

end ApiTypes.Text

namespace ApiTypes.Naming

open Text (camel words isAlphanumeric Steady Sturdy)

/-! ### The default template -/

theorem replace_last {t : Text} (absent : '\x7b' ∉ t) (u : Text) :
    Text.replace operationToken u (t ++ operationToken) = t ++ u := by
  induction t with
  | nil => exact List.append_nil u
  | cons c t ih =>
    simp only [List.mem_cons, not_or] at absent
    have apart : ¬ operationToken <+: c :: (t ++ operationToken) := by
      have lead : operationToken = '\x7b' :: operationToken.tail := rfl
      rw [lead, List.cons_prefix_cons]
      exact fun leads => absent.1 leads.1
    rw [List.cons_append, Text.replace, Text.replace_other u apart, List.cons_append]
    exact congrArg (c :: ·) (ih absent.2)

theorem resolve_default (path operation : Text) (role : Role) :
    resolve defaultTemplate path operation role = camel (camel path ++ camel operation) ++ role.suffix := by
  have filled : Text.replace pathToken (camel path) defaultTemplate = camel path ++ operationToken := rfl
  have absent : '\x7b' ∉ camel path := by
    intro mem
    exact absurd (List.all_eq_true.mp (Text.camel_solid path) _ mem) (by decide)
  rw [resolve, filled, replace_last absent]

/-- The name of an operation is its two texts in camel case, written in camel case once more. This leaves them as they are
exactly if they are all letters and digits and each is in the case that its place asks for, as they are if each of their
words is ASCII and has a letter after its first character. -/
theorem default_name_keeps_words_iff (path operation : Text) (role : Role) :
    resolve defaultTemplate path operation role = camel (camel path ++ camel operation) ++ role.suffix ∧
    (resolve defaultTemplate path operation role = camel path ++ camel operation ++ role.suffix ↔
      (camel path ++ camel operation).all isAlphanumeric = true ∧ Steady (camel path ++ camel operation)) ∧
    ((∀ w ∈ words path ++ words operation, Sturdy w) →
      resolve defaultTemplate path operation role = camel path ++ camel operation ++ role.suffix) := by
  have kept : resolve defaultTemplate path operation role = camel path ++ camel operation ++ role.suffix ↔
      (camel path ++ camel operation).all isAlphanumeric = true ∧ Steady (camel path ++ camel operation) := by
    rw [resolve_default, List.append_left_inj, Text.camel_steady_iff]
  refine ⟨resolve_default path operation role, kept, ?_⟩
  intro sturdy
  have joined : camel path ++ camel operation = (words path ++ words operation).flatMap Text.capitalize := by
    rw [List.flatMap_append]
    rfl
  rw [kept, joined]
  refine ⟨?_, Text.sturdy_words_steady sturdy⟩
  rw [List.all_flatMap, List.all_eq_true]
  intro w mem
  have letters : w.all isAlphanumeric = true := by
    rcases List.mem_append.mp mem with inPath | inOperation
    · exact Text.letters_of_word inPath
    · exact Text.letters_of_word inOperation
  exact Text.ascii_letters (sturdy w mem).1 letters

theorem pet_toys_name_keeps_words :
    (∀ w ∈ words "get-pets-toys2".toList ++ words "listJSONToys".toList, Sturdy w) ∧
    resolve defaultTemplate "get-pets-toys2".toList "listJSONToys".toList .entity =
      "GetPetsToys2ListJsonToysEntity".toList := by
  have sturdy : ∀ w ∈ words "get-pets-toys2".toList ++ words "listJSONToys".toList, Sturdy w := by
    decide +kernel
  have kept := (default_name_keeps_words_iff "get-pets-toys2".toList "listJSONToys".toList .entity).2.2 sturdy
  exact ⟨sturdy, kept.trans (by decide)⟩

/-- Two words of one letter become one. -/
theorem one_letter_words_run_together :
    camel "get-x".toList ++ camel "y".toList ++ Role.entity.suffix = "GetXYEntity".toList ∧
    resolve defaultTemplate "get-x".toList "y".toList .entity = "GetXyEntity".toList := by
  decide +kernel

end ApiTypes.Naming
