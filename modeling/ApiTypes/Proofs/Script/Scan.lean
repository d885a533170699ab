import ApiTypes.Proofs.Comment
import ApiTypes.Proofs.Script.Token
/-!
What the pieces of declaration text scan to. A piece that ends in a word or a number needs something after it
that ends the word; a piece that scans freely does not.
-/
namespace ApiTypes.Script

def isStop (c : Char) : Bool := !isWordPart c && c != '.'

def Stops (rest : Text) : Prop := ∀ c ∈ rest.head?, isStop c = true

def Scans (t : Text) (tokens : List Token) : Prop :=
  ∀ rest, Stops rest → tokensFrom .between (t ++ rest) = (tokensFrom .between rest).map (tokens ++ ·)

def ScansFreely (t : Text) (tokens : List Token) : Prop :=
  ∀ rest, tokensFrom .between (t ++ rest) = (tokensFrom .between rest).map (tokens ++ ·)

theorem ScansFreely.scans {t : Text} {tokens : List Token} (free : ScansFreely t tokens) : Scans t tokens :=
  fun rest _ => free rest

theorem scans_nothing : ScansFreely [] [] := by
  intro rest
  simp

theorem map_tokens (us vs : List Token) (later : Option (List Token)) :
    (later.map (vs ++ ·)).map (us ++ ·) = later.map (us ++ vs ++ ·) := by
  rw [Option.map_map]
  congr 1
  funext tokens
  simp

theorem ScansFreely.append {s t : Text} {us vs : List Token} (left : ScansFreely s us) (right : ScansFreely t vs) :
    ScansFreely (s ++ t) (us ++ vs) := by
  intro rest
  rw [List.append_assoc, left, right, map_tokens]

theorem ScansFreely.append_word {s t : Text} {us vs : List Token} (left : ScansFreely s us) (right : Scans t vs) :
    Scans (s ++ t) (us ++ vs) := by
  intro rest stops
  rw [List.append_assoc, left, right rest stops, map_tokens]

theorem stops_append {t : Text} (stop : t.head?.any isStop = true) (rest : Text) : Stops (t ++ rest) := by
  cases t with
  | nil => simp at stop
  | cons c t =>
    intro d head
    simp only [List.cons_append, List.head?_cons, Option.mem_def, Option.some.injEq] at head
    rw [← head]
    simpa using stop

theorem Scans.append {s t : Text} {us vs : List Token} (left : Scans s us) (stop : t.head?.any isStop = true)
    (right : ScansFreely t vs) : ScansFreely (s ++ t) (us ++ vs) := by
  intro rest
  rw [List.append_assoc, left _ (stops_append stop rest), right, map_tokens]

theorem Scans.append_word {s t : Text} {us vs : List Token} (left : Scans s us) (stop : t.head?.any isStop = true)
    (right : Scans t vs) : Scans (s ++ t) (us ++ vs) := by
  intro rest stops
  rw [List.append_assoc, left _ (stops_append stop rest), right rest stops, map_tokens]

theorem Scans.tokens {t : Text} {tokens : List Token} (scans : Scans t tokens) : tokens? t = some tokens := by
  have run := scans [] (by simp [Stops])
  simpa [tokens?, tokensFrom, finish?] using run

/-! ### Steps -/

theorem step_on {mode next : Mode} {c : Char} {out : List Token} (step : step? mode c = some (next, out)) (rest : Text) :
    tokensFrom mode (c :: rest) = (tokensFrom next rest).map (out ++ ·) := by
  simp [tokensFrom, step]

theorem step_silently (next : Mode) {mode : Mode} {c : Char} (step : step? mode c = some (next, [])) (rest : Text) :
    tokensFrom mode (c :: rest) = tokensFrom next rest := by
  simp [tokensFrom, step]

/- A character that ends a token goes through `begin?`, as it does between tokens. -/
theorem step_flush {mode : Mode} {token : Token} {c : Char} (step : step? mode c = flush? token c) (rest : Text) :
    tokensFrom mode (c :: rest) = (tokensFrom .between (c :: rest)).map ([token] ++ ·) := by
  have between : step? .between c = begin? c := rfl
  simp only [tokensFrom, step, between, flush?]
  cases begin? c with
  | none => rfl
  | some next =>
    simp only [Option.map_some, Option.bind_some, Option.map_map]
    congr 1

/-! ### Blanks and marks -/

theorem blank_scans {c : Char} (blank : Json.isBlank c = true) : ScansFreely [c] [] := by
  intro rest
  exact step_on (by simp [step?, begin?, blank]) rest

theorem mark_not_blank {c : Char} (mark : isMark c = true) : Json.isBlank c = false := by
  simp only [isMark, List.contains_iff_mem, List.mem_cons, List.not_mem_nil, or_false] at mark
  rcases mark with h | h | h | h | h | h | h | h | h | h | h | h | h <;> subst h <;> rfl

theorem mark_scans {c : Char} (mark : isMark c = true) : ScansFreely [c] [.mark c] := by
  intro rest
  exact step_on (by simp [step?, begin?, mark_not_blank mark, mark]) rest

/-! ### Words -/

theorem word_run {run w rest : Text} (parts : w.all isWordPart = true) (stops : Stops rest) :
    tokensFrom (.word run) (w ++ rest) = (tokensFrom .between rest).map ([.word (run.reverse ++ w)] ++ ·) := by
  induction w generalizing run with
  | nil =>
    cases rest with
    | nil => simp [tokensFrom, finish?]
    | cons c rest =>
      have stop := stops c rfl
      simp only [isStop, Bool.and_eq_true, Bool.not_eq_true'] at stop
      rw [List.append_nil, List.nil_append]
      exact step_flush (by simp [step?, stop.1]) rest
  | cons c w ih =>
    simp only [List.all_cons, Bool.and_eq_true] at parts
    rw [List.cons_append, step_silently (.word (c :: run)) (by simp [step?, parts.1]), ih parts.2]
    simp

theorem word_start_plain {c : Char} (start : isWordStart c = true) : Json.isBlank c = false ∧ isMark c = false := by
  constructor
  · rw [← Bool.not_eq_true]
    intro blank
    simp only [Json.isBlank, Bool.or_eq_true, beq_iff_eq] at blank
    rcases blank with ((h | h) | h) | h <;> subst h <;> revert start <;> decide
  · rw [← Bool.not_eq_true]
    intro mark
    simp only [isMark, List.contains_iff_mem, List.mem_cons, List.not_mem_nil, or_false] at mark
    rcases mark with h | h | h | h | h | h | h | h | h | h | h | h | h <;> subst h <;> revert start <;> decide

theorem word_scans {w : Text} (name : isName w = true) : Scans w [.word w] := by
  intro rest stops
  cases w with
  | nil => simp [isName] at name
  | cons c w =>
    simp only [isName, Bool.and_eq_true] at name
    have plain := word_start_plain name.1
    rw [List.cons_append, step_silently (.word [c]) (by simp [step?, begin?, plain.1, plain.2, name.1]),
      word_run name.2 stops]
    rfl

/-! ### Quoted texts -/

theorem hex_digit_read : ∀ d < 16, Text.hexValue? (Text.digitChar d) = some d := by decide

theorem text_plain {c : Char} {read : Text} (notQuote : c ≠ '"') (notSlash : c ≠ '\\') (shown : ¬ c.toNat < 0x20) :
    step? (.text read) c = some (.text (c :: read), []) := by
  simp [step?, notQuote, notSlash, shown]

theorem escape_run (read rest : Text) (c : Char) :
    tokensFrom (.text read) (Json.escapeChar c ++ rest) = tokensFrom (.text (c :: read)) rest := by
  have begun : ∀ t, tokensFrom (.text read) ('\\' :: t) = tokensFrom (.escape read) t := step_silently _ rfl
  unfold Json.escapeChar
  split
  · rename_i quote
    rw [beq_iff_eq.mp quote]
    exact (begun _).trans (step_silently _ rfl rest)
  split
  · rename_i backslash
    rw [beq_iff_eq.mp backslash]
    exact (begun _).trans (step_silently _ rfl rest)
  split
  · rename_i control
    have same : c = Char.ofNat c.toNat := (Char.ofNat_toNat c).symm
    split
    iterate 5
      rename_i code
      rw [same, code]
      exact (begun _).trans (step_silently _ rfl rest)
    · have high := hex_digit_read (c.toNat / 16) (by omega)
      have low := hex_digit_read (c.toNat % 16) (by omega)
      have value : c.toNat / 16 * 16 + c.toNat % 16 = c.toNat := by omega
      refine (begun _).trans ?_
      refine (step_silently (.code read 4 0) rfl _).trans ?_
      refine (step_silently (.code read 3 0) rfl _).trans ?_
      refine (step_silently (.code read 2 0) rfl _).trans ?_
      refine (step_silently (.code read 1 (c.toNat / 16)) (by simp [step?, high]) _).trans ?_
      exact step_silently _ (by simp [step?, low, value, ← same]) rest
  · rename_i notQuote notSlash shown
    exact step_silently _ (text_plain (by simpa using notQuote) (by simpa using notSlash) shown) rest

theorem quote_run (read t rest : Text) :
    tokensFrom (.text read) (t.flatMap Json.escapeChar ++ '"' :: rest) =
      (tokensFrom .between rest).map ([.text (read.reverse ++ t)] ++ ·) := by
  induction t generalizing read with
  | nil =>
    rw [List.append_nil]
    exact step_on rfl rest
  | cons c t ih =>
    rw [List.flatMap_cons, List.append_assoc, escape_run, ih]
    simp

theorem quote_scans (t : Text) : ScansFreely (Json.quote t) [.text t] := by
  intro rest
  have shape : Json.quote t ++ rest = '"' :: (t.flatMap Json.escapeChar ++ '"' :: rest) := by simp [Json.quote]
  rw [shape, step_silently (.text []) rfl, quote_run]
  rfl

/-! ### Comments -/

/- The mark that ends the comment may begin before the character, which is what `star` tells. -/
theorem comment_step {star : Bool} {c : Char} {t : Text} (unclosed : ¬ Comment.close <:+: c :: t)
    (seam : star = true → c ≠ '/') :
    step? (.comment star) c = some (.comment (c == '*'), []) ∧ ¬ Comment.close <:+: t ∧
      ((c == '*') = true → t.head? ≠ some '/') := by
  refine ⟨?_, fun inside => unclosed (List.infix_cons_iff.mpr (Or.inr inside)), ?_⟩
  · have goesOn : (star && c == '/') = false := by
      cases star with
      | false => rfl
      | true => simpa using seam rfl
    simp [step?, goesOn]
  · intro isStar slash
    apply unclosed
    cases t with
    | nil => simp at slash
    | cons d t =>
      simp only [beq_iff_eq, List.head?_cons, Option.some.injEq] at isStar slash
      rw [isStar, slash]
      exact (List.prefix_append Comment.close t).isInfix

theorem comment_run {star : Bool} {t : Text} (unclosed : ¬ Comment.close <:+: t)
    (seam : star = true → t.head? ≠ some '/') (rest : Text) :
    tokensFrom (.comment star) (t ++ '\n' :: rest) = tokensFrom (.comment false) rest := by
  induction t generalizing star with
  | nil => exact step_silently _ (by simp [step?]) rest
  | cons c t ih =>
    obtain ⟨step, unclosed', seam'⟩ := comment_step unclosed (by simpa using seam)
    rw [List.cons_append, step_silently _ step]
    exact ih unclosed' seam'

/-- A block comment is skipped whatever its text is. -/
theorem block_scans (t : Text) : ScansFreely (Comment.block t) [] := by
  intro rest
  have inner : ∀ rest, tokensFrom (.comment false) ((Comment.lines t).flatMap Comment.line ++ rest) =
      tokensFrom (.comment false) rest := by
    refine Comment.inner_rows
      (motive := fun u => ∀ rest, tokensFrom (.comment false) (u ++ rest) = tokensFrom (.comment false) rest) t
      (fun _ => rfl) ?_ ?_
    · intro s u first later rest
      rw [List.append_assoc, first, later]
    · intro row inside rest
      rw [List.append_assoc, List.singleton_append, comment_run inside.unclosed (by simp)]
  have shape : Comment.block t ++ rest =
      '/' :: '*' :: '*' :: '\n' :: ((Comment.lines t).flatMap Comment.line ++ ' ' :: '*' :: '/' :: '\n' :: rest) := by
    simp [Comment.block]
  rw [shape, step_silently .slash rfl, step_silently (.comment false) rfl,
    step_silently (.comment true) rfl, step_silently (.comment false) rfl, inner,
    step_silently (.comment false) rfl, step_silently (.comment true) rfl,
    step_silently .between rfl]
  exact blank_scans rfl rest

end ApiTypes.Script
