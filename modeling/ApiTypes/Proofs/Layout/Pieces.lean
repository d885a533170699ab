import ApiTypes.Declaration.Table
import ApiTypes.Declaration.Record
import ApiTypes.Proofs.Comment
import ApiTypes.Proofs.Layout.Level
/-!
Pieces of text that the layout accepts wherever they stand. A balanced piece starts and ends inside a line of code
at the same depth, with any number of lines between; whole lines start and end where a line does. Literals and
comments are accepted with any text in them.
-/
namespace ApiTypes.Layout

/-- A place in a text: the level before its line, and what stands before it on the line, in reverse. -/
structure Spot where
  level : Level
  pending : Text

def Spot.rest? (s : Spot) (t : Text) : Option Level := s.level.through? (Text.linesFrom s.pending t)

/-- Reading `t` leads from one place to another, whatever comes after. -/
def Runs (a : Spot) (t : Text) (b : Spot) : Prop := ∀ rest, a.rest? (t ++ rest) = b.rest? rest

theorem Runs.refl (a : Spot) : Runs a [] a := fun _ => rfl

theorem Runs.trans {a b c : Spot} {t u : Text} (first : Runs a t b) (second : Runs b u c) : Runs a (t ++ u) c := by
  intro rest
  rw [List.append_assoc, first, second]

def Spot.start (depth : Nat) : Spot := ⟨⟨depth, false⟩, []⟩

theorem piece_runs {t : Text} (single : '\n' ∉ t) (l : Level) (pending : Text) :
    Runs ⟨l, pending⟩ t ⟨l, t.reverse ++ pending⟩ := by
  induction t generalizing pending with
  | nil => exact Runs.refl _
  | cons c t ih =>
    simp only [List.mem_cons, not_or] at single
    have other : (c == '\n') = false := by simpa using Ne.symm single.1
    intro rest
    have later := ih single.2 (c :: pending) rest
    simpa [Spot.rest?, Text.linesFrom, other] using later

theorem feed_runs {l l' : Level} {pending : Text} (after : l.after? (Text.dropReturn pending.reverse) = some l') :
    Runs ⟨l, pending⟩ ['\n'] ⟨l', []⟩ := by
  intro rest
  simp [Spot.rest?, Text.linesFrom, Level.through?, after]

theorem line_runs {l l' : Level} {t : Text} (single : '\n' ∉ t) (after : l.after? (Text.dropReturn t) = some l') :
    Runs ⟨l, []⟩ (t ++ ['\n']) ⟨l', []⟩ := by
  have inside := piece_runs single l []
  rw [List.append_nil] at inside
  exact inside.trans (feed_runs (by rw [List.reverse_reverse]; exact after))

/-! ### Blanks at the end of a line -/

def structural : List Char := ['{', '[', '(', '}', ']', ')', '"', '\'', '\x60']

/- A class of characters is compared with this short list, where it can be evaluated. -/
theorem not_structural {p : Char → Bool} (apart : structural.all (!p ·) = true) {c : Char} (holds : p c = true) :
    isQuote c = false ∧ isOpening c = false ∧ isClosing c = false := by
  have out : c ∉ structural := by
    intro mem
    have fails := List.all_eq_true.mp apart c mem
    simp [holds] at fails
  simp only [structural, List.mem_cons, List.not_mem_nil, or_false, not_or] at out
  simp [isQuote, isOpening, isClosing, out]

theorem blank_not_structural {c : Char} (blank : Text.isBlank c = true) :
    isQuote c = false ∧ isOpening c = false ∧ isClosing c = false :=
  not_structural (by decide) blank

def Inside.Marked (s : Inside) : Prop := ∀ q, s.quote = some q → isQuote q.mark = true

theorem next_mark {q q' : Quote} {c : Char} (next : q.next c = some q') : q'.mark = q.mark := by
  unfold Quote.next at next
  split at next
  · cases next
    rfl
  · split at next
    · cases next
      rfl
    · split at next
      · simp at next
      · cases next
        rfl

theorem step_marked {s s' : Inside} {c : Char} (marked : s.Marked) (step : s.step? c = some s') : s'.Marked := by
  obtain ⟨depth, quote⟩ := s
  intro q open_
  cases quote with
  | some q₀ =>
    simp only [Inside.step?, Option.some.injEq] at step
    subst s'
    rw [next_mark open_]
    exact marked q₀ rfl
  | none =>
    rcases step_cases step with ⟨isQuote, rfl⟩ | ⟨-, -, rfl⟩ | ⟨-, -, -, -, rfl⟩ | ⟨-, -, -, rfl⟩
    · cases open_
      exact isQuote
    all_goals simp at open_

theorem run_marked {s s' : Inside} {t : Text} (marked : s.Marked) (run : s.run? t = some s') : s'.Marked := by
  induction t generalizing s with
  | nil =>
    cases run
    exact marked
  | cons c t ih =>
    simp only [Inside.run?, Option.bind_eq_some_iff] at run
    obtain ⟨next, step, later⟩ := run
    exact ih (step_marked marked step) later

/- Blanks neither close a literal nor count as brackets, so nothing has happened in them. -/
theorem blanks_run {s : Inside} {blanks : Text} {depth : Nat} (marked : s.Marked) (blank : blanks.all Text.isBlank = true)
    (run : s.run? blanks = some ⟨depth, none⟩) : s = ⟨depth, none⟩ := by
  induction blanks generalizing s with
  | nil => exact Option.some.inj run
  | cons c blanks ih =>
    simp only [List.all_cons, Bool.and_eq_true] at blank
    obtain ⟨notQuote, notOpening, notClosing⟩ := blank_not_structural blank.1
    have notSlash : c ≠ '\\' := by
      rintro rfl
      exact absurd blank.1 (by decide)
    simp only [Inside.run?, Option.bind_eq_some_iff] at run
    obtain ⟨next, step, later⟩ := run
    have closed := ih (step_marked marked step) blank.2 later
    obtain ⟨depth', quote⟩ := s
    cases quote with
    | none =>
      simp only [Inside.step?, notQuote, notOpening, notClosing, Bool.false_eq_true, if_false, Option.some.injEq] at step
      rw [step, closed]
    | some q =>
      have notMark : c ≠ q.mark := by
        intro same
        have isQuote := marked q rfl
        rw [← same, notQuote] at isQuote
        simp at isQuote
      simp only [Inside.step?, Option.some.injEq] at step
      rw [← step] at closed
      simp only [Inside.mk.injEq, Quote.next, beq_eq_false_iff_ne.mpr notSlash, beq_eq_false_iff_ne.mpr notMark,
        Bool.false_eq_true, if_false] at closed
      split at closed <;> simp at closed

theorem run_trim_end {depth depth' : Nat} {t : Text} (run : Inside.run? ⟨depth, none⟩ t = some ⟨depth', none⟩) :
    Inside.run? ⟨depth, none⟩ (Text.trimEnd t) = some ⟨depth', none⟩ := by
  obtain ⟨blanks, split, blank⟩ := Text.trim_end_split t
  rw [split, run_append, Option.bind_eq_some_iff] at run
  obtain ⟨s, kept, later⟩ := run
  have marked : s.Marked := run_marked (by simp [Inside.Marked]) kept
  rw [kept, blanks_run marked blank later]

/-! ### Inside a line of code -/

/-- Inside a line of code, outside literals, at a depth; the line does not start like a comment. -/
structure Within (depth : Nat) (s : Spot) : Prop where
  code : s.level.inComment = false
  shown : ∃ c t, s.pending.reverse = c :: t ∧ Text.isBlank c = false ∧ c ≠ '/'
  scanned : Inside.run? ⟨s.level.depth, none⟩ s.pending.reverse = some ⟨depth, none⟩

theorem Within.feed {depth : Nat} {s : Spot} (within : Within depth s) : Runs s ['\n'] (.start depth) := by
  obtain ⟨⟨depth₀, inComment⟩, pending⟩ := s
  obtain ⟨code, ⟨c, t, line, shown, notSlash⟩, scanned⟩ := within
  simp only at code line scanned
  subst inComment
  obtain ⟨u, trimmed⟩ := Text.trim_end_shown (t := t) shown
  have notComment : Text.startsWith (c :: u) "/*".toList = false := by
    rw [← Bool.not_eq_true, Text.starts_with_iff]
    intro lead
    exact notSlash (List.cons_prefix_cons.mp lead).1.symm
  have run := run_trim_end scanned
  rw [line, trimmed] at run
  -- The first character is shown, so trimming takes away only what is at the end.
  have whole : Text.trim (Text.dropReturn pending.reverse) = c :: u := by
    rw [Text.trim_drop_return, line, Text.trim, Text.trim_start_shown shown, trimmed]
  apply feed_runs
  simp only [Level.after?, whole, notComment, List.isEmpty_cons, Bool.or_self, Bool.false_eq_true, if_false]
  exact after_code_run run

def Code (depth : Nat) (t : Text) (depth' : Nat) : Prop :=
  ∀ s, Within depth s → ∃ s', Within depth' s' ∧ Runs s t s'

def Begins (depth : Nat) (t : Text) (depth' : Nat) : Prop :=
  ∃ s, Within depth' s ∧ Runs (.start depth) t s

theorem Code.append {a b c : Nat} {t u : Text} (first : Code a t b) (second : Code b u c) : Code a (t ++ u) c := by
  intro s within
  obtain ⟨s₁, within₁, runs₁⟩ := first s within
  obtain ⟨s₂, within₂, runs₂⟩ := second s₁ within₁
  exact ⟨s₂, within₂, runs₁.trans runs₂⟩

theorem Begins.append {a b c : Nat} {t u : Text} (first : Begins a t b) (second : Code b u c) : Begins a (t ++ u) c := by
  obtain ⟨s₁, within₁, runs₁⟩ := first
  obtain ⟨s₂, within₂, runs₂⟩ := second s₁ within₁
  exact ⟨s₂, within₂, runs₁.trans runs₂⟩

theorem Begins.feed {a b : Nat} {t : Text} (begins : Begins a t b) : Runs (.start a) (t ++ ['\n']) (.start b) := by
  obtain ⟨s, within, runs⟩ := begins
  exact runs.trans within.feed

theorem code_piece {a b : Nat} {t : Text} (single : '\n' ∉ t) (run : Inside.run? ⟨a, none⟩ t = some ⟨b, none⟩) :
    Code a t b := by
  rintro ⟨l, pending⟩ ⟨code, ⟨c, u, line, shown, notSlash⟩, scanned⟩
  refine ⟨⟨l, t.reverse ++ pending⟩, ⟨code, ⟨c, u ++ t, ?_, shown, notSlash⟩, ?_⟩, piece_runs single l pending⟩
  · simp only at line
    simp [line]
  · simp only at scanned
    rw [List.reverse_append, List.reverse_reverse, run_append, scanned]
    exact run

theorem begins_piece {a b : Nat} {c : Char} {t : Text} (shown : Text.isBlank c = false) (notSlash : c ≠ '/')
    (single : '\n' ∉ c :: t) (run : Inside.run? ⟨a, none⟩ (c :: t) = some ⟨b, none⟩) : Begins a (c :: t) b := by
  have runs := piece_runs single ⟨a, false⟩ []
  refine ⟨_, ⟨rfl, ⟨c, t, ?_, shown, notSlash⟩, ?_⟩, runs⟩
  · simp
  · simpa using run

/-! ### Balanced pieces and whole lines -/

def Balanced (t : Text) : Prop := ∀ depth, Code depth t depth

def Whole (t : Text) : Prop := ∀ depth, Runs (.start depth) t (.start depth)

theorem Balanced.append {t u : Text} (first : Balanced t) (second : Balanced u) : Balanced (t ++ u) :=
  fun depth => (first depth).append (second depth)

theorem Whole.append {t u : Text} (first : Whole t) (second : Whole u) : Whole (t ++ u) :=
  fun depth => (first depth).trans (second depth)

theorem whole_nothing : Whole [] := fun depth => Runs.refl (.start depth)

theorem whole_flatten {ts : List Text} (each : ∀ t ∈ ts, Whole t) : Whole ts.flatten := by
  induction ts with
  | nil => exact whole_nothing
  | cons t ts ih =>
    rw [List.flatten_cons]
    exact (each t (by simp)).append (ih fun u mem => each u (by simp [mem]))

theorem blank_line_whole : Whole ['\n'] := by
  intro depth
  exact feed_runs rfl

theorem whole_join {ts : List Text} (each : ∀ t ∈ ts, Whole t) : Whole (Text.joinWith ['\n'] ts) := by
  induction ts with
  | nil => exact whole_nothing
  | cons t ts ih =>
    cases ts with
    | nil => exact each t (by simp)
    | cons u ts =>
      rw [Text.joinWith]
      exact ((each t (by simp)).append blank_line_whole).append (ih fun v mem => each v (by simp [mem]))

/-- Whole lines are accepted with any indentation. -/
theorem Whole.accepted {t : Text} (whole : Whole t) (width : Nat) : ∃ out, format width t = .ok out := by
  rw [format_ok_iff]
  have run := whole 0 []
  simpa [Spot.rest?, Spot.start, Text.lines, Text.linesFrom, Level.through?, Level.top] using run

/-! ### Plain text and literals -/

def isPlain (c : Char) : Bool := !isOpening c && !isClosing c && !isQuote c && c != '\n'

def Plain (t : Text) : Prop := t.all isPlain = true

instance (t : Text) : Decidable (Plain t) := inferInstanceAs (Decidable (_ = true))

theorem plain_of {p : Char → Bool} (apart : structural.all (!p ·) = true) (noFeed : p '\n' = false) {c : Char}
    (holds : p c = true) : isPlain c = true := by
  obtain ⟨notQuote, notOpening, notClosing⟩ := not_structural apart holds
  have notFeed : c ≠ '\n' := by
    rintro rfl
    rw [noFeed] at holds
    simp at holds
  simp [isPlain, notQuote, notOpening, notClosing, notFeed]

theorem Plain.append {t u : Text} (first : Plain t) (second : Plain u) : Plain (t ++ u) := by
  simp only [Plain, List.all_append, Bool.and_eq_true]
  exact ⟨first, second⟩

theorem plain_single {t : Text} (plain : Plain t) : '\n' ∉ t := by
  intro feed
  have := List.all_eq_true.mp plain '\n' feed
  revert this
  decide

theorem plain_run {t : Text} (plain : Plain t) (depth : Nat) :
    Inside.run? ⟨depth, none⟩ t = some ⟨depth, none⟩ := by
  induction t with
  | nil => rfl
  | cons c t ih =>
    simp only [Plain, List.all_cons, Bool.and_eq_true] at plain
    obtain ⟨first, later⟩ := plain
    simp only [isPlain, Bool.and_eq_true, Bool.not_eq_true'] at first
    obtain ⟨⟨⟨notOpening, notClosing⟩, notQuote⟩, -⟩ := first
    simp only [Inside.run?, Inside.step?, notOpening, notClosing, notQuote, Bool.false_eq_true, if_false, Option.bind_some]
    exact ih later

theorem plain_balanced {t : Text} (plain : Plain t) : Balanced t :=
  fun depth => code_piece (plain_single plain) (plain_run plain depth)

def literal (depth : Nat) : Inside := ⟨depth, some ⟨'"', false⟩⟩

theorem literal_step {c : Char} (notQuote : c ≠ '"') (notSlash : c ≠ '\\') (depth : Nat) :
    (literal depth).step? c = some (literal depth) := by
  simp [literal, Inside.step?, Quote.next, notQuote, notSlash]

theorem hex_digit_plain : ∀ d < 16, Text.digitChar d ≠ '"' ∧ Text.digitChar d ≠ '\\' ∧ Text.digitChar d ≠ '\n' := by
  decide

theorem escaped_parts {motive : Text → Prop} (t : Text) (nothing : motive [])
    (append : ∀ {u v}, motive u → motive v → motive (u ++ v))
    (own : ∀ {c : Char}, c ≠ '"' → c ≠ '\\' → c ≠ '\n' → motive [c])
    (marked : ∀ {c : Char}, c ≠ '\n' → motive ['\\', c]) : motive (t.flatMap Json.escapeChar) := by
  have each (c : Char) : motive (Json.escapeChar c) := by
    unfold Json.escapeChar
    split
    · exact marked (by decide)
    split
    · exact marked (by decide)
    split
    · rename_i control
      split
      iterate 5 exact marked (by decide)
      · obtain ⟨highQuote, highSlash, highFeed⟩ := hex_digit_plain (c.toNat / 16) (by omega)
        obtain ⟨lowQuote, lowSlash, lowFeed⟩ := hex_digit_plain (c.toNat % 16) (by omega)
        have zero : motive ['0'] := own (by decide) (by decide) (by decide)
        have digits := append (own highQuote highSlash highFeed) (own lowQuote lowSlash lowFeed)
        exact append (marked (c := 'u') (by decide)) (append zero (append zero digits))
    · rename_i notQuote notSlash shown
      refine own (by simpa using notQuote) (by simpa using notSlash) ?_
      rintro rfl
      exact shown (by decide)
  induction t with
  | nil => exact nothing
  | cons c t ih =>
    rw [List.flatMap_cons]
    exact append (each c) ih

/-- No character, escaped as it is, ends the literal or the line. -/
theorem escapes_stay (depth : Nat) (t : Text) :
    (literal depth).run? (t.flatMap Json.escapeChar) = some (literal depth) ∧ '\n' ∉ t.flatMap Json.escapeChar := by
  apply escaped_parts (motive := fun u => (literal depth).run? u = some (literal depth) ∧ '\n' ∉ u) t
  · exact ⟨rfl, by simp⟩
  · rintro u v ⟨firstRun, firstSingle⟩ ⟨secondRun, secondSingle⟩
    rw [run_append, firstRun]
    exact ⟨secondRun, by simp [firstSingle, secondSingle]⟩
  · intro c notQuote notSlash notFeed
    exact ⟨by simp [Inside.run?, literal_step notQuote notSlash], by simpa using notFeed.symm⟩
  · intro c notFeed
    exact ⟨rfl, by simpa using notFeed.symm⟩

theorem quote_run (depth : Nat) (t : Text) : Inside.run? ⟨depth, none⟩ (Json.quote t) = some ⟨depth, none⟩ := by
  change (literal depth).run? (t.flatMap Json.escapeChar ++ ['"']) = _
  rw [run_append, (escapes_stay depth t).1]
  rfl

theorem quote_single (t : Text) : '\n' ∉ Json.quote t := by
  simpa [Json.quote] using (escapes_stay 0 t).2

theorem quote_balanced (t : Text) : Balanced (Json.quote t) :=
  fun depth => code_piece (quote_single t) (quote_run depth t)

/-! ### Brackets -/

theorem open_brace (depth : Nat) : Code depth ['{'] (depth + 1) := code_piece (by decide) rfl

theorem parenthesized_balanced {t : Text} (balanced : Balanced t) : Balanced (['('] ++ t ++ [')']) := by
  intro depth
  have opening : Code depth ['('] (depth + 1) := code_piece (by decide) rfl
  have closing : Code (depth + 1) [')'] depth := code_piece (by decide) rfl
  exact (opening.append (balanced (depth + 1))).append closing

theorem braces_balanced {t : Text} (whole : Whole t) : Balanced (['{', '\n'] ++ t ++ ['}']) := by
  intro depth s within
  obtain ⟨s₁, within₁, runs₁⟩ := open_brace depth s within
  have closing : Begins (depth + 1) ['}'] depth := begins_piece (by decide) (by decide) (by decide) rfl
  obtain ⟨s₂, within₂, runs₂⟩ := closing
  refine ⟨s₂, within₂, ?_⟩
  have opened : Runs s ['{', '\n'] (.start (depth + 1)) := runs₁.trans within₁.feed
  exact (opened.trans (whole (depth + 1))).trans runs₂

/-! ### Comments -/

theorem comment_line_stays {y : Text} (depth : Nat) (single : '\n' ∉ y) (unclosed : ¬ Comment.close <:+: y) :
    Runs ⟨⟨depth, true⟩, []⟩ (y ++ ['\n']) ⟨⟨depth, true⟩, []⟩ := by
  apply line_runs single
  have inside : Text.trim (Text.dropReturn y) <:+: y :=
    (Text.trim_infix _).trans (Text.drop_return_leads y).isInfix
  have goesOn : Text.includes "*/".toList (Text.trim (Text.dropReturn y)) = false := by
    rw [Text.not_includes_iff]
    exact fun mark => unclosed (mark.trans inside)
  simp only [Level.after?, Level.afterComment, goesOn, Bool.true_or, if_true, Bool.not_false]
  split <;> rfl

/-- A block comment is accepted whatever its text is. -/
theorem comment_whole (t : Text) : Whole (Comment.block t) := by
  intro depth
  have opening : Runs (.start depth) "/**\n".toList ⟨⟨depth, true⟩, []⟩ :=
    line_runs (t := "/**".toList) (by decide) rfl
  have closing : Runs ⟨⟨depth, true⟩, []⟩ " */\n".toList (.start depth) :=
    line_runs (t := " */".toList) (by decide) rfl
  have inner : Runs ⟨⟨depth, true⟩, []⟩ ((Comment.lines t).flatMap Comment.line) ⟨⟨depth, true⟩, []⟩ :=
    Comment.inner_rows (motive := fun u => Runs ⟨⟨depth, true⟩, []⟩ u ⟨⟨depth, true⟩, []⟩) t (Runs.refl _) Runs.trans
      fun inside => comment_line_stays depth inside.single inside.unclosed
  exact (opening.trans inner).trans closing

theorem lead_whole (t : Option Text) : Whole (Comment.lead t) := by
  unfold Comment.lead
  split
  · exact whole_nothing
  · split
    · exact whole_nothing
    · exact comment_whole _

/-! ### Records and declarations -/

theorem identifier_start_ascii {c : Char} (start : Record.isIdentifierStart c = true) : c.toNat < 0x80 := by
  simp only [Record.isIdentifierStart, Bool.or_eq_true, Bool.and_eq_true, decide_eq_true_eq, beq_iff_eq] at start
  rcases start with ((⟨-, upTo⟩ | ⟨-, upTo⟩) | rfl) | rfl
  · exact Nat.lt_of_le_of_lt upTo (by decide)
  · exact Nat.lt_of_le_of_lt upTo (by decide)
  · decide
  · decide

theorem identifier_start_shown {c : Char} (start : Record.isIdentifierStart c = true) :
    Text.isBlank c = false ∧ c ≠ '/' := by
  constructor
  · have apart : ∀ n < 0x80, Record.isIdentifierStart (Char.ofNat n) = true → Text.isBlank (Char.ofNat n) = false := by
      decide
    have shown := apart c.toNat (identifier_start_ascii start)
    rw [Char.ofNat_toNat] at shown
    exact shown start
  · rintro rfl
    exact absurd start (by decide)

theorem identifier_parts {name : Text} (identifier : Record.isIdentifier name = true) :
    ∃ c rest, name = c :: rest ∧ Record.isIdentifierStart c = true ∧ ∀ d ∈ name, Record.isIdentifierPart d = true := by
  cases name with
  | nil => simp [Record.isIdentifier] at identifier
  | cons c rest =>
    simp only [Record.isIdentifier, Bool.and_eq_true, List.all_eq_true] at identifier
    have first : Record.isIdentifierPart c = true := by rw [Record.isIdentifierPart, identifier.1, Bool.true_or]
    exact ⟨c, rest, rfl, identifier.1, List.forall_mem_cons.mpr ⟨first, identifier.2⟩⟩

theorem identifier_plain {name : Text} (identifier : Record.isIdentifier name = true) : Plain name := by
  obtain ⟨-, -, -, -, parts⟩ := identifier_parts identifier
  exact List.all_eq_true.mpr fun d mem => plain_of (by decide) (by decide) (parts d mem)

theorem key_begins (name : Text) (depth : Nat) : Begins depth (Record.key name) depth := by
  unfold Record.key
  split
  · rename_i identifier
    have whole := identifier_plain identifier
    obtain ⟨c, rest, rfl, start, -⟩ := identifier_parts identifier
    obtain ⟨shown, notSlash⟩ := identifier_start_shown start
    exact begins_piece shown notSlash (plain_single whole) (plain_run whole depth)
  · exact begins_piece (by decide) (by decide) (quote_single name) (quote_run depth name)

theorem member_whole {type : Text} (balanced : Balanced type) (name : Text) (required : Bool) (comment : Option Text) :
    Whole (Record.member name type required comment) := by
  intro depth
  have mark : Balanced (if required then [] else ['?']) := by
    cases required <;> exact plain_balanced (by decide)
  have colon : Balanced ": ".toList := plain_balanced (by decide)
  have semicolon : Balanced [';'] := plain_balanced (by decide)
  have code := ((((key_begins name depth).append (mark depth)).append (colon depth)).append (balanced depth)).append
    (semicolon depth)
  have runs := (lead_whole comment depth).trans code.feed
  simpa [Record.member] using runs

theorem body_balanced {members : List Text} (each : ∀ m ∈ members, Whole m) : Balanced (Record.body members) := by
  unfold Record.body
  split
  · intro depth
    have closing : Code (depth + 1) ['}'] depth := code_piece (by decide) rfl
    exact (open_brace depth).append closing
  · exact braces_balanced (whole_flatten each)

/-- A declaration with a plain name and a balanced body is made of whole lines. -/
theorem render_whole {d : Declaration} (name : Plain d.name) (body : Balanced d.body) : Whole d.render := by
  intro depth
  have comment : Whole ((d.comment.map Comment.block).getD []) := by
    cases d.comment with
    | none => exact whole_nothing
    | some t => exact comment_whole t
  have named := plain_balanced name
  have blank : Balanced [' '] := plain_balanced (by decide)
  have equals : Balanced " = ".toList := plain_balanced (by decide)
  have semicolon : Balanced [';'] := plain_balanced (by decide)
  have word : ∀ w : Text, Plain ('e' :: w) → Begins depth ('e' :: w) depth := fun w plain =>
    begins_piece (by decide) (by decide) (plain_single plain) (plain_run plain depth)
  unfold Declaration.render
  split
  · have code := (((word "xport interface ".toList (by decide)).append (named depth)).append (blank depth)).append
      (body depth)
    simpa using (comment depth).trans code.feed
  · have code := ((((word "xport type ".toList (by decide)).append (named depth)).append (equals depth)).append
      (body depth)).append (semicolon depth)
    simpa using (comment depth).trans code.feed

theorem assemble_whole {table : Declaration.Table} {root : Declaration}
    (each : ∀ d ∈ table.declarations, Plain d.name ∧ Balanced d.body) (own : Plain root.name ∧ Balanced root.body) :
    Whole (table.assemble root) := by
  apply whole_join
  intro t mem
  obtain ⟨d, inside, rfl⟩ := List.mem_map.mp mem
  rcases List.mem_append.mp inside with hoisted | last
  · exact render_whole (each d hoisted).1 (each d hoisted).2
  · rw [List.mem_singleton.mp last]
    exact render_whole own.1 own.2

end ApiTypes.Layout
