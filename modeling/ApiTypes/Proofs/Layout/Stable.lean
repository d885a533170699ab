import ApiTypes.Layout
import ApiTypes.Proofs.Text
/-!
What a layout leaves alone. The lines of a text come out in the same order, with other blanks around them, and a text
that has been laid out comes out as it is: every line of it meets the same depth again, and every blank line of it is
due again.
-/
namespace ApiTypes.Layout

/-! ### One line -/

theorem place_shape {width : Nat} {s next : State} {t line : Text} (placed : place width s t = some (line, next)) :
    next.blankDue = false ∧ ∃ n, line = List.replicate n ' ' ++ t := by
  unfold place at placed
  split at placed
  · cases placed
    refine ⟨rfl, ?_⟩
    unfold alignStar
    split
    · exact ⟨width * s.depth + 1, by simp [indent, List.replicate_succ']⟩
    · exact ⟨width * s.depth, rfl⟩
  · simp only [Option.ite_none_left_eq_some, Option.some.injEq, Prod.mk.injEq] at placed
    obtain ⟨-, rfl, rfl⟩ := placed
    exact ⟨rfl, _, rfl⟩

theorem place_begins {width : Nat} {s next : State} {t line : Text} (placed : place width s t = some (line, next)) :
    next.started = true := by
  unfold place at placed
  split at placed
  · cases placed
    rfl
  · simp only [Option.ite_none_left_eq_some, Option.some.injEq, Prod.mk.injEq] at placed
    obtain ⟨-, -, rfl⟩ := placed
    rfl

theorem placed_trim {width : Nat} {s next : State} {raw line : Text}
    (placed : place width s (Text.trim raw) = some (line, next)) : Text.trim line = Text.trim raw := by
  obtain ⟨-, n, rfl⟩ := place_shape placed
  have blank : (List.replicate n ' ').all Text.isBlank = true := by
    rw [List.all_replicate]
    split
    · rfl
    · decide
  rw [Text.trim_blank_lead blank, Text.trim_trim]

/- A line that ended in a carriage return would lose it when it is read back; a trimmed line does not end in one. -/
theorem placed_reads_back {width : Nat} {s next : State} {raw line : Text} (single : '\n' ∉ raw)
    (shown : Text.trim raw ≠ []) (placed : place width s (Text.trim raw) = some (line, next)) :
    '\n' ∉ line ∧ line.getLast? ≠ some '\r' := by
  obtain ⟨-, n, rfl⟩ := place_shape placed
  constructor
  · have trimmed : '\n' ∉ Text.trim raw := fun feed => single ((Text.trim_infix raw).subset feed)
    simp [trimmed]
  · intro last
    cases own : (Text.trim raw).getLast? with
    | none => exact shown (List.getLast?_eq_none_iff.mp own)
    | some c =>
      have visible := Text.trim_last own
      rw [List.getLast?_append, own, Option.some_or, Option.some.injEq] at last
      rw [last] at visible
      revert visible
      decide

theorem lines_from_cases {width number : Nat} {s : State} {raw : Text} {rest outs : List Text}
    (laidOut : linesFrom width number s (raw :: rest) = .ok outs) :
    (Text.trim raw = [] ∧ linesFrom width (number + 1) (afterBlank s) rest = .ok outs) ∨
    (Text.trim raw ≠ [] ∧ ∃ line next lines, place width s (Text.trim raw) = some (line, next) ∧
      linesFrom width (number + 1) next rest = .ok lines ∧ outs = (if s.blankDue then [[]] else []) ++ line :: lines) := by
  rw [linesFrom] at laidOut
  by_cases blank : Text.trim raw = []
  · rw [if_pos (by simp [blank])] at laidOut
    exact Or.inl ⟨blank, laidOut⟩
  · rw [if_neg (by simpa using blank)] at laidOut
    refine Or.inr ⟨blank, ?_⟩
    cases placed : place width s (Text.trim raw) with
    | none => simp [placed] at laidOut
    | some result =>
      obtain ⟨line, next⟩ := result
      cases later : linesFrom width (number + 1) next rest with
      | error e => simp [placed, later, bind, Except.bind] at laidOut
      | ok lines =>
        simp only [placed, later, bind, Except.bind, pure, Except.pure, Except.ok.injEq] at laidOut
        exact ⟨line, next, lines, rfl, later, laidOut.symm⟩

theorem lines_from_blank {raw : Text} (blank : Text.trim raw = []) (width number : Nat) (s : State) (rest : List Text) :
    linesFrom width number s (raw :: rest) = linesFrom width (number + 1) (afterBlank s) rest := by
  rw [linesFrom, if_pos (by simp [blank])]

theorem lines_from_placed {width number : Nat} {s next : State} {raw line : Text} {rest lines : List Text}
    (shown : Text.trim raw ≠ []) (placed : place width s (Text.trim raw) = some (line, next))
    (later : linesFrom width (number + 1) next rest = .ok lines) :
    linesFrom width number s (raw :: rest) = .ok ((if s.blankDue then [[]] else []) ++ line :: lines) := by
  rw [linesFrom, if_neg (by simpa using shown)]
  simp only [placed, later]
  rfl

theorem finish_lines {s : State} {outs : List Text} (finished : finish s = .ok outs) : outs = [] := by
  unfold finish at finished
  split at finished
  · simp at finished
  · split at finished
    · simp at finished
    · exact (Except.ok.inj finished).symm

/-! ### All lines -/

def shownLines (ls : List Text) : List Text := (ls.map Text.trim).filter (!·.isEmpty)

theorem lines_keep_shown {width number : Nat} {s : State} {raws outs : List Text}
    (laidOut : linesFrom width number s raws = .ok outs) : shownLines outs = shownLines raws := by
  induction raws generalizing number s outs with
  | nil => rw [finish_lines laidOut]
  | cons raw rest ih =>
    rcases lines_from_cases laidOut with ⟨blank, later⟩ | ⟨shown, line, next, lines, placed, later, rfl⟩
    · rw [ih later]
      simp [shownLines, blank]
    · have same := ih later
      have trimmed := placed_trim placed
      have empty : Text.trim [] = [] := rfl
      unfold shownLines at same ⊢
      cases s.blankDue <;> simp [trimmed, empty, shown, same]

theorem lines_read_back {width number : Nat} {s : State} {raws outs : List Text} (single : ∀ raw ∈ raws, '\n' ∉ raw)
    (laidOut : linesFrom width number s raws = .ok outs) : ∀ l ∈ outs, '\n' ∉ l ∧ l.getLast? ≠ some '\r' := by
  induction raws generalizing number s outs with
  | nil =>
    rw [finish_lines laidOut]
    simp
  | cons raw rest ih =>
    have single' : ∀ raw ∈ rest, '\n' ∉ raw := fun raw mem => single raw (List.mem_cons_of_mem _ mem)
    rcases lines_from_cases laidOut with ⟨-, later⟩ | ⟨shown, line, next, lines, placed, later, rfl⟩
    · exact ih single' later
    · intro l mem
      rcases List.mem_append.mp mem with due | own
      · split at due
        · rw [List.mem_singleton.mp due]
          simp
        · simp at due
      · rcases List.mem_cons.mp own with rfl | more
        · exact placed_reads_back (single raw (by simp)) shown placed
        · exact ih single' later l more

/-- A blank line is due only outside brackets and comments, after a line has been written. -/
def State.Sound (s : State) : Prop := s.blankDue = true → (s.depth == 0 && !s.inComment && s.started) = true

def State.withoutBlank (s : State) : State := { s with blankDue := false }

/- The second time a blank line stands only where one was due, so that it is due again, and nothing is due before it. -/
theorem lines_again {width number : Nat} {s : State} {raws outs : List Text} (sound : s.Sound)
    (laidOut : linesFrom width number s raws = .ok outs) (number' : Nat) :
    linesFrom width number' s.withoutBlank outs = .ok outs := by
  induction raws generalizing number s outs number' with
  | nil =>
    have none := finish_lines laidOut
    subst none
    exact laidOut
  | cons raw rest ih =>
    rcases lines_from_cases laidOut with ⟨-, later⟩ | ⟨shown, line, next, lines, placed, later, rfl⟩
    · have soundAfter : (afterBlank s).Sound := fun due => due
      exact ih soundAfter later number'
    · obtain ⟨none, -⟩ := place_shape placed
      have soundNext : next.Sound := fun due => absurd due (by simp [none])
      have unchanged : next.withoutBlank = next := by rw [State.withoutBlank, ← none]
      have trimmed := placed_trim placed
      -- Where a line is placed does not depend on the blank lines before it.
      have again : ∀ due n, linesFrom width n { s with blankDue := due } (line :: lines) =
          .ok ((if due then [[]] else []) ++ line :: lines) := by
        intro due n
        have tail := ih soundNext later (n + 1)
        rw [unchanged] at tail
        exact lines_from_placed (s := { s with blankDue := due }) (by rwa [trimmed]) (by rw [trimmed]; exact placed) tail
      cases due : s.blankDue with
      | false => exact again false number'
      | true =>
        have restored : afterBlank s.withoutBlank = { s with blankDue := true } := by
          have top := sound due
          simp only [afterBlank, State.withoutBlank, top]
        rw [if_pos rfl, List.singleton_append, lines_from_blank rfl, restored]
        exact again true _

/-! ### The whole text -/

theorem format_lines {width : Nat} {t out : Text} (laidOut : format width t = .ok out) :
    ∃ outs, linesFrom width 1 .initial (Text.lines t) = .ok outs ∧ out = Text.joinWith ['\n'] outs ++ ['\n'] ∧
      Text.lines out = if outs.isEmpty then [[]] else outs := by
  unfold format at laidOut
  cases ran : linesFrom width 1 .initial (Text.lines t) with
  | error e => simp [ran, bind, Except.bind] at laidOut
  | ok outs =>
    simp only [ran, bind, Except.bind, pure, Except.pure, Except.ok.injEq] at laidOut
    refine ⟨outs, rfl, laidOut.symm, ?_⟩
    have each := lines_read_back (fun raw mem => Text.lines_no_feed mem) ran
    rw [← laidOut]
    cases outs with
    | nil => rfl
    | cons line lines => exact Text.lines_join (by simp) each

/-- Only blanks around lines and blank lines change. -/
theorem format_keeps_shown {width : Nat} {t out : Text} (laidOut : format width t = .ok out) :
    shownLines (Text.lines out) = shownLines (Text.lines t) := by
  obtain ⟨outs, ran, -, read⟩ := format_lines laidOut
  rw [← lines_keep_shown ran, read]
  cases outs with
  | nil => rfl
  | cons line lines => rfl

/-- A text that has been laid out stays as it is. -/
theorem laid_out_text_is_stable (width : Nat) (t out : Text) (laidOut : format width t = .ok out) :
    format width out = .ok out := by
  obtain ⟨outs, ran, rfl, read⟩ := format_lines laidOut
  have again := lines_again (s := .initial) (fun due => by simp [State.initial] at due) ran
  have same : linesFrom width 1 .initial (Text.lines (Text.joinWith ['\n'] outs ++ ['\n'])) = .ok outs := by
    rw [read]
    cases outs with
    | nil => exact (lines_from_blank rfl _ _ _ _).trans (again 2)
    | cons line lines => exact again 1
  rw [format, same]
  rfl

def ruggedText : Text := "/* a\r\n*/\nx \x7b\n\n'\x7d' [\n]\x7d\r\n \n\ny".toList

def ruggedLayout : Text := "/* a\n */\nx \x7b\n   '\x7d' [\n]\x7d\n\ny\n".toList

theorem rugged_layout_is_stable : format 3 ruggedText = .ok ruggedLayout ∧ format 3 ruggedLayout = .ok ruggedLayout := by
  have laidOut : format 3 ruggedText = .ok ruggedLayout := by rfl
  exact ⟨laidOut, laid_out_text_is_stable 3 ruggedText ruggedLayout laidOut⟩

end ApiTypes.Layout
