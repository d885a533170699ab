import Mathlib.Data.List.Chain
import ApiTypes.Proofs.Layout.Level
import ApiTypes.Proofs.Layout.Stable
/-!
Where the lines of a layout stand. They are the lines of the text, in their order. Each is set in by the brackets that are
open before it, less those it closes first; a blank line stands between two of them where the text has one, outside
brackets and comments, and nowhere else.
-/
namespace ApiTypes.Layout

/-! ### Lines and the gaps before them -/

/- `gap` tells whether a blank line has been passed since the last line that is not blank. -/
def spacingFrom (gap : Bool) : List Text → List (Bool × Text)
  | [] => []
  | raw :: rest =>
    if (Text.trim raw).isEmpty then spacingFrom true rest else (gap, raw) :: spacingFrom false rest

def spacing (t : Text) : List (Bool × Text) := spacingFrom false (Text.lines t)

theorem spacing_from_blank {raw : Text} (blank : Text.trim raw = []) (gap : Bool) (rest : List Text) :
    spacingFrom gap (raw :: rest) = spacingFrom true rest := by
  rw [spacingFrom, if_pos (by simp [blank])]

theorem spacing_from_shown {raw : Text} (shown : Text.trim raw ≠ []) (gap : Bool) (rest : List Text) :
    spacingFrom gap (raw :: rest) = (gap, raw) :: spacingFrom false rest := by
  rw [spacingFrom, if_neg (by simpa using shown)]

theorem spacing_from_lines (gap : Bool) (raws : List Text) :
    (spacingFrom gap raws).map (fun line => Text.trim line.2) = shownLines raws := by
  induction raws generalizing gap with
  | nil => rfl
  | cons raw rest ih =>
    by_cases blank : Text.trim raw = []
    · rw [spacing_from_blank blank, ih]
      simp [shownLines, blank]
    · rw [spacing_from_shown blank, List.map_cons, ih]
      simp [shownLines, blank]

/-! ### The place of a line -/

/-- How a line of a layout comes from a line of the text, where the lines before it lead to `level`. A line of code is
set in by the open brackets less those it closes first, and a line of a comment by the open brackets. -/
structure Stands (width : Nat) (level : Level) (raw line : Text) : Prop where
  code : level.inComment = false → Text.startsWith (Text.trim raw) "/*".toList = false →
    (brackets (Text.trim raw)).leading ≤ level.depth ∧
      line = List.replicate (width * (level.depth - (brackets (Text.trim raw)).leading)) ' ' ++ Text.trim raw
  comment : (level.inComment || Text.startsWith (Text.trim raw) "/*".toList) = true →
    line = List.replicate (width * level.depth) ' ' ++ alignStar (Text.trim raw)

theorem place_stands {width : Nat} {s next : State} {raw line : Text}
    (placed : place width s (Text.trim raw) = some (line, next)) : Stands width s.level raw line := by
  unfold place at placed
  split at placed
  · rename_i comment
    cases placed
    constructor
    · intro outside opens
      simp only [State.level] at outside
      rw [outside, opens] at comment
      simp at comment
    · intro _
      rfl
  · rename_i code
    simp only [Option.ite_none_left_eq_some, Option.some.injEq, Prod.mk.injEq] at placed
    obtain ⟨fits, rfl, -⟩ := placed
    constructor
    · intro _ _
      simp only [Bool.or_eq_true, decide_eq_true_eq, not_or, Nat.not_lt] at fits
      exact ⟨fits.1, rfl⟩
    · intro comment
      exact absurd comment code

theorem place_after {width : Nat} {s next : State} {raw line : Text} (shown : Text.trim raw ≠ [])
    (placed : place width s (Text.trim raw) = some (line, next)) : s.level.after? raw = some next.level := by
  have nonempty : (Text.trim raw).isEmpty = false := by simpa using shown
  have level := place_level width s nonempty
  rw [placed, Option.map_some] at level
  exact level.symm

def State.mayGap (s : State) : Bool := s.depth == 0 && !s.inComment && s.started

theorem may_gap_iff (s : State) : s.mayGap = true ↔ s.started = true ∧ s.level = .top := by
  obtain ⟨depth, inComment, started, blankDue⟩ := s
  simp only [State.mayGap, State.level, Level.top, Level.mk.injEq, Bool.and_eq_true, beq_iff_eq, Bool.not_eq_true']
  constructor
  · rintro ⟨⟨zero, outside⟩, begun⟩
    exact ⟨begun, zero, outside⟩
  · rintro ⟨begun, zero, outside⟩
    exact ⟨⟨zero, outside⟩, begun⟩

/- The gap that the text has before its next line has been seen already, so that `gap` and what is due go together. -/
theorem lines_stand {width number : Nat} {s : State} {raws outs : List Text} {gap : Bool}
    (laidOut : linesFrom width number s raws = .ok outs) (due : s.blankDue = (gap && s.mayGap)) {i : Nat}
    {before : Bool} {raw : Text} (listed : (spacingFrom gap raws)[i]? = some (before, raw)) :
    ∃ level after line, s.level.through? (((spacingFrom gap raws).take i).map Prod.snd) = some level ∧
      (spacingFrom false outs)[i]? = some (after, line) ∧ Text.trim line = Text.trim raw ∧ Stands width level raw line ∧
      (after = true ↔ (0 < i ∨ s.started = true) ∧ before = true ∧ level = .top) := by
  induction raws generalizing number s outs gap i with
  | nil => simp [spacingFrom] at listed
  | cons first rest ih =>
    rcases lines_from_cases laidOut with ⟨blank, later⟩ | ⟨shown, placedLine, next, lines, placed, later, rfl⟩
    · rw [spacing_from_blank blank] at listed ⊢
      exact ih later (by simp [afterBlank, State.mayGap]) listed
    · obtain ⟨none, -⟩ := place_shape placed
      have level := place_after shown placed
      have trimmed := placed_trim placed
      have spaced : spacingFrom false ((if s.blankDue then [[]] else []) ++ placedLine :: lines) =
          (s.blankDue, placedLine) :: spacingFrom false lines := by
        have kept : Text.trim placedLine ≠ [] := by rwa [trimmed]
        cases s.blankDue with
        | false => exact spacing_from_shown kept false lines
        | true => exact (spacing_from_blank rfl false _).trans (spacing_from_shown kept true lines)
      rw [spacing_from_shown shown] at listed ⊢
      rw [spaced]
      cases i with
      | zero =>
        cases listed
        refine ⟨s.level, s.blankDue, placedLine, rfl, rfl, trimmed, place_stands placed, ?_⟩
        rw [due, Bool.and_eq_true, may_gap_iff]
        constructor
        · rintro ⟨blanks, started, top⟩
          exact ⟨Or.inr started, blanks, top⟩
        · rintro ⟨started, blanks, top⟩
          exact ⟨blanks, started.resolve_left (Nat.lt_irrefl 0), top⟩
      | succ i =>
        have noneDue : next.blankDue = (false && next.mayGap) := none
        rw [List.getElem?_cons_succ] at listed ⊢
        obtain ⟨level', after, line, reached, found, same, stands, gapped⟩ := ih later noneDue listed
        refine ⟨level', after, line, ?_, found, same, stands, ?_⟩
        · rw [List.take_succ_cons, List.map_cons, Level.through?, level]
          exact reached
        · rw [gapped, place_begins placed]
          simp

/-! ### Blank lines -/

/-- Blank lines stand alone, and neither first nor last. -/
structure Tidy (ls : List Text) : Prop where
  first : ∀ l ∈ ls.head?, Text.trim l ≠ []
  last : ∀ l ∈ ls.getLast?, Text.trim l ≠ []
  single : ls.IsChain fun l next => Text.trim l ≠ [] ∨ Text.trim next ≠ []

theorem tidy_nothing : Tidy [] := ⟨by simp, by simp, .nil⟩

theorem Tidy.line {l : Text} {ls : List Text} (shown : Text.trim l ≠ []) (tidy : Tidy ls) : Tidy (l :: ls) := by
  constructor
  · simpa using shown
  · intro last mem
    cases ls with
    | nil =>
      cases mem
      exact shown
    | cons next ls => exact tidy.last last (by simpa using mem)
  · cases ls with
    | nil => exact .singleton l
    | cons next ls => exact .cons_cons (Or.inl shown) tidy.single

theorem Tidy.gap {l : Text} {ls : List Text} (shown : Text.trim l ≠ []) (tidy : Tidy ls) (more : ls ≠ []) :
    Tidy (l :: [] :: ls) := by
  cases ls with
  | nil => exact absurd rfl more
  | cons next ls =>
    have nextShown : Text.trim next ≠ [] := tidy.first next rfl
    constructor
    · simpa using shown
    · intro last mem
      exact tidy.last last (by simpa using mem)
    · exact .cons_cons (Or.inl shown) (.cons_cons (Or.inr nextShown) tidy.single)

theorem lines_tidy {width number : Nat} {s : State} {raws outs : List Text} (sound : s.Sound)
    (laidOut : linesFrom width number s raws = .ok outs) :
    ∃ tidy, Tidy tidy ∧ (outs = tidy ∨ (s.started = true ∧ tidy ≠ [] ∧ outs = [] :: tidy)) := by
  induction raws generalizing number s outs with
  | nil => exact ⟨[], tidy_nothing, Or.inl (finish_lines laidOut)⟩
  | cons raw rest ih =>
    rcases lines_from_cases laidOut with ⟨-, later⟩ | ⟨shown, line, next, lines, placed, later, rfl⟩
    · exact ih (s := afterBlank s) (fun due => due) later
    · obtain ⟨none, -⟩ := place_shape placed
      have kept : Text.trim line ≠ [] := by rwa [placed_trim placed]
      have whole : Tidy (line :: lines) := by
        obtain ⟨tidy, isTidy, same | ⟨-, more, same⟩⟩ := ih (s := next) (fun due => absurd due (by simp [none])) later
        · rw [same]
          exact isTidy.line kept
        · rw [same]
          exact isTidy.gap kept more
      refine ⟨line :: lines, whole, ?_⟩
      cases due : s.blankDue with
      | false => exact Or.inl rfl
      | true =>
        have top := sound due
        simp only [Bool.and_eq_true] at top
        exact Or.inr ⟨top.2, by simp, rfl⟩

theorem joined_end {outs : List Text} (tidy : Tidy outs) (single : ∀ l ∈ outs, '\n' ∉ l) :
    (Text.joinWith ['\n'] outs).getLast? ≠ some '\n' := by
  rcases List.eq_nil_or_concat outs with rfl | ⟨front, l, rfl⟩
  · simp [Text.joinWith]
  · have shown : Text.trim l ≠ [] := tidy.last l (by simp)
    have nonempty : l ≠ [] := by
      rintro rfl
      exact shown rfl
    have ends : (Text.joinWith ['\n'] (front ++ [l])).getLast? = l.getLast? := by
      cases front with
      | nil => rfl
      | cons l' front =>
        rw [Text.join_with_append (by simp) (by simp), List.getLast?_append]
        cases last : l.getLast? with
        | none => exact absurd (List.getLast?_eq_none_iff.mp last) nonempty
        | some c => simp [Text.joinWith, last]
    rw [List.concat_eq_append, ends]
    intro feed
    exact single l (by simp) (List.mem_of_getLast? feed)

/-! ### The whole text -/

/-- A layout has the lines of the text. It ends in one line feed, and blank lines stand alone between other lines: where the
text has some, outside brackets and comments. Every line is set in by the brackets open before it. -/
theorem layout_moves_lines_only (width : Nat) (t out : Text) (laidOut : format width t = .ok out) :
    shownLines (Text.lines out) = shownLines (Text.lines t) ∧
    (∃ body, out = body ++ ['\n'] ∧ body.getLast? ≠ some '\n') ∧
    (if shownLines (Text.lines t) = [] then out = ['\n'] else Tidy (Text.lines out)) ∧
    (spacing out).length = (spacing t).length ∧
    ∀ i before raw, (spacing t)[i]? = some (before, raw) →
      ∃ level after line, Level.top.through? (((spacing t).take i).map Prod.snd) = some level ∧
        (spacing out)[i]? = some (after, line) ∧ Text.trim line = Text.trim raw ∧ Stands width level raw line ∧
        (after = true ↔ 0 < i ∧ before = true ∧ level = .top) := by
  obtain ⟨outs, ran, rfl, read⟩ := format_lines laidOut
  have notDue : State.initial.Sound := fun due => by simp [State.initial] at due
  have each := lines_read_back (fun raw mem => Text.lines_no_feed mem) ran
  have tidy : Tidy outs := by
    obtain ⟨tidy, isTidy, rfl | ⟨started, -⟩⟩ := lines_tidy notDue ran
    · exact isTidy
    · simp [State.initial] at started
  have same := format_keeps_shown laidOut
  refine ⟨same, ⟨_, rfl, joined_end tidy fun l mem => (each l mem).1⟩, ?_, ?_, ?_⟩
  · rw [← lines_keep_shown ran, read]
    cases outs with
    | nil => simp [shownLines, Text.joinWith]
    | cons line lines =>
      have shown : Text.trim line ≠ [] := tidy.first line rfl
      rw [if_neg (by simp [shownLines, shown])]
      exact tidy
  · have lengths := congrArg List.length same
    rwa [← spacing_from_lines false, ← spacing_from_lines false, List.length_map, List.length_map] at lengths
  · intro i before raw listed
    have spaced : spacing (Text.joinWith ['\n'] outs ++ ['\n']) = spacingFrom false outs := by
      rw [spacing, read]
      cases outs with
      | nil => rfl
      | cons line lines => rfl
    obtain ⟨level, after, line, reached, found, same, stands, gapped⟩ := lines_stand ran rfl listed
    refine ⟨level, after, line, reached, by rwa [spaced], same, stands, ?_⟩
    rw [gapped]
    simp [State.initial]

theorem rugged_lines_are_moved :
    format 3 ruggedText = .ok ruggedLayout ∧
      spacing ruggedText = [(false, "/* a".toList), (false, "*/".toList), (false, "x \x7b".toList),
        (true, "'\x7d' [".toList), (false, "]\x7d".toList), (true, "y".toList)] ∧
      spacing ruggedLayout = [(false, "/* a".toList), (false, " */".toList), (false, "x \x7b".toList),
        (false, "   '\x7d' [".toList), (false, "]\x7d".toList), (true, "y".toList)] ∧
      shownLines (Text.lines ruggedLayout) = shownLines (Text.lines ruggedText) ∧ Tidy (Text.lines ruggedLayout) := by
  have laidOut : format 3 ruggedText = .ok ruggedLayout := by rfl
  obtain ⟨same, -, tidy, -, -⟩ := layout_moves_lines_only 3 ruggedText ruggedLayout laidOut
  exact ⟨laidOut, by rfl, by rfl, same, tidy⟩

end ApiTypes.Layout
