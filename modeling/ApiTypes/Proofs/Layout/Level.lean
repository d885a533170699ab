import ApiTypes.Layout
import ApiTypes.Proofs.Text
/-!
What the layout of a text depends on. Whether a text is accepted is decided by the depth of its brackets and by
its comments alone, which are carried from line to line; the width and the blank lines do not matter. The brackets
of a line are followed character by character.
-/
namespace ApiTypes.Layout

/-- What is carried from one line to the next and decides about acceptance. -/
structure Level where
  depth : Nat
  inComment : Bool
deriving DecidableEq, Repr

def State.level (s : State) : Level := ⟨s.depth, s.inComment⟩

namespace Level

def afterComment (l : Level) (t : Text) : Level := ⟨l.depth, !Text.includes "*/".toList t⟩

def afterCode? (l : Level) (t : Text) : Option Level :=
  let b := brackets t
  if l.depth < b.leading || l.depth + b.opens < b.closes then none else some ⟨l.depth + b.opens - b.closes, false⟩

def after? (l : Level) (raw : Text) : Option Level :=
  let t := Text.trim raw
  if t.isEmpty then some l
  else if l.inComment || Text.startsWith t "/*".toList then some (l.afterComment t)
  else l.afterCode? t

def through? (l : Level) : List Text → Option Level
  | [] => some l
  | raw :: rest => (l.after? raw).bind (·.through? rest)

def top : Level := ⟨0, false⟩

end Level

theorem place_level (width : Nat) (s : State) {raw : Text} (nonempty : (Text.trim raw).isEmpty = false) :
    (place width s (Text.trim raw)).map (fun placed => placed.2.level) = s.level.after? raw := by
  obtain ⟨depth, inComment, started, blankDue⟩ := s
  change _ = Level.after? ⟨depth, inComment⟩ raw
  simp only [Level.after?, nonempty, Bool.false_eq_true, if_false, place, Level.afterCode?, Level.afterComment]
  by_cases comment : (inComment || Text.startsWith (Text.trim raw) "/*".toList) = true
  · simp only [if_pos comment, Option.map_some]
    rfl
  · simp only [if_neg comment]
    split <;> rfl

theorem finish_ok_iff (s : State) : (∃ lines, finish s = .ok lines) ↔ s.level = .top := by
  obtain ⟨depth, inComment, started, blankDue⟩ := s
  cases inComment <;> cases depth <;> simp [finish, State.level, Level.top]

theorem lines_ok_iff (width number : Nat) (s : State) (raws : List Text) :
    (∃ lines, linesFrom width number s raws = .ok lines) ↔ s.level.through? raws = some .top := by
  induction raws generalizing number s with
  | nil => rw [linesFrom, finish_ok_iff, Level.through?, Option.some.injEq]
  | cons raw rest ih =>
    rw [linesFrom, Level.through?]
    -- A blank line is left for later, everything else is placed.
    cases blank : (Text.trim raw).isEmpty with
    | true =>
      have same : s.level.after? raw = some s.level := by simp [Level.after?, blank]
      have kept : (afterBlank s).level = s.level := rfl
      simp only [same, if_true, Option.bind_some]
      rw [ih, kept]
    | false =>
      have level := place_level width s blank
      simp only [Bool.false_eq_true, if_false]
      cases placed : place width s (Text.trim raw) with
      | none =>
        rw [placed, Option.map_none] at level
        simp [← level]
      | some result =>
        obtain ⟨line, next⟩ := result
        rw [placed, Option.map_some] at level
        rw [← level, Option.bind_some, ← ih (number + 1) next]
        cases later : linesFrom width (number + 1) next rest with
        | error e => simp [later, bind, Except.bind]
        | ok lines => simp [later, bind, Except.bind, pure, Except.pure]

/-- A text can be laid out, with any indentation, exactly if its lines lead back to the top. -/
theorem format_ok_iff (width : Nat) (t : Text) :
    (∃ out, format width t = .ok out) ↔ Level.top.through? (Text.lines t) = some .top := by
  have lines := lines_ok_iff width 1 State.initial (Text.lines t)
  rw [show State.initial.level = .top from rfl] at lines
  rw [← lines, format]
  cases linesFrom width 1 State.initial (Text.lines t) with
  | error e => simp [bind, Except.bind]
  | ok lines => simp [bind, Except.bind, pure, Except.pure]

theorem format_nonempty {width : Nat} {t out : Text} (laidOut : format width t = .ok out) : out ≠ [] := by
  rw [format] at laidOut
  cases run : linesFrom width 1 State.initial (Text.lines t) with
  | error e => simp [run, bind, Except.bind] at laidOut
  | ok lines =>
    simp only [run, bind, Except.bind, pure, Except.pure, Except.ok.injEq] at laidOut
    simp [← laidOut]

/-! ### Brackets, one character after the other -/

structure Inside where
  depth : Nat
  quote : Option Quote
deriving DecidableEq, Repr

/-- Closing what is not open fails. -/
def Inside.step? (s : Inside) (c : Char) : Option Inside :=
  match s.quote with
  | some q => some ⟨s.depth, q.next c⟩
  | none =>
    if isQuote c then some ⟨s.depth, some ⟨c, false⟩⟩
    else if isOpening c then some ⟨s.depth + 1, none⟩
    else if isClosing c then if s.depth = 0 then none else some ⟨s.depth - 1, none⟩
    else some s

def Inside.run? (s : Inside) : Text → Option Inside
  | [] => some s
  | c :: rest => (s.step? c).bind (·.run? rest)

theorem run_append (s : Inside) (t u : Text) : s.run? (t ++ u) = (s.run? t).bind (·.run? u) := by
  induction t generalizing s with
  | nil => rfl
  | cons c t ih =>
    simp only [List.cons_append, Inside.run?]
    cases s.step? c with
    | none => rfl
    | some next => exact ih next

theorem step_cases {depth : Nat} {c : Char} {s' : Inside} (step : Inside.step? ⟨depth, none⟩ c = some s') :
    (isQuote c = true ∧ s' = ⟨depth, some ⟨c, false⟩⟩) ∨
    (isQuote c = false ∧ isOpening c = true ∧ s' = ⟨depth + 1, none⟩) ∨
    (isQuote c = false ∧ isOpening c = false ∧ isClosing c = true ∧ 0 < depth ∧ s' = ⟨depth - 1, none⟩) ∨
    (isQuote c = false ∧ isOpening c = false ∧ isClosing c = false ∧ s' = ⟨depth, none⟩) := by
  simp only [Inside.step?] at step
  split at step
  · rename_i quote
    exact Or.inl ⟨quote, (Option.some.inj step).symm⟩
  · rename_i quote
    rw [Bool.not_eq_true] at quote
    refine Or.inr ?_
    split at step
    · rename_i opening
      exact Or.inl ⟨quote, opening, (Option.some.inj step).symm⟩
    · rename_i opening
      rw [Bool.not_eq_true] at opening
      refine Or.inr ?_
      split at step
      · rename_i closing
        rw [Option.ite_none_left_eq_some] at step
        exact Or.inl ⟨quote, opening, closing, Nat.pos_of_ne_zero step.1, (Option.some.inj step.2).symm⟩
      · rename_i closing
        rw [Bool.not_eq_true] at closing
        exact Or.inr ⟨quote, opening, closing, (Option.some.inj step).symm⟩

/- The count of a line starts anywhere, so it is compared with what it was; `first` bounds what may still be
   counted as leading. -/
theorem count_run {s s' : Inside} {t : Text} (run : s.run? t = some s') (first : Bool) (b : Brackets) :
    s.depth + (bracketsFrom s.quote first b t).opens + b.closes =
        s'.depth + (bracketsFrom s.quote first b t).closes + b.opens ∧
      (bracketsFrom s.quote first b t).leading ≤ b.leading + if first then s.depth else 0 := by
  induction t generalizing s first b with
  | nil =>
    simp only [Inside.run?, Option.some.injEq] at run
    subst s'
    exact ⟨by simp [bracketsFrom]; omega, by simp [bracketsFrom]⟩
  | cons c t ih =>
    obtain ⟨depth, quote⟩ := s
    simp only [Inside.run?, Option.bind_eq_some_iff] at run
    obtain ⟨next, step, later⟩ := run
    cases quote with
    | some q =>
      simp only [Inside.step?, Option.some.injEq] at step
      subst next
      have counted := ih later false b
      simp only [bracketsFrom]
      simp only [Bool.false_eq_true, if_false] at counted
      exact ⟨counted.1, Nat.le_trans counted.2 (by omega)⟩
    | none =>
      simp only [bracketsFrom]
      rcases step_cases step with ⟨quote, rfl⟩ | ⟨quote, opening, rfl⟩ | ⟨quote, opening, closing, positive, rfl⟩ |
        ⟨quote, opening, closing, rfl⟩
      · have counted := ih later false b
        simp only [quote, Bool.false_eq_true, if_true, if_false] at counted ⊢
        exact ⟨counted.1, Nat.le_trans counted.2 (by omega)⟩
      · have counted := ih later false { b with opens := b.opens + 1 }
        simp only [quote, opening, Bool.false_eq_true, if_true, if_false] at counted ⊢
        exact ⟨by omega, Nat.le_trans counted.2 (by omega)⟩
      · have counted := ih later first
          { b with closes := b.closes + 1, leading := if first then b.leading + 1 else b.leading }
        simp only [quote, opening, closing, Bool.false_eq_true, if_true, if_false]
        refine ⟨by simp only at counted ⊢; omega, ?_⟩
        cases first <;> simp only [Bool.false_eq_true, if_true, if_false] at counted ⊢ <;> omega
      · have counted := ih later false b
        simp only [quote, opening, closing, Bool.false_eq_true, if_false] at counted ⊢
        exact ⟨counted.1, Nat.le_trans counted.2 (by omega)⟩

theorem after_code_run {depth : Nat} {s : Inside} {t : Text} (run : Inside.run? ⟨depth, none⟩ t = some s) :
    Level.afterCode? ⟨depth, false⟩ t = some ⟨s.depth, false⟩ := by
  have counted := count_run run true ⟨0, 0, 0⟩
  simp only [if_true, Nat.add_zero, Nat.zero_add] at counted
  obtain ⟨total, leading⟩ := counted
  have fits : (decide (depth < (brackets t).leading) || decide (depth + (brackets t).opens < (brackets t).closes)) = false := by
    simp only [Bool.or_eq_false_iff, decide_eq_false_iff_not]
    exact ⟨by simp only [brackets]; omega, by simp only [brackets]; omega⟩
  have left : depth + (brackets t).opens - (brackets t).closes = s.depth := by
    simp only [brackets]
    omega
  simp only [Level.afterCode?, fits, Bool.false_eq_true, if_false, left]

end ApiTypes.Layout
