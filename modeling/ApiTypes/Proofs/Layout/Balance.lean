import ApiTypes.Error
import ApiTypes.Proofs.Layout.Level
/-!
Which texts the layout accepts. Brackets are counted at two points of a line: after the closing brackets that it starts
with, and at its end. A balanced text is accepted. An accepted text is balanced unless some line closes, between these
two points, a bracket that is not open; and no line does if each closes first what was open before it.
-/
namespace ApiTypes.Layout

/-! ### Brackets of a text -/

def quoteAfter : Option Quote → Char → Option Quote
  | some q, c => q.next c
  | none, c => if isQuote c then some ⟨c, false⟩ else none

/- `quote` is the literal that is open before the text. -/
def marksFrom (quote : Option Quote) : Text → Text
  | [] => []
  | c :: rest =>
    (if quote.isNone && (isOpening c || isClosing c) then [c] else []) ++ marksFrom (quoteAfter quote c) rest

def marks (line : Text) : Text := marksFrom none line

def marksOf (lines : List Text) : Text := lines.flatMap marks

def opened (ms : Text) : Nat := ms.countP isOpening

def closed (ms : Text) : Nat := ms.countP isClosing

def leadOf (line : Text) : Text := line.takeWhile isClosing

theorem opened_append (ms ns : Text) : opened (ms ++ ns) = opened ms + opened ns := List.countP_append

theorem closed_append (ms ns : Text) : closed (ms ++ ns) = closed ms + closed ns := List.countP_append

theorem bracket_apart {c : Char} : (isOpening c = true → isQuote c = false ∧ isClosing c = false) ∧
    (isClosing c = true → isQuote c = false ∧ isOpening c = false) := by
  simp only [isOpening, isClosing, Bool.or_eq_true, beq_iff_eq]
  constructor
  · rintro ((rfl | rfl) | rfl) <;> decide
  · rintro ((rfl | rfl) | rfl) <;> decide

theorem lead_counts (line : Text) : opened (leadOf line) = 0 ∧ closed (leadOf line) = (leadOf line).length := by
  have closing : ∀ c ∈ leadOf line, isClosing c = true := fun c mem => List.all_eq_true.mp List.all_takeWhile c mem
  refine ⟨List.countP_eq_zero.mpr fun c mem => ?_, List.countP_eq_length.mpr closing⟩
  rw [(bracket_apart.2 (closing c mem)).2]
  decide

theorem marks_lead (line : Text) : marks line = leadOf line ++ marks (line.dropWhile isClosing) := by
  induction line with
  | nil => rfl
  | cons c rest ih =>
    cases closing : isClosing c with
    | true =>
      have other := bracket_apart.2 closing
      rw [leadOf, List.takeWhile_cons_of_pos closing, List.dropWhile_cons_of_pos closing, List.cons_append]
      rw [marks, leadOf] at ih
      simp [marks, marksFrom, quoteAfter, closing, other, ih]
    | false =>
      have stays : ¬ isClosing c = true := by simp [closing]
      rw [leadOf, List.takeWhile_cons_of_neg stays, List.dropWhile_cons_of_neg stays, List.nil_append]

/- The count of a line starts anywhere; only while `first` holds may a bracket still be counted as leading. -/
theorem brackets_from_marks (quote : Option Quote) (first : Bool) (b : Brackets) (t : Text) :
    bracketsFrom quote first b t =
      ⟨b.opens + opened (marksFrom quote t), b.closes + closed (marksFrom quote t),
        b.leading + if first && quote.isNone then (leadOf t).length else 0⟩ := by
  induction t generalizing quote first b with
  | nil => simp [bracketsFrom, marksFrom, opened, closed, leadOf]
  | cons c rest ih =>
    cases quote with
    | some q => simp [bracketsFrom, marksFrom, quoteAfter, ih]
    | none =>
      cases opening : isOpening c with
      | true =>
        obtain ⟨quote, closing⟩ := bracket_apart.1 opening
        simp [bracketsFrom, marksFrom, quoteAfter, ih, opening, quote, closing, opened, closed, leadOf]
        omega
      | false =>
        cases closing : isClosing c with
        | true =>
          have quote := (bracket_apart.2 closing).1
          cases first <;>
            simp [bracketsFrom, marksFrom, quoteAfter, ih, opening, quote, closing, opened, closed, leadOf] <;> omega
        | false =>
          cases quote : isQuote c <;>
            simp [bracketsFrom, marksFrom, quoteAfter, ih, opening, quote, closing, leadOf]

theorem brackets_marks (t : Text) : brackets t = ⟨opened (marks t), closed (marks t), (leadOf t).length⟩ := by
  simp [brackets, brackets_from_marks, marks]

/-! ### Code and comments -/

/- A comment goes from a line that starts with `/*` to the first line that has `*/` in it. `inComment` tells whether one is
   open before the lines. -/
def codeFrom (inComment : Bool) : List Text → List Text
  | [] => []
  | t :: rest =>
    if inComment || Text.startsWith t "/*".toList then codeFrom (!Text.includes "*/".toList t) rest
    else t :: codeFrom false rest

def commentFrom (inComment : Bool) : List Text → Bool
  | [] => inComment
  | t :: rest =>
    commentFrom ((inComment || Text.startsWith t "/*".toList) && !Text.includes "*/".toList t) rest

def codeLines (t : Text) : List Text := codeFrom false ((Text.lines t).map Text.trim)

def endsInComment (t : Text) : Bool := commentFrom false ((Text.lines t).map Text.trim)

/-! ### Balance -/

/-- At no point of the code more brackets have been closed than opened, in the end as many, and every comment is closed. -/
structure Matched (t : Text) : Prop where
  never : ∀ p, p <+: marksOf (codeLines t) → closed p ≤ opened p
  total : closed (marksOf (codeLines t)) = opened (marksOf (codeLines t))
  uncommented : endsInComment t = false

/-- The points at which brackets are counted, each given by the brackets up to it: after the closing brackets that
a line starts with, and at the end of a line. -/
inductive Checkpoint : List Text → Text → Prop
  | lead (line : Text) (rest : List Text) : Checkpoint (line :: rest) (leadOf line)
  | whole (line : Text) (rest : List Text) : Checkpoint (line :: rest) (marks line)
  | later (line : Text) {rest : List Text} {p : Text} (point : Checkpoint rest p) :
      Checkpoint (line :: rest) (marks line ++ p)

/-- Lines that close, where brackets are counted, no more than `depth` and what they open, and in the end just that. -/
structure Counted (depth : Nat) (lines : List Text) : Prop where
  never : ∀ p, Checkpoint lines p → closed p ≤ depth + opened p
  total : closed (marksOf lines) = depth + opened (marksOf lines)

theorem counted_cons (depth : Nat) (line : Text) (rest : List Text) :
    Counted depth (line :: rest) ↔
      (leadOf line).length ≤ depth ∧ closed (marks line) ≤ depth + opened (marks line) ∧
        Counted (depth + opened (marks line) - closed (marks line)) rest := by
  have lead := lead_counts line
  have parts : marksOf (line :: rest) = marks line ++ marksOf rest := List.flatMap_cons
  constructor
  · intro counted
    have first := counted.never _ (.lead line rest)
    have whole := counted.never _ (.whole line rest)
    have total := counted.total
    rw [parts, closed_append, opened_append] at total
    refine ⟨by omega, whole, ?_, by omega⟩
    intro p point
    have later := counted.never _ (.later line point)
    rw [closed_append, opened_append] at later
    omega
  · rintro ⟨first, whole, never, total⟩
    constructor
    · intro p point
      cases point with
      | lead => omega
      | whole => exact whole
      | @later _ _ p point =>
        have later := never p point
        rw [closed_append, opened_append]
        omega
    · rw [parts, closed_append, opened_append]
      omega

theorem checkpoint_leads {lines : List Text} {p : Text} (point : Checkpoint lines p) : p <+: marksOf lines := by
  induction point with
  | lead line rest =>
    rw [marksOf, List.flatMap_cons, marks_lead, List.append_assoc]
    exact List.prefix_append _ _
  | whole line rest => exact List.prefix_append _ _
  | later line _ ih =>
    rw [marksOf, List.flatMap_cons]
    exact (List.prefix_append_right_inj _).mpr ih

/-! ### What the layout accepts -/

theorem after_eq (l : Level) (raw : Text) :
    l.after? raw = if l.inComment || Text.startsWith (Text.trim raw) "/*".toList then some (l.afterComment (Text.trim raw))
      else l.afterCode? (Text.trim raw) := by
  obtain ⟨depth, inComment⟩ := l
  cases trimmed : Text.trim raw with
  | nil => cases inComment <;> simp [Level.after?, trimmed, Text.startsWith, Text.dropLead?, Level.afterComment,
      Level.afterCode?, Text.includes, brackets, bracketsFrom]
  | cons c rest => simp [Level.after?, trimmed]

theorem after_code_eq (depth : Nat) (line : Text) :
    Level.afterCode? ⟨depth, false⟩ line =
      if (leadOf line).length ≤ depth ∧ closed (marks line) ≤ depth + opened (marks line)
      then some ⟨depth + opened (marks line) - closed (marks line), false⟩ else none := by
  simp only [Level.afterCode?, brackets_marks, Bool.or_eq_true, decide_eq_true_eq]
  by_cases fits : (leadOf line).length ≤ depth ∧ closed (marks line) ≤ depth + opened (marks line)
  · rw [if_pos fits, if_neg (by omega)]
  · rw [if_neg fits, if_pos (by omega)]

theorem through_top_iff (l : Level) (raws : List Text) :
    l.through? raws = some .top ↔
      Counted l.depth (codeFrom l.inComment (raws.map Text.trim)) ∧ commentFrom l.inComment (raws.map Text.trim) = false := by
  induction raws generalizing l with
  | nil =>
    obtain ⟨depth, inComment⟩ := l
    simp only [Level.through?, Option.some.injEq, Level.top, Level.mk.injEq, List.map_nil, codeFrom, commentFrom]
    constructor
    · rintro ⟨rfl, rfl⟩
      exact ⟨⟨fun p point => (by cases point), rfl⟩, rfl⟩
    · rintro ⟨counted, closed⟩
      exact ⟨counted.total.symm, closed⟩
  | cons raw rest ih =>
    rw [Level.through?, after_eq, List.map_cons, codeFrom, commentFrom]
    by_cases comment : (l.inComment || Text.startsWith (Text.trim raw) "/*".toList) = true
    · simp only [comment, if_true, Bool.true_and]
      exact ih _
    · have outside : l.inComment = false := (Bool.or_eq_false_iff.mp (Bool.not_eq_true _ ▸ comment)).1
      obtain ⟨depth, inComment⟩ := l
      subst outside
      rw [Bool.not_eq_true] at comment
      simp only [comment, Bool.false_eq_true, if_false, Bool.false_and, after_code_eq, counted_cons]
      split
      · rename_i fits
        simp only [Option.bind_some, ih, fits, true_and]
      · rename_i unfit
        simp only [Option.bind_none, reduceCtorEq, false_iff]
        rintro ⟨⟨first, whole, -⟩, -⟩
        exact unfit ⟨first, whole⟩

theorem accepted_iff_counted (width : Nat) (t : Text) :
    (∃ out, format width t = .ok out) ↔ Counted 0 (codeLines t) ∧ endsInComment t = false := by
  rw [format_ok_iff, through_top_iff]
  rfl

/-- A point of a line, past the closing brackets it starts with, at which more brackets have been closed than opened. -/
def Overdraws (lines : List Text) : Prop :=
  ∃ before line after p, lines = before ++ line :: after ∧ leadOf line <+: p ∧ p <+: marks line ∧
    opened (marksOf before ++ p) < closed (marksOf before ++ p)

theorem leads_in_line {lines : List Text} {p : Text} (leads : p <+: marksOf lines) :
    p = [] ∨ ∃ before line after q, lines = before ++ line :: after ∧ q <+: marks line ∧ p = marksOf before ++ q := by
  induction lines generalizing p with
  | nil => exact Or.inl (List.prefix_nil.mp leads)
  | cons line rest ih =>
    have parts : marksOf (line :: rest) = marks line ++ marksOf rest := List.flatMap_cons
    rw [parts] at leads
    rcases List.prefix_or_prefix_of_prefix leads (List.prefix_append _ _) with inside | ⟨q, rfl⟩
    · exact Or.inr ⟨[], line, rest, p, rfl, inside, rfl⟩
    · rcases ih ((List.prefix_append_right_inj _).mp leads) with rfl | ⟨before, line', after, q, rfl, inside, rfl⟩
      · exact Or.inr ⟨[], line, rest, marks line, rfl, List.prefix_rfl, by simp [marksOf]⟩
      · exact Or.inr ⟨line :: before, line', after, q, rfl, inside, by simp [marksOf]⟩

theorem Checkpoint.after {line : Text} {rest : List Text} {p : Text} (point : Checkpoint (line :: rest) p)
    (before : List Text) : Checkpoint (before ++ line :: rest) (marksOf before ++ p) := by
  induction before with
  | nil => exact point
  | cons other before ih =>
    rw [marksOf, List.flatMap_cons, List.append_assoc]
    exact .later other ih

/-- Up to the closing brackets that a line starts with, the point after them is the worst one. -/
theorem counted_in_lead {lines before after : List Text} {line p : Text} (counted : Counted 0 lines)
    (split : lines = before ++ line :: after) (inside : p <+: leadOf line) :
    closed (marksOf before ++ p) ≤ opened (marksOf before ++ p) := by
  subst split
  have lead := counted.never _ ((Checkpoint.lead line after).after before)
  have none := (lead_counts line).1
  have fewer : closed p ≤ closed (leadOf line) := inside.sublist.countP_le
  rw [closed_append, opened_append] at lead ⊢
  omega

theorem matched_iff (width : Nat) (t : Text) :
    Matched t ↔ (∃ out, format width t = .ok out) ∧ ¬ Overdraws (codeLines t) := by
  rw [accepted_iff_counted]
  constructor
  · intro matched
    refine ⟨⟨⟨fun p point => ?_, ?_⟩, matched.uncommented⟩, ?_⟩
    · rw [Nat.zero_add]
      exact matched.never p (checkpoint_leads point)
    · rw [Nat.zero_add]
      exact matched.total
    · rintro ⟨before, line, after, p, split, -, inside, overdrawn⟩
      have leads : marksOf before ++ p <+: marksOf (codeLines t) := by
        rw [split, marksOf, marksOf, List.flatMap_append, List.flatMap_cons, List.prefix_append_right_inj]
        exact inside.trans (List.prefix_append _ _)
      have kept := matched.never _ leads
      omega
  · rintro ⟨⟨counted, uncommented⟩, kept⟩
    refine ⟨fun p leads => ?_, by rw [counted.total, Nat.zero_add], uncommented⟩
    rcases leads_in_line leads with rfl | ⟨before, line, after, q, split, inside, rfl⟩
    · exact Nat.le_refl 0
    -- Before the end of the line's lead the count of the lead decides, and after it nothing is overdrawn.
    · have lead : leadOf line <+: marks line := by
        rw [marks_lead]
        exact List.prefix_append _ _
      rcases List.prefix_or_prefix_of_prefix inside lead with early | late
      · exact counted_in_lead counted split early
      · exact Nat.le_of_not_lt fun more => kept ⟨before, line, after, q, split, late, inside, more⟩

/-- A line that closes first what was open before it, and then only what it has opened itself. -/
def ClosesFirst (line : Text) : Prop := ∀ p, p <+: marks (line.dropWhile isClosing) → closed p ≤ opened p

theorem closes_first_keeps {lines : List Text} (counted : Counted 0 lines) (first : ∀ line ∈ lines, ClosesFirst line) :
    ¬ Overdraws lines := by
  rintro ⟨before, line, after, p, split, ⟨q, rfl⟩, inside, overdrawn⟩
  have lead := counted_in_lead counted split List.prefix_rfl
  rw [marks_lead, List.prefix_append_right_inj] at inside
  have own := first line (by simp [split]) q inside
  rw [← List.append_assoc, closed_append, opened_append] at overdrawn
  omega

/-- A text is accepted exactly if, where its brackets are counted, never more of them have been closed than opened, in the
end as many, and every comment is closed; otherwise there is an error of the layout. It is balanced exactly if it is accepted
and no line closes too much between these points. Where every line closes first what was open before it, acceptance
and balance are the same. -/
theorem accepted_iff_matched_at_checkpoints (width : Nat) (t : Text) :
    ((∃ out, format width t = .ok out) ↔
      (∀ p, Checkpoint (codeLines t) p → closed p ≤ opened p) ∧
        closed (marksOf (codeLines t)) = opened (marksOf (codeLines t)) ∧ endsInComment t = false) ∧
    ((¬ ∃ out, format width t = .ok out) ↔
      ∃ e, format width t = .error e ∧ (ApiTypes.Error.layout e).kind = .format) ∧
    (Matched t ↔ (∃ out, format width t = .ok out) ∧ ¬ Overdraws (codeLines t)) ∧
    ((∀ line ∈ codeLines t, ClosesFirst line) → ((∃ out, format width t = .ok out) ↔ Matched t)) := by
  refine ⟨?_, ?_, matched_iff width t, ?_⟩
  · rw [accepted_iff_counted]
    constructor
    · rintro ⟨⟨never, total⟩, uncommented⟩
      rw [Nat.zero_add] at total
      exact ⟨fun p point => by simpa using never p point, total, uncommented⟩
    · rintro ⟨never, total, uncommented⟩
      exact ⟨⟨fun p point => by simpa using never p point, by rw [total, Nat.zero_add]⟩, uncommented⟩
  · cases ran : format width t with
    | ok out => simp
    | error e => simp [ApiTypes.Error.kind]
  · intro first
    rw [matched_iff width t]
    constructor
    · intro accepted
      exact ⟨accepted, closes_first_keeps ((accepted_iff_counted width t).mp accepted).1 first⟩
    · exact And.left

def crossedText : Text := "a \x7d \x7b".toList

theorem crossed_line_is_accepted : format 2 crossedText = .ok "a \x7d \x7b\n".toList ∧ ¬ Matched crossedText := by
  refine ⟨by rfl, fun matched => ?_⟩
  have kept := matched.never ['\x7d'] (by decide)
  exact absurd kept (by decide)

end ApiTypes.Layout
