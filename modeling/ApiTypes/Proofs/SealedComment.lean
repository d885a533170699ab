import ApiTypes.Layout
import ApiTypes.Proofs.Script.Scan
/-!
Nothing leaves a block comment before its last line: the mark that ends a comment occurs in it once, so neither who scans it
character by character nor who lays it out line by line takes the rest for code.
-/
namespace ApiTypes

/-! ### Rows of a text -/

namespace Text

def ofRows (rows : List Text) : Text := rows.flatMap (· ++ ['\n'])

theorem of_rows_cons (row : Text) (rows : List Text) : ofRows (row :: rows) = row ++ '\n' :: ofRows rows := by
  simp [ofRows]

theorem of_rows_append (rows more : List Text) : ofRows (rows ++ more) = ofRows rows ++ ofRows more :=
  List.flatMap_append

theorem split_rows {rows : List Text} (single : ∀ row ∈ rows, '\n' ∉ row) : splitAt '\n' (ofRows rows) = rows ++ [[]] := by
  induction rows with
  | nil => rfl
  | cons row rows ih =>
    obtain ⟨own, later⟩ := List.forall_mem_cons.mp single
    rw [of_rows_cons, split_at_append own, ih later, List.cons_append]

theorem lines_rows {rows : List Text} (single : ∀ row ∈ rows, '\n' ∉ row) : lines (ofRows rows) = rows.map dropReturn := by
  induction rows with
  | nil => rfl
  | cons row rows ih =>
    obtain ⟨own, later⟩ := List.forall_mem_cons.mp single
    rw [of_rows_cons, lines_feed own, ih later, List.map_cons]

end Text

namespace Comment

theorem block_rows (t : Text) :
    ∃ inner, (∀ row ∈ inner, Row row) ∧ block t = Text.ofRows ("/**".toList :: inner ++ [" */".toList]) := by
  have each : ∃ inner, (∀ row ∈ inner, Row row) ∧ (lines t).flatMap line = Text.ofRows inner := by
    refine inner_rows (motive := fun u => ∃ inner, (∀ row ∈ inner, Row row) ∧ u = Text.ofRows inner) t
      ⟨[], by simp, rfl⟩ ?_ ?_
    · rintro s u ⟨rows, first, rfl⟩ ⟨more, later, rfl⟩
      refine ⟨rows ++ more, fun row mem => ?_, (Text.of_rows_append rows more).symm⟩
      exact (List.mem_append.mp mem).elim (first row) (later row)
    · intro row inside
      exact ⟨[row], by simpa using inside, by simp [Text.ofRows]⟩
  obtain ⟨inner, rows, eq⟩ := each
  refine ⟨inner, rows, ?_⟩
  rw [block, eq, Text.of_rows_append, Text.of_rows_cons]
  simp [Text.ofRows]

theorem rows_single {inner : List Text} (rows : ∀ row ∈ inner, Row row) :
    ∀ row ∈ "/**".toList :: inner ++ [" */".toList], '\n' ∉ row := by
  intro row mem
  rcases List.mem_append.mp mem with front | last
  · rcases List.mem_cons.mp front with rfl | listed
    · decide
    · exact (rows row listed).single
  · rw [List.mem_singleton.mp last]
    decide

/- A row ends in a line feed, so a mark that is in none of the rows is not across two of them either. -/
theorem rows_unclosed {rows : List Text} (each : ∀ row ∈ rows, ¬ close <:+: row) {rest : Text} (unclosed : ¬ close <:+: rest) :
    ¬ close <:+: Text.ofRows rows ++ rest := by
  induction rows with
  | nil => exact unclosed
  | cons row rows ih =>
    obtain ⟨own, later⟩ := List.forall_mem_cons.mp each
    have ended : ¬ close <:+: row ++ ['\n'] := Text.pair_not_across own (by decide) fun _ => by decide
    have shape : Text.ofRows (row :: rows) ++ rest = (row ++ ['\n']) ++ (Text.ofRows rows ++ rest) := by
      simp [Text.of_rows_cons]
    rw [shape]
    exact Text.pair_not_across ended (ih later) fun last => by simp at last

theorem block_body (t : Text) : ∃ body, block t = "/*".toList ++ body ++ "*/\n".toList ∧
    ¬ close <:+: "/*".toList ++ body ++ ['*'] := by
  obtain ⟨inner, rows, eq⟩ := block_rows t
  refine ⟨"*\n".toList ++ Text.ofRows inner ++ [' '], ?_, ?_⟩
  · rw [eq]
    simp [Text.ofRows]
  · have all : ∀ row ∈ "/**".toList :: inner, ¬ close <:+: row :=
      List.forall_mem_cons.mpr ⟨by decide, fun row mem => (rows row mem).unclosed⟩
    have starOnly : ¬ close <:+: " *".toList := by decide
    have unclosed := rows_unclosed all starOnly
    rw [Text.of_rows_cons] at unclosed
    simpa using unclosed

theorem close_last {body before after : Text} (unclosed : ¬ close <:+: body ++ ['*'])
    (same : body ++ "*/\n".toList = before ++ close ++ after) : after = ['\n'] := by
  -- Behind the mark there is one character: with none the text ends in another way, with two the mark is too early.
  rcases List.eq_nil_or_concat after with rfl | ⟨rest, c, rfl⟩
  · have last := congrArg List.getLast? same
    simp [close] at last
  · rcases List.eq_nil_or_concat rest with rfl | ⟨more, d, rfl⟩
    · have last := congrArg List.getLast? same
      simpa using last.symm
    · have cut : body ++ ['*'] ++ ['/', '\n'] = before ++ close ++ more ++ [d, c] := by simpa using same
      have inner := (List.append_inj' cut rfl).1
      exact absurd ⟨before, more, inner.symm⟩ unclosed

end Comment

/-! ### Scanning -/

namespace Script

def modeAfter? (mode : Mode) : Text → Option Mode
  | [] => some mode
  | c :: rest => (step? mode c).bind fun (next, _) => modeAfter? next rest

theorem mode_after_append (mode : Mode) (t u : Text) :
    modeAfter? mode (t ++ u) = (modeAfter? mode t).bind (modeAfter? · u) := by
  induction t generalizing mode with
  | nil => rfl
  | cons c t ih =>
    simp only [List.cons_append, modeAfter?]
    cases step? mode c with
    | none => rfl
    | some next => exact ih next.1

theorem comment_mode (star : Bool) {t : Text} (unclosed : ¬ Comment.close <:+: t) (seam : star = true → t.head? ≠ some '/') :
    ∃ last, modeAfter? (.comment star) t = some (.comment last) := by
  induction t generalizing star with
  | nil => exact ⟨star, rfl⟩
  | cons c t ih =>
    obtain ⟨step, unclosed', seam'⟩ := comment_step unclosed (by simpa using seam)
    rw [modeAfter?, step]
    exact ih _ unclosed' seam'

theorem block_mode {t p : Text} (leads : p <+: Comment.block t) (opened : 2 ≤ p.length)
    (unended : p.length + 2 ≤ (Comment.block t).length) : ∃ star, modeAfter? .between p = some (.comment star) := by
  obtain ⟨body, eq, unclosed⟩ := Comment.block_body t
  have shape : Comment.block t = "/*".toList ++ body ++ ['*'] ++ ['/', '\n'] := by simp [eq]
  have within : p <+: "/*".toList ++ body ++ ['*'] := by
    rw [shape] at leads unended
    refine List.prefix_of_prefix_length_le leads (List.prefix_append _ _) ?_
    rw [List.length_append] at unended
    exact Nat.le_of_add_le_add_right unended
  match p, opened, within with
  | c :: d :: q, _, within =>
    have first : c = '/' ∧ d = '*' ∧ q <+: body ++ ['*'] := by simpa [List.cons_prefix_cons] using within
    obtain ⟨rfl, rfl, -⟩ := first
    have inner : ¬ Comment.close <:+: q := fun mark =>
      unclosed ((mark.trans (List.suffix_append ['/', '*'] q).isInfix).trans within.isInfix)
    exact comment_mode false inner (by simp)

theorem block_mode_end (t : Text) : modeAfter? .between (Comment.block t) = some .between := by
  obtain ⟨body, eq, unclosed⟩ := Comment.block_body t
  have inner : ¬ Comment.close <:+: body := fun mark =>
    unclosed (mark.trans ⟨['/', '*'], ['*'], rfl⟩)
  obtain ⟨star, mode⟩ := comment_mode false inner (by simp)
  have start : modeAfter? .between ("/*".toList ++ body) = some (.comment star) := mode
  rw [eq, mode_after_append, start]
  cases star <;> rfl

end Script

/-! ### Layout -/

namespace Layout

/-- After some lines the layout goes on in another state, whatever lines come. -/
def Arrives (width : Nat) (s : State) (ls : List Text) (next : State) : Prop :=
  ∀ number, ∃ out, ∀ rest,
    linesFrom width number s (ls ++ rest) = (linesFrom width (number + ls.length) next rest).map (out ++ ·)

namespace Arrives

variable {width : Nat} {s next last : State}

theorem trans {ls more : List Text} (first : Arrives width s ls next) (later : Arrives width next more last) :
    Arrives width s (ls ++ more) last := by
  intro number
  obtain ⟨out, run⟩ := first number
  obtain ⟨out', run'⟩ := later (number + ls.length)
  refine ⟨out ++ out', fun rest => ?_⟩
  rw [List.append_assoc, run, run', List.length_append, Nat.add_assoc]
  cases linesFrom width _ last rest <;> simp [Except.map]

theorem line {raw : Text} (shown : Text) (nonempty : (Text.trim raw).isEmpty = false)
    (placed : place width s (Text.trim raw) = some (shown, next)) : Arrives width s [raw] next := by
  intro number
  refine ⟨(if s.blankDue then [[]] else []) ++ [shown], fun rest => ?_⟩
  simp only [List.singleton_append, linesFrom, nonempty, Bool.false_eq_true, if_false, placed, List.length_singleton]
  cases linesFrom width (number + 1) next rest <;> simp [Except.map, bind, Except.bind, pure, Except.pure]

end Arrives

/-- A line inside a comment does not end it, whatever brackets it has. -/
theorem row_arrives {row : Text} (inside : Comment.Row row) (width depth : Nat) :
    Arrives width ⟨depth, true, true, false⟩ [Text.dropReturn row] ⟨depth, true, true, false⟩ := by
  have unclosed : Text.includes "*/".toList (Text.trim row) = false := by
    rw [Text.not_includes_iff]
    exact fun mark => inside.unclosed (mark.trans (Text.trim_infix row))
  have nonempty : (Text.trim row).isEmpty = false := by
    have star : '*' ∈ Text.trim row := Text.trim_keeps (inside.star.subset (by decide)) (by decide)
    exact List.isEmpty_eq_false_iff_exists_mem.mpr ⟨'*', star⟩
  refine .line (indent width depth ++ alignStar (Text.trim row)) ?_ ?_
  · rwa [Text.trim_drop_return]
  · rw [Text.trim_drop_return, place, Bool.true_or, if_pos rfl, unclosed]
    rfl

theorem rows_arrive {rows : List Text} (inside : ∀ row ∈ rows, Comment.Row row) (width depth : Nat) :
    Arrives width ⟨depth, true, true, false⟩ (rows.map Text.dropReturn) ⟨depth, true, true, false⟩ := by
  induction rows with
  | nil =>
    intro number
    refine ⟨[], fun rest => ?_⟩
    simp only [List.map_nil, List.nil_append, List.length_nil, Nat.add_zero]
    cases linesFrom width number _ rest <;> rfl
  | cons row rows ih =>
    obtain ⟨own, later⟩ := List.forall_mem_cons.mp inside
    exact (row_arrives own width depth).trans (ih later)

theorem block_arrives {t : Text} {s : State} {ls more : List Text} (code : s.inComment = false)
    (cut : Text.lines (Comment.block t) = ls ++ more) (begun : ls ≠ []) (width : Nat) :
    Arrives width s ls ⟨s.depth, !more.isEmpty, true, false⟩ := by
  obtain ⟨inner, rows, eq⟩ := Comment.block_rows t
  have lines : Text.lines (Comment.block t) = "/**".toList :: inner.map Text.dropReturn ++ [" */".toList] := by
    rw [eq, Text.lines_rows (Comment.rows_single rows), List.map_append]
    rfl
  have opening : Arrives width s ["/**".toList] ⟨s.depth, true, true, false⟩ := by
    refine .line (indent width s.depth ++ "/**".toList) rfl ?_
    rw [place, code]
    rfl
  have closing : Arrives width ⟨s.depth, true, true, false⟩ [" */".toList] ⟨s.depth, false, true, false⟩ :=
    .line (indent width s.depth ++ " */".toList) rfl rfl
  rw [lines] at cut
  match ls, begun with
  | first :: ls, _ =>
    rw [List.cons_append, List.cons_append, List.cons.injEq] at cut
    obtain ⟨rfl, rest⟩ := cut
    have leads : ls <+: inner.map Text.dropReturn ++ [" */".toList] := ⟨more, rest.symm⟩
    rcases List.prefix_concat_iff.mp leads with all | ⟨later, split⟩
    · have done : more = [] := by
        rw [all] at rest
        simpa using rest
      rw [all, done]
      exact (opening.trans (rows_arrive rows width s.depth)).trans closing
    · have left : more.isEmpty = false := by
        rw [← split, List.append_assoc] at rest
        rw [← List.append_cancel_left rest]
        simp
      rw [left]
      obtain ⟨first, second, eq, front, -⟩ := List.map_eq_append_iff.mp split.symm
      rw [← front]
      exact opening.trans (rows_arrive (fun row mem => rows row (by simp [eq, mem])) width s.depth)

end Layout

/-- A block comment holds any text. It starts with the opening on a line of its own, each line after that starts with a star,
and the mark that ends it occurs once, in the last line. A scanner that has read the opening stays in the comment up to this
mark, and so does the layout up to this line, at any depth. -/
theorem Comment.block_holds_any_text (t : Text) :
    (∃ inner, Text.splitAt '\n' (block t) = "/**".toList :: inner ++ [" */".toList, []] ∧ ∀ row ∈ inner, " *".toList <+: row) ∧
    (∃ body, ∀ before after, block t = before ++ "*/".toList ++ after ↔ before = body ∧ after = ['\n']) ∧
    (∀ p, p <+: block t → 2 ≤ p.length → p.length + 2 ≤ (block t).length →
      ∃ star, Script.modeAfter? .between p = some (.comment star)) ∧
    Script.modeAfter? .between (block t) = some .between ∧
    ∀ (width : Nat) (s : Layout.State), s.inComment = false → ∀ ls more, Text.lines (block t) = ls ++ more → ls ≠ [] →
      Layout.Arrives width s ls ⟨s.depth, !more.isEmpty, true, false⟩ := by
  refine ⟨?rows, ?once, ?scanned, Script.block_mode_end t, ?laidOut⟩
  case rows =>
    obtain ⟨inner, rows, eq⟩ := block_rows t
    refine ⟨inner, ?_, fun row mem => (rows row mem).star⟩
    rw [eq, Text.split_rows (rows_single rows), List.append_assoc]
    rfl
  case once =>
    obtain ⟨body, eq, unclosed⟩ := block_body t
    refine ⟨"/*".toList ++ body, fun before after => ⟨fun same => ?_, ?_⟩⟩
    · have last := close_last unclosed (eq ▸ same)
      have whole : "/*".toList ++ body ++ "*/\n".toList = before ++ "*/\n".toList := by
        rw [← eq, same, last, List.append_assoc]
        rfl
      exact ⟨(List.append_cancel_right whole).symm, last⟩
    · rintro ⟨rfl, rfl⟩
      rw [eq, List.append_assoc _ "*/".toList]
      rfl
  case scanned =>
    intro p leads opened unended
    exact Script.block_mode leads opened unended
  case laidOut =>
    intro width s code ls more cut begun
    exact Layout.block_arrives code cut begun width

example : Comment.block "**/ a\r\n\n/* * ".toList = "/**\n * **\\/ a\n *\n * /* *\n */\n".toList := by decide

end ApiTypes
