import ApiTypes.Declaration.Comment
import ApiTypes.Proofs.Text
/-!
Block comments from inside: no line of one holds the mark that would end it, and every line starts with a star
under that of the opening.
-/
namespace ApiTypes.Comment

def close : Text := ['*', '/']

def disarmed : Text := ['*', '\\', '/']

def looseStar : Text := [' ', '*', ' ', '\n']

def tightStar : Text := [' ', '*', '\n']

theorem disarm_mark (t : Text) :
    Text.replaceFrom close disarmed 0 ('*' :: '/' :: t) = disarmed ++ Text.replaceFrom close disarmed 0 t :=
  Text.replace_occurrence ['/'] disarmed '*' t

/- A slash at the front of the result was one at the front of the text, so none comes up behind a star. -/
theorem disarm_head {t : Text} (slash : (Text.replaceFrom close disarmed 0 t).head? = some '/') :
    t.head? = some '/' := by
  cases t with
  | nil => simp [Text.replaceFrom] at slash
  | cons c t =>
    by_cases mark : close <+: c :: t
    · obtain ⟨rest, eq⟩ := mark
      have shape : c :: t = '*' :: '/' :: rest := eq.symm
      rw [shape, disarm_mark] at slash
      simp [disarmed] at slash
    · rw [Text.replace_other disarmed mark] at slash
      simpa using slash

theorem disarm_open (t : Text) : ¬ close <:+: Text.replaceFrom close disarmed 0 t := by
  -- A mark is taken as a whole, so the rest may be shorter by two characters.
  induction h : t.length using Nat.strongRecOn generalizing t with
  | ind n ih =>
    cases t with
    | nil => simp [Text.replaceFrom, close]
    | cons c t =>
      by_cases mark : close <+: c :: t
      · obtain ⟨rest, eq⟩ := mark
        have shape : c :: t = '*' :: '/' :: rest := eq.symm
        rw [shape] at h ⊢
        rw [disarm_mark]
        have inner := ih rest.length (by simp at h; omega) rest rfl
        exact Text.pair_not_across (by decide) inner (fun last => absurd last (by decide))
      · rw [Text.replace_other disarmed mark]
        have inner := ih t.length (by simp at h; omega) t rfl
        apply Text.pair_not_across (s := [c]) (by simp [List.infix_cons_iff, List.cons_prefix_cons]) inner
        intro star slash
        have head := disarm_head slash
        cases t with
        | nil => simp at head
        | cons d t =>
          simp only [List.getLast?_singleton, Option.some.injEq, List.head?_cons] at star head
          subst c d
          exact mark (List.prefix_append close t)

theorem comment_lines_open {t l : Text} (mem : l ∈ lines t) : ¬ close <:+: l ∧ '\n' ∉ l := by
  refine ⟨fun inside => ?_, Text.lines_no_feed mem⟩
  exact disarm_open t (inside.trans (Text.lines_infix mem))

/-! ### One line -/

/- The piece ends in a line feed, and the only line feed is the last character: it can only stand at the end. -/
theorem tighten_line {u : Text} (single : '\n' ∉ u) :
    ∃ y, Text.replace looseStar tightStar (u ++ ['\n']) = y ++ ['\n'] ∧
      (y = u ∨ ∃ x, u = x ++ " * ".toList ∧ y = x ++ " *".toList) := by
  unfold Text.replace
  induction u with
  | nil => exact ⟨[], by decide, Or.inl rfl⟩
  | cons c u ih =>
    have single' : '\n' ∉ u := fun inside => single (List.mem_cons_of_mem c inside)
    by_cases loose : looseStar <+: c :: (u ++ ['\n'])
    · obtain ⟨rest, eq⟩ := loose
      have shape : c :: u = " * ".toList := by
        match u, eq with
        | [], eq => simp [looseStar] at eq
        | [_], eq => simp [looseStar] at eq
        | [d, e], eq =>
          simp only [looseStar, List.cons_append, List.nil_append, List.cons.injEq] at eq
          obtain ⟨rfl, rfl, rfl, -⟩ := eq
          rfl
        | d :: e :: f :: u, eq =>
          simp only [looseStar, List.cons_append, List.cons.injEq] at eq
          obtain ⟨-, -, -, rfl, -⟩ := eq
          exact absurd (by simp) single
      refine ⟨" *".toList, ?_, Or.inr ⟨[], shape, rfl⟩⟩
      rw [shape]
      decide
    · obtain ⟨y, run, shape⟩ := ih single'
      refine ⟨c :: y, by rw [List.cons_append, Text.replace_other tightStar loose, run, List.cons_append], ?_⟩
      rcases shape with same | ⟨x, before, after⟩
      · exact Or.inl (by rw [same])
      · exact Or.inr ⟨c :: x, by rw [before]; rfl, by rw [after]; rfl⟩

theorem line_shape {l : Text} (single : '\n' ∉ l) :
    ∃ y, line l = y ++ ['\n'] ∧ " *".toList <+: y ∧ y <+: " * ".toList ++ l := by
  have clean : '\n' ∉ " * ".toList ++ l := by simp [single]
  obtain ⟨y, run, shape⟩ := tighten_line clean
  refine ⟨y, run, ?_⟩
  rcases shape with same | ⟨x, before, after⟩
  · rw [same]
    exact ⟨⟨' ' :: l, rfl⟩, List.prefix_refl _⟩
  · rw [before, after]
    constructor
    · have star : " *".toList <+: x ++ " * ".toList := before ▸ ⟨' ' :: l, rfl⟩
      match x, star with
      | [], _ => exact List.prefix_refl _
      | [c], star => simp [List.cons_prefix_cons] at star
      | c :: d :: x, star =>
        simp only [List.cons_append] at star ⊢
        exact List.cons_prefix_cons.mpr ⟨(List.cons_prefix_cons.mp star).1,
          List.cons_prefix_cons.mpr ⟨(List.cons_prefix_cons.mp (List.cons_prefix_cons.mp star).2).1, List.nil_prefix⟩⟩
    · exact ⟨[' '], by simp⟩

/-- A line inside a comment starts under the star of the opening, and does not end the comment. -/
structure Row (row : Text) : Prop where
  star : " *".toList <+: row
  single : '\n' ∉ row
  unclosed : ¬ close <:+: row

theorem line_row {t l : Text} (mem : l ∈ lines t) : ∃ row, line l = row ++ ['\n'] ∧ Row row := by
  obtain ⟨unclosed, single⟩ := comment_lines_open mem
  obtain ⟨row, eq, star, within⟩ := line_shape single
  refine ⟨row, eq, star, ?_, ?_⟩
  · intro feed
    have := within.subset feed
    simp [single] at this
  · intro inside
    exact Text.pair_not_across (by decide) unclosed (fun last => absurd last (by decide)) (inside.trans within.isInfix)

theorem inner_rows {motive : Text → Prop} (t : Text) (nothing : motive [])
    (append : ∀ {s u}, motive s → motive u → motive (s ++ u)) (each : ∀ {row}, Row row → motive (row ++ ['\n'])) :
    motive ((lines t).flatMap line) := by
  suffices part : ∀ ls : List Text, (∀ l ∈ ls, l ∈ lines t) → motive (ls.flatMap line) from part _ fun _ mem => mem
  intro ls within
  induction ls with
  | nil => exact nothing
  | cons l ls ih =>
    obtain ⟨own, later⟩ := List.forall_mem_cons.mp within
    obtain ⟨row, eq, inside⟩ := line_row own
    rw [List.flatMap_cons, eq]
    exact append (each inside) (ih later)

end ApiTypes.Comment
