import Mathlib.Data.List.Forall2
import ApiTypes.Declaration.Table
import ApiTypes.Proofs.Layout.Level
import ApiTypes.Proofs.Layout.Stable
/-!
Layouts of texts that follow one another. A text that is accepted ends outside brackets and comments, so nothing of it
reaches the text after it but that a blank line between the two is kept. Declarations can therefore be laid out one by
one or together.
-/
namespace ApiTypes.Layout

/-! ### One run after another -/

/- The number of a line is named in errors only. -/
theorem lines_from_anywhere {width number : Nat} {s : State} {raws outs : List Text}
    (laidOut : linesFrom width number s raws = .ok outs) (number' : Nat) : linesFrom width number' s raws = .ok outs := by
  induction raws generalizing number s outs number' with
  | nil => exact laidOut
  | cons raw rest ih =>
    rcases lines_from_cases laidOut with ⟨blank, later⟩ | ⟨shown, line, next, lines, placed, later, rfl⟩
    · rw [lines_from_blank blank]
      exact ih later (number' + 1)
    · exact lines_from_placed shown placed (ih later (number' + 1))

def State.parted : State := ⟨0, false, true, true⟩

theorem after_blank_top {s : State} (top : s.level = .top) (begun : s.started = true) : afterBlank s = .parted := by
  obtain ⟨depth, inComment, started, blankDue⟩ := s
  simp only [State.level, Level.top, Level.mk.injEq] at top
  obtain ⟨rfl, rfl⟩ := top
  subst begun
  rfl

/-- Lines that are accepted end outside brackets and comments, and what comes after them is laid out from there. -/
theorem lines_from_append {width number : Nat} {s : State} {raws outs : List Text}
    (laidOut : linesFrom width number s raws = .ok outs) :
    ∃ last, last.level = .top ∧ (s.started = true ∨ shownLines raws ≠ [] → last.started = true) ∧
      ∀ more lines, linesFrom width 1 last more = .ok lines →
        linesFrom width number s (raws ++ more) = .ok (outs ++ lines) := by
  induction raws generalizing number s outs with
  | nil =>
    refine ⟨s, (finish_ok_iff s).mp ⟨outs, laidOut⟩, ?_, ?_⟩
    · rintro (begun | shown)
      · exact begun
      · exact absurd rfl shown
    · intro more lines ran
      rw [finish_lines laidOut]
      exact lines_from_anywhere ran number
  | cons raw rest ih =>
    rcases lines_from_cases laidOut with ⟨blank, later⟩ | ⟨shown, line, next, lines, placed, later, rfl⟩
    · obtain ⟨last, top, begun, goesOn⟩ := ih later
      refine ⟨last, top, ?_, ?_⟩
      · have same : shownLines (raw :: rest) = shownLines rest := by simp [shownLines, blank]
        rw [same]
        exact begun
      · intro more lines ran
        rw [List.cons_append, lines_from_blank blank]
        exact goesOn more lines ran
    · obtain ⟨last, top, begun, goesOn⟩ := ih later
      refine ⟨last, top, fun _ => begun (Or.inl (place_begins placed)), ?_⟩
      intro more after ran
      rw [List.cons_append, lines_from_placed shown placed (goesOn more after ran), List.append_assoc, List.cons_append]

/-- After a gap the same lines come out as at the start, with a blank line before them. -/
theorem lines_from_parted {width number : Nat} {raws outs : List Text}
    (laidOut : linesFrom width number .initial raws = .ok outs) (some : shownLines raws ≠ []) :
    linesFrom width number .parted raws = .ok ([] :: outs) := by
  induction raws generalizing number outs with
  | nil => exact absurd rfl some
  | cons raw rest ih =>
    rcases lines_from_cases laidOut with ⟨blank, later⟩ | ⟨shown, line, next, lines, placed, later, rfl⟩
    · have same : shownLines (raw :: rest) = shownLines rest := by simp [shownLines, blank]
      rw [same] at some
      rw [lines_from_blank blank]
      exact ih later some
    · exact lines_from_placed (s := .parted) shown placed later

/-! ### One text after another -/

theorem format_of_lines {width : Nat} {t : Text} {outs : List Text}
    (ran : linesFrom width 1 .initial (Text.lines t) = .ok outs) :
    format width t = .ok (Text.joinWith ['\n'] outs ++ ['\n']) := by
  rw [format, ran]
  rfl

theorem lines_parted {t : Text} (ends : t.getLast? = some '\n') (u : Text) :
    Text.lines (t ++ ['\n'] ++ u) = Text.lines t ++ [] :: Text.lines u := by
  obtain ⟨body, rfl⟩ := List.getLast?_eq_some_iff.mp ends
  rw [List.append_assoc, List.append_assoc, List.singleton_append, List.singleton_append, Text.lines_append]
  rfl

theorem shown_parted {t : Text} (ends : t.getLast? = some '\n') (u : Text) :
    shownLines (Text.lines (t ++ ['\n'] ++ u)) = shownLines (Text.lines t) ++ shownLines (Text.lines u) := by
  have empty : Text.trim [] = [] := rfl
  rw [lines_parted ends]
  simp [shownLines, empty]

theorem lines_nonempty {width number : Nat} {s : State} {raws outs : List Text}
    (laidOut : linesFrom width number s raws = .ok outs) (some : shownLines raws ≠ []) : outs ≠ [] := by
  rintro rfl
  rw [← lines_keep_shown laidOut] at some
  exact some rfl

theorem format_parted {width : Nat} {t u f g : Text} (ends : t.getLast? = some '\n')
    (someLeft : shownLines (Text.lines t) ≠ []) (someRight : shownLines (Text.lines u) ≠ [])
    (left : format width t = .ok f) (right : format width u = .ok g) :
    format width (t ++ ['\n'] ++ u) = .ok (f ++ ['\n'] ++ g) := by
  obtain ⟨fs, ranLeft, rfl, -⟩ := format_lines left
  obtain ⟨gs, ranRight, rfl, -⟩ := format_lines right
  obtain ⟨last, top, begun, goesOn⟩ := lines_from_append ranLeft
  have second : linesFrom width 1 last ([] :: Text.lines u) = .ok ([] :: gs) := by
    rw [lines_from_blank rfl, after_blank_top top (begun (Or.inr someLeft))]
    exact lines_from_anywhere (lines_from_parted ranRight someRight) 2
  have both : linesFrom width 1 .initial (Text.lines (t ++ ['\n'] ++ u)) = .ok (fs ++ [] :: gs) := by
    rw [lines_parted ends]
    exact goesOn _ _ second
  have fsSome := lines_nonempty ranLeft someLeft
  have gsSome := lines_nonempty ranRight someRight
  have gapped : Text.joinWith ['\n'] ([] :: gs) = ['\n'] ++ Text.joinWith ['\n'] gs := by
    cases gs with
    | nil => exact absurd rfl gsSome
    | cons line lines => rfl
  rw [format_of_lines both, Text.join_with_append fsSome (by simp), gapped]
  simp

/-! ### Declarations -/

/-- A text that is laid out by itself and can be followed by another one. -/
structure Piece (width : Nat) (t f : Text) : Prop where
  ends : t.getLast? = some '\n'
  shown : shownLines (Text.lines t) ≠ []
  laidOut : format width t = .ok f

theorem pieces_joined {width : Nat} {ts fs : List Text} (pieces : List.Forall₂ (Piece width) ts fs) (some : ts ≠ []) :
    shownLines (Text.lines (Text.joinWith ['\n'] ts)) ≠ [] ∧
      format width (Text.joinWith ['\n'] ts) = .ok (Text.joinWith ['\n'] fs) := by
  induction pieces with
  | nil => exact absurd rfl some
  | @cons t f ts fs piece pieces ih =>
    cases pieces with
    | nil => exact ⟨piece.shown, piece.laidOut⟩
    | cons next later =>
      obtain ⟨shown, laidOut⟩ := ih (by simp)
      rw [Text.joinWith, Text.joinWith, shown_parted piece.ends]
      exact ⟨by simp [piece.shown], format_parted piece.ends piece.shown shown piece.laidOut laidOut⟩

theorem render_ends (d : Declaration) : d.render.getLast? = some '\n' := by
  obtain ⟨name, kind, body, comment, role⟩ := d
  cases kind <;> simp only [Declaration.render, List.getLast?_append] <;> rfl

theorem render_shown (d : Declaration) : shownLines (Text.lines d.render) ≠ [] := by
  have letter : 'e' ∈ d.render := by
    obtain ⟨name, kind, body, comment, role⟩ := d
    cases kind <;> simp [Declaration.render]
  obtain ⟨l, listed, inside⟩ := Text.lines_cover letter (by decide) (by decide)
  have kept : Text.trim l ≠ [] := List.ne_nil_of_mem (Text.trim_keeps inside rfl)
  have shown : Text.trim l ∈ shownLines (Text.lines d.render) := by
    simp only [shownLines, List.mem_filter]
    exact ⟨List.mem_map_of_mem listed, by simpa using kept⟩
  exact List.ne_nil_of_mem shown

/-- Texts that are separated by a blank line are laid out as each of them is. So are the declarations of a table and the
one they are hoisted out of. -/
theorem layouts_are_joined (width : Nat) :
    (∀ t u f g : Text, t.getLast? = some '\n' → shownLines (Text.lines t) ≠ [] → shownLines (Text.lines u) ≠ [] →
      format width t = .ok f → format width u = .ok g → format width (t ++ ['\n'] ++ u) = .ok (f ++ ['\n'] ++ g)) ∧
    (∀ (table : Declaration.Table) (root : Declaration) (texts : List Text),
      List.Forall₂ (fun d f => format width d.render = .ok f) (table.declarations ++ [root]) texts →
      format width (table.assemble root) = .ok (Text.joinWith ['\n'] texts)) := by
  constructor
  · intro t u f g ends someLeft someRight left right
    exact format_parted ends someLeft someRight left right
  · intro table root texts each
    have pieces : List.Forall₂ (Piece width) ((table.declarations ++ [root]).map Declaration.render) texts := by
      rw [List.forall₂_map_left_iff]
      exact each.imp fun d f laidOut => ⟨render_ends d, render_shown d, laidOut⟩
    exact (pieces_joined pieces (by simp)).2

def listText : Text := "type A = [\n1\n];\n \n".toList

def noteText : Text := "\n\n/* b\n* c */\ntype B = '\x7b'".toList

def crateItem : Declaration :=
  ⟨"CrateItem".toList, .interface, "\x7b\nid: number;\n\x7d".toList, some "One\nof them".toList, .nestedItem⟩

def crateRoot : Declaration := ⟨"Crate".toList, .typeAlias, "CrateItem[]".toList, none, .definition⟩

def crateItemLayout : Text :=
  "/**\n * One\n * of them\n */\nexport interface CrateItem \x7b\n  id: number;\n\x7d\n".toList

theorem crate_layouts_are_joined :
    format 2 (listText ++ ['\n'] ++ noteText) =
        .ok ("type A = [\n  1\n];\n".toList ++ ['\n'] ++ "/* b\n * c */\ntype B = '\x7b'\n".toList) ∧
      format 2 ((Declaration.Table.empty.insert crateItem).assemble crateRoot) =
        .ok (crateItemLayout ++ ['\n'] ++ "export type Crate = CrateItem[];\n".toList) := by
  obtain ⟨texts, tables⟩ := layouts_are_joined 2
  have list : format 2 listText = .ok "type A = [\n  1\n];\n".toList := by rfl
  have note : format 2 noteText = .ok "/* b\n * c */\ntype B = '\x7b'\n".toList := by rfl
  have item : format 2 crateItem.render = .ok crateItemLayout := by rfl
  have root : format 2 crateRoot.render = .ok "export type Crate = CrateItem[];\n".toList := by rfl
  have each : List.Forall₂ (fun (d : Declaration) f => format 2 d.render = .ok f) [crateItem, crateRoot]
      [crateItemLayout, "export type Crate = CrateItem[];\n".toList] := .cons item (.cons root .nil)
  exact ⟨texts _ _ _ _ rfl (by decide) (by decide) list note,
    tables (Declaration.Table.empty.insert crateItem) crateRoot _ each⟩

end ApiTypes.Layout
