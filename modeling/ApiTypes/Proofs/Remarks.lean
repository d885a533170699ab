import ApiTypes.Proofs.Exports
/-!
Reading generated texts line by line. Each line that declares something, be it a member or a whole declaration, is read with
the comment above it and with the number of records that it stands in. Texts are put together of pieces, and what is read
in a text is what is read in its pieces, one after the other.
-/
namespace ApiTypes

open Text (Solid isBlank trim)
open Layout (Plain shownLines)

def Comment.shown (t : Text) : List Text := shownLines (Text.lines (block t))

/-- What a line declares, with the number of records that it stands in and the lines of the comment above it. -/
structure Remark where
  depth : Nat
  subject : Text
  comment : Option (List Text)
deriving DecidableEq, Repr

theorem Text.trim_shown {t : Text} {c e : Char} (first : t.head? = some c) (last : t.getLast? = some e)
    (shownFirst : isBlank c = false) (shownLast : isBlank e = false) : trim t = t := by
  obtain ⟨w, trimmed, leads⟩ := trim_keeps_lead first last shownFirst shownLast []
  rwa [List.prefix_nil.mp leads, List.append_nil] at trimmed

namespace Remarks

/-! ### Reading -/

def literalFrom : (escaped : Bool) → Text → Text
  | _, [] => []
  | true, c :: t => c :: literalFrom false t
  | false, c :: t => if c == '"' then [c] else c :: literalFrom (c == '\\') t

def keyOf (line : Text) : Text :=
  if line.head? == some '"' then '"' :: literalFrom false (line.drop 1) else line.takeWhile Record.isIdentifierPart

def subject (line : Text) : Text := (Exports.ofLine? line).getD (keyOf line)

def isOfComment (line : Text) : Bool := line.head? == some '/' || line.head? == some '*'

def isClosing (line : Text) : Bool := line.head? == some '}'

def commentOf (above : List Text) : Option (List Text) := if above.isEmpty then none else some above

def depthAfter (depth : Nat) (line : Text) : Nat := if line.getLast? == some '{' then depth + 1 else depth

/- `above` are the lines of a comment that have been read last. -/
def ofLines (depth : Nat) (above : List Text) : List Text → List Remark
  | [] => []
  | l :: ls =>
    if isOfComment l then ofLines depth (above ++ [l]) ls
    else if isClosing l then ofLines (depthAfter (depth - 1) l) [] ls
    else ⟨depth, subject l, commentOf above⟩ :: ofLines (depthAfter depth l) [] ls

def ofTextAt (depth : Nat) (above : List Text) (t : Text) : List Remark :=
  ofLines depth above (shownLines (Text.lines t))

def ofText (t : Text) : List Remark := ofTextAt 0 [] t

theorem at_line {l : Text} (single : '\n' ∉ l) (shown : trim l ≠ []) (depth : Nat) (above : List Text) (rest : Text) :
    ofTextAt depth above (l ++ '\n' :: rest) = ofLines depth above (trim l :: shownLines (Text.lines rest)) := by
  rw [ofTextAt, Text.lines_feed single, shownLines, List.map_cons, Text.trim_drop_return,
    List.filter_cons_of_pos (by simpa using shown)]
  rfl

theorem at_blank_line (depth : Nat) (above : List Text) (rest : Text) :
    ofTextAt depth above ('\n' :: rest) = ofTextAt depth above rest := by
  have lines := Text.lines_feed (l := []) (by simp) rest
  rw [List.nil_append] at lines
  rw [ofTextAt, lines]
  rfl

theorem at_closing {l : Text} {e : Char} (single : '\n' ∉ l) (closing : l.head? = some '}') (last : l.getLast? = some e)
    (shown : isBlank e = false) (depth : Nat) (above : List Text) (rest : Text) :
    ofTextAt (depth + 1) above (l ++ '\n' :: rest) = ofTextAt (if e == '{' then depth + 1 else depth) [] rest := by
  have whole := Text.trim_shown closing last (by decide) shown
  rw [at_line single (by rw [whole]; rintro rfl; simp at closing), whole, ofLines]
  have notComment : isOfComment l = false := by simp [isOfComment, closing]
  have closes : isClosing l = true := by simp [isClosing, closing]
  simp only [notComment, closes, Bool.false_eq_true, if_false, if_true, depthAfter, last, Nat.add_sub_cancel]
  simp only [Option.some_beq_some]
  rfl

/-! ### Comments -/

structure Above (t : Text) (ls : List Text) : Prop where
  shown : ∀ rest, shownLines (Text.lines (t ++ rest)) = ls ++ shownLines (Text.lines rest)
  marked : ∀ l ∈ ls, isOfComment l = true

theorem Above.append {t u : Text} {ks ls : List Text} (first : Above t ks) (second : Above u ls) :
    Above (t ++ u) (ks ++ ls) where
  shown rest := by rw [List.append_assoc, first.shown, second.shown, List.append_assoc]
  marked l mem := (List.mem_append.mp mem).elim (first.marked l) (second.marked l)

theorem Above.read {t : Text} {ls : List Text} (above : Above t ls) : shownLines (Text.lines t) = ls := by
  have shown := above.shown []
  rw [List.append_nil] at shown
  exact shown.trans (List.append_nil ls)

theorem above_nothing : Above [] [] := ⟨fun _ => rfl, by simp⟩

theorem above_line {l line : Text} (single : '\n' ∉ l) (trimmed : trim l = line) (marked : isOfComment line = true) :
    Above (l ++ ['\n']) [line] where
  shown rest := by
    have shown : line ≠ [] := by
      rintro rfl
      simp [isOfComment] at marked
    rw [List.append_assoc, List.singleton_append, Text.lines_feed single, shownLines, List.map_cons, Text.trim_drop_return,
      trimmed, List.filter_cons_of_pos (by simpa using shown)]
    rfl
  marked l mem := by rwa [List.mem_singleton.mp mem]

theorem above_star {l : Text} (star : " *".toList <+: l) (single : '\n' ∉ l) : ∃ line, Above (l ++ ['\n']) [line] := by
  obtain ⟨rest, rfl⟩ := star
  obtain ⟨w, trimmed, -⟩ := Text.trim_keeps_lead (t := ['*']) rfl rfl (by decide) (by decide) rest
  refine ⟨['*'] ++ w, above_line single ?_ rfl⟩
  have blank : [' '].all isBlank = true := by decide
  exact (Text.trim_blank_lead blank _).trans trimmed

theorem block_above (t : Text) : Above (Comment.block t) (Comment.shown t) ∧ Comment.shown t ≠ [] := by
  have inner : ∃ ks, Above ((Comment.lines t).flatMap Comment.line) ks := by
    refine Comment.inner_rows (motive := fun u => ∃ ks, Above u ks) t ⟨[], above_nothing⟩ ?_ ?_
    · rintro s u ⟨ks, first⟩ ⟨ls, later⟩
      exact ⟨ks ++ ls, first.append later⟩
    · intro row inside
      obtain ⟨line, above⟩ := above_star inside.star inside.single
      exact ⟨[line], above⟩
  obtain ⟨ks, lines⟩ := inner
  have opening : Above "/**\n".toList ["/**".toList] := above_line (l := "/**".toList) (by decide) (by rfl) rfl
  have closing : Above " */\n".toList ["*/".toList] := above_line (l := " */".toList) (by decide) (by rfl) rfl
  have all := (opening.append lines).append closing
  rw [Comment.shown, Comment.block, all.read]
  exact ⟨all, by simp⟩

theorem at_comment {t : Text} {ls : List Text} (comment : Above t ls) (depth : Nat) (above : List Text) (rest : Text) :
    ofTextAt depth above (t ++ rest) = ofTextAt depth (above ++ ls) rest := by
  have lines : ∀ ks, (∀ k ∈ ks, isOfComment k = true) → ∀ above later,
      ofLines depth above (ks ++ later) = ofLines depth (above ++ ks) later := by
    intro ks marked
    induction ks with
    | nil => simp
    | cons k ks ih =>
      intro above later
      obtain ⟨first, others⟩ := List.forall_mem_cons.mp marked
      rw [List.cons_append, ofLines, if_pos first, ih others, List.append_assoc, List.singleton_append]
  rw [ofTextAt, comment.shown, lines ls comment.marked]
  rfl

theorem lead_above (t : Option Text) :
    ∃ ls, Above (Comment.lead t) ls ∧ commentOf ls = (nonempty? t).map Comment.shown := by
  cases t with
  | none => exact ⟨[], above_nothing, rfl⟩
  | some t =>
    cases t with
    | nil => exact ⟨[], above_nothing, rfl⟩
    | cons c t =>
      obtain ⟨above, some⟩ := block_above (c :: t)
      exact ⟨_, above, if_neg (by simpa using some)⟩

/-! ### Pieces of texts -/

def Yields (depth : Nat) (t : Text) (rs : List Remark) : Prop :=
  ∀ rest, ofTextAt depth [] (t ++ rest) = rs ++ ofTextAt depth [] rest

theorem yields_nothing (depth : Nat) : Yields depth [] [] := fun _ => rfl

theorem Yields.append {depth : Nat} {t u : Text} {qs rs : List Remark} (first : Yields depth t qs)
    (second : Yields depth u rs) : Yields depth (t ++ u) (qs ++ rs) := by
  intro rest
  rw [List.append_assoc, first, second, List.append_assoc]

theorem Yields.read {depth : Nat} {t : Text} {rs : List Remark} (yields : Yields depth t rs) :
    ofTextAt depth [] t = rs := by
  have whole := yields []
  rw [List.append_nil] at whole
  exact whole.trans (List.append_nil rs)

theorem Yields.whole {t : Text} {rs : List Remark} (yields : Yields 0 t rs) : ofText t = rs := yields.read

/-- A piece of a line, or one that opens a record at the end of its first line and closes one at the start of its last. -/
inductive Inside (depth : Nat) : Text → List Remark → Prop
  | line {t : Text} (single : '\n' ∉ t) : Inside depth t []
  | lines {t u l : Text} {rs : List Remark} (single : '\n' ∉ t) (inner : Yields (depth + 1) u rs) (last : '\n' ∉ l) :
    Inside depth (t ++ '{' :: '\n' :: (u ++ '}' :: l)) rs

theorem Inside.append {depth : Nat} {t u : Text} {qs rs : List Remark} (first : Inside depth t qs)
    (second : Inside depth u rs) : Inside depth (t ++ u) (qs ++ rs) := by
  cases first with
  | line single =>
    cases second with
    | line other => exact .line (by simp [single, other])
    | @lines u v l _ other inner last =>
      have whole := Inside.lines (t := t ++ u) (by simp [single, other]) inner last
      simpa using whole
  | @lines t v l _ single inner last =>
    cases second with
    | line other =>
      have whole := Inside.lines single inner (l := l ++ u) (by simp [last, other])
      simpa using whole
    | @lines u x k _ other more final =>
      -- The line between closes the last record of the first piece and opens the first of the second.
      have between : Yields (depth + 1) ('}' :: (l ++ u) ++ ['{'] ++ ['\n']) [] := by
        intro rest
        have line : '\n' ∉ '}' :: (l ++ u) ++ ['{'] := by simp [last, other]
        rw [List.append_assoc, List.singleton_append]
        exact at_closing line rfl List.getLast?_concat (by decide) depth [] rest
      have whole := Inside.lines single ((inner.append between).append more) final
      simpa using whole

/-- A start of a line that tells what the line declares, however it goes on. -/
structure Heads (name head : Text) : Prop where
  single : '\n' ∉ head
  code : ∃ c w, head = c :: w ∧ isBlank c = false ∧ c ≠ '/' ∧ c ≠ '*' ∧ c ≠ '}'
  names : ∀ u, subject (trim (head ++ u)) = name

theorem at_head {name head l : Text} {e : Char} (heads : Heads name head) (single : '\n' ∉ l)
    (last : (head ++ l).getLast? = some e) (shown : isBlank e = false) (depth : Nat) (above : List Text) (rest : Text) :
    ofTextAt depth above (head ++ l ++ '\n' :: rest) =
      ⟨depth, name, commentOf above⟩ :: ofTextAt (if e == '{' then depth + 1 else depth) [] rest := by
  obtain ⟨c, w, start, shownFirst, notSlash, notStar, notBrace⟩ := heads.code
  have first : (head ++ l).head? = some c := by simp [start]
  have whole := Text.trim_shown first last shownFirst shown
  have named := heads.names l
  rw [whole] at named
  have notComment : isOfComment (head ++ l) = false := by simp [isOfComment, first, notSlash, notStar]
  have notClosing : isClosing (head ++ l) = false := by simp [isClosing, first, notBrace]
  have some : trim (head ++ l) ≠ [] := by
    rw [whole]
    simp [start]
  rw [at_line (by simp [heads.single, single]) some, whole, ofLines, named]
  simp only [notComment, notClosing, Bool.false_eq_true, if_false, depthAfter, last, Option.some_beq_some]
  rfl

theorem declared_yields (comment : Option Text) {depth : Nat} {name head t : Text} {rs : List Remark}
    (heads : Heads name head) (inside : Inside depth t rs) :
    Yields depth (Comment.lead comment ++ (head ++ t ++ [';', '\n']))
      (⟨depth, name, (nonempty? comment).map Comment.shown⟩ :: rs) := by
  intro rest
  obtain ⟨ls, above, read⟩ := lead_above comment
  rw [List.append_assoc, at_comment above, List.nil_append, ← read]
  cases inside with
  | line single =>
    have line := at_head heads (l := t ++ [';']) (e := ';') (by simp [single]) (by simp) (by decide) depth ls rest
    simpa using line
  | @lines t u l _ single inner last =>
    have closed := at_closing (l := '}' :: l ++ [';']) (by simp [last]) rfl List.getLast?_concat (by decide) depth [] rest
    have line := at_head heads (l := t ++ ['{']) (e := '{') (by simp [single]) (by simp) (by decide) depth ls
      (u ++ ('}' :: l ++ [';'] ++ '\n' :: rest))
    simp only [beq_self_eq_true, if_true] at line
    rw [inner, closed] at line
    simpa using line

theorem literal_from_plain {c : Char} (notQuote : c ≠ '"') (notSlash : c ≠ '\\') (u : Text) :
    literalFrom false (c :: u) = c :: literalFrom false u := by
  rw [literalFrom, beq_eq_false_iff_ne.mpr notQuote, beq_eq_false_iff_ne.mpr notSlash]
  rfl

theorem literal_from_escapes (t u : Text) :
    literalFrom false (t.flatMap Json.escapeChar ++ u) = t.flatMap Json.escapeChar ++ literalFrom false u := by
  revert u
  apply Layout.escaped_parts (motive := fun v => ∀ u, literalFrom false (v ++ u) = v ++ literalFrom false u) t
  · exact fun _ => rfl
  · intro v w first second u
    rw [List.append_assoc, first, second, List.append_assoc]
  · intro c notQuote notSlash _ u
    exact literal_from_plain notQuote notSlash u
  · exact fun _ _ => rfl

theorem key_of_key (name : Text) {mark : Char} (other : Record.isIdentifierPart mark = false) (u : Text) :
    keyOf (Record.key name ++ mark :: u) = Record.key name := by
  unfold Record.key
  split
  · rename_i identifier
    obtain ⟨c, name, rfl, start, parts⟩ := Layout.identifier_parts identifier
    have notQuote : c ≠ '"' := by
      rintro rfl
      exact absurd start (by decide)
    rw [keyOf, if_neg (by simpa using notQuote), List.takeWhile_append_of_pos parts]
    simp [other]
  · have closed : literalFrom false ('"' :: mark :: u) = ['"'] := rfl
    simp [keyOf, Json.quote, literal_from_escapes, closed]

theorem key_starts (name : Text) :
    ∃ c t, Record.key name = c :: t ∧ isBlank c = false ∧ c ≠ '/' ∧ c ≠ '*' ∧ c ≠ '}' := by
  unfold Record.key
  split
  · rename_i identifier
    obtain ⟨c, name, rfl, start, -⟩ := Layout.identifier_parts identifier
    obtain ⟨shown, notSlash⟩ := Layout.identifier_start_shown start
    refine ⟨c, name, rfl, shown, notSlash, ?_, ?_⟩
    · rintro rfl
      exact absurd start (by decide)
    · rintro rfl
      exact absurd start (by decide)
  · exact ⟨'"', _, rfl, by decide, by decide, by decide, by decide⟩

theorem key_heads (name : Text) {mark : Char} (known : mark = ':' ∨ mark = '?') (rest : Text) (single : '\n' ∉ rest) :
    Heads (Record.key name) (Record.key name ++ mark :: rest) := by
  obtain ⟨c, t, key, shown, code⟩ := key_starts name
  have notPart : Record.isIdentifierPart mark = false := by rcases known with rfl | rfl <;> decide
  have shownMark : isBlank mark = false := by rcases known with rfl | rfl <;> decide
  have kept (u : Text) : ∃ w, trim (Record.key name ++ mark :: rest ++ u) = Record.key name ++ mark :: w := by
    have head : (Record.key name ++ [mark]).head? = some c := by simp [key]
    obtain ⟨w, trimmed, -⟩ := Text.trim_keeps_lead head List.getLast?_concat shown shownMark (rest ++ u)
    exact ⟨w, by simpa using trimmed⟩
  constructor
  · have notFeed : mark ≠ '\n' := by rcases known with rfl | rfl <;> decide
    simp [Exports.key_single, single, notFeed.symm]
  · exact ⟨c, t ++ mark :: rest, by rw [key]; rfl, shown, code⟩
  · intro u
    obtain ⟨w, trimmed⟩ := kept u
    rw [subject, Exports.barred_of_key name known rest u, trimmed, Option.getD_none, key_of_key name notPart]

theorem member_heads (name : Text) (required : Bool) :
    Heads (Record.key name) (Record.key name ++ (if required then [] else ['?']) ++ ": ".toList) := by
  cases required with
  | true => simpa using key_heads name (Or.inl rfl) [' '] (by decide)
  | false => simpa using key_heads name (Or.inr rfl) ": ".toList (by decide)

theorem member_yields {depth : Nat} {type : Text} {rs : List Remark} (inside : Inside depth type rs) (name : Text)
    (required : Bool) (comment : Option Text) :
    Yields depth (Record.member name type required comment)
      (⟨depth, Record.key name, (nonempty? comment).map Comment.shown⟩ :: rs) := by
  have yields := declared_yields comment (member_heads name required) inside
  simpa [Record.member] using yields

theorem body_inside {depth : Nat} {members : List Text} {rs : List Remark} (yields : Yields (depth + 1) members.flatten rs) :
    Inside depth (Record.body members) rs := by
  cases members with
  | nil =>
    have none : rs = [] := yields.read.symm
    exact none ▸ .line (by decide)
  | cons m members => exact Inside.lines (t := []) (l := []) (by simp) yields (by simp)

/-! ### Declarations -/

theorem export_heads {lead name : Text} (listed : lead ∈ Exports.leads) (solid : Solid name) {c : Char}
    (shown : isBlank c = false) {rest : Text} (single : '\n' ∉ c :: rest) :
    Heads name (lead ++ name ++ ' ' :: c :: rest) := by
  have known : lead = "export interface ".toList ∨ lead = "export type ".toList := by simpa [Exports.leads] using listed
  constructor
  · have noFeed : '\n' ∉ lead := by rcases known with rfl | rfl <;> decide
    simp only [List.mem_append, List.mem_cons, not_or] at single ⊢
    exact ⟨⟨noFeed, Layout.plain_single solid.plain⟩, by decide, single⟩
  · have first : ∃ t, lead = 'e' :: t := by rcases known with rfl | rfl <;> exact ⟨_, rfl⟩
    obtain ⟨t, rfl⟩ := first
    exact ⟨'e', t ++ name ++ ' ' :: c :: rest, rfl, by decide, by decide, by decide, by decide⟩
  · intro u
    have whole : lead ++ name ++ ' ' :: c :: rest ++ u = lead ++ name ++ ' ' :: c :: (rest ++ u) := by simp
    rw [subject, whole, Exports.of_line_header listed solid shown (rest ++ u)]
    rfl

theorem render_comment {comment : Option Text} (proper : nonempty? comment = comment) :
    (comment.map Comment.block).getD [] = Comment.lead comment := by
  cases comment with
  | none => rfl
  | some t =>
    cases t with
    | nil => simp [nonempty?] at proper
    | cons c t => rfl

theorem interface_yields {name : Text} (solid : Solid name) {comment : Option Text} (proper : nonempty? comment = comment)
    {members : List Text} {rs : List Remark} (yields : Yields 1 members.flatten rs) (role : Declaration.Role) :
    Yields 0 (Declaration.render ⟨name, .interface, Record.body members, comment, role⟩)
      (⟨0, name, comment.map Comment.shown⟩ :: rs) := by
  intro rest
  obtain ⟨ls, above, read⟩ := lead_above comment
  have heads : Heads name ("export interface ".toList ++ name ++ " \x7b".toList) :=
    export_heads (by decide) solid (by decide) (by decide)
  rw [Declaration.render, render_comment proper]
  simp only [List.append_assoc]
  rw [at_comment above, List.nil_append, ← proper, ← read]
  cases members with
  | nil =>
    have none : rs = [] := yields.read.symm
    have line := at_head heads (l := ['}']) (by decide) List.getLast?_concat (by decide) 0 ls rest
    rw [none]
    simpa [Record.body] using line
  | cons m members =>
    have closed := at_closing (l := ['}']) (e := '}') (by decide) rfl rfl (by decide) 0 [] rest
    have last : ("export interface ".toList ++ name ++ " \x7b".toList ++ []).getLast? = some '{' := by
      rw [List.append_nil, List.getLast?_append]
      rfl
    have line := at_head heads (by simp) last (by decide) 0 ls ((m :: members).flatten ++ (['}'] ++ '\n' :: rest))
    simp only [beq_self_eq_true, if_true] at line
    rw [yields, closed] at line
    simpa [Record.body] using line

theorem alias_yields {name : Text} (solid : Solid name) {comment : Option Text} (proper : nonempty? comment = comment)
    {body : Text} {rs : List Remark} (inside : Inside 0 body rs) (role : Declaration.Role) :
    Yields 0 (Declaration.render ⟨name, .typeAlias, body, comment, role⟩) (⟨0, name, comment.map Comment.shown⟩ :: rs) := by
  have heads : Heads name ("export type ".toList ++ name ++ " = ".toList) :=
    export_heads (by decide) solid (by decide) (by decide)
  have written := declared_yields comment heads inside
  rw [proper] at written
  simpa [Declaration.render, render_comment proper] using written

end Remarks

end ApiTypes
