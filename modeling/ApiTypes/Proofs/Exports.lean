import Mathlib.Data.List.Nodup
import ApiTypes.Proofs.Closure
import ApiTypes.Proofs.Layout.Generated
import ApiTypes.Proofs.Layout.Stable
/-!
What generated texts export, and that a strict run exports no name twice. Strictness compares the names of whole texts
only. What is hoisted is named after the text it stands in, and no such name can be that of another text, nor come out
of another text, because texts are not named after items.
-/
namespace ApiTypes

open Schema (copies)
open Text (Solid isBlank trim)

theorem Text.trim_keeps_lead {t : Text} {c d : Char} (first : t.head? = some c) (last : t.getLast? = some d)
    (shownFirst : isBlank c = false) (shownLast : isBlank d = false) (u : Text) :
    ∃ w, trim (t ++ u) = t ++ w ∧ w <+: u := by
  have start : trimStart (t ++ u) = t ++ u := by
    cases t with
    | nil => simp at first
    | cons b t =>
      have same : b = c := by simpa using first
      rw [same]
      exact trim_start_shown shownFirst
  obtain ⟨blanks, split, blank⟩ := trim_end_split (t ++ u)
  rw [trim, start]
  rcases List.append_eq_append_iff.mp split with ⟨w, ends, rest⟩ | ⟨x, ends, rest⟩
  · exact ⟨w, ends, ⟨blanks, rest.symm⟩⟩
  · -- If the end of `t` were taken away, its last character would be blank.
    cases final : x.getLast? with
    | none =>
      have empty := List.getLast?_eq_none_iff.mp final
      rw [empty, List.append_nil] at ends
      exact ⟨[], by rw [List.append_nil, ← ends], List.nil_prefix⟩
    | some e =>
      rw [ends, List.getLast?_append, final, Option.some_or, Option.some.injEq] at last
      have dark : isBlank e = true := by
        apply List.all_eq_true.mp blank
        rw [rest]
        exact List.mem_append_left u (List.mem_of_getLast? final)
      rw [last, shownLast] at dark
      simp at dark

namespace Exports

def leads : List Text := ["export interface ".toList, "export type ".toList]

def ofLine? (line : Text) : Option Text :=
  leads.findSome? fun lead => (Text.dropLead? lead line).map (·.takeWhile (· != ' '))

def ofText (t : Text) : List Text := (Text.lines t).filterMap fun l => ofLine? (trim l)

theorem drop_lead_append (lead t : Text) : Text.dropLead? lead (lead ++ t) = some t := by
  induction lead with
  | nil => cases t <;> rfl
  | cons c lead ih => simpa [Text.dropLead?] using ih

theorem of_line_none {line : Text} (apart : ∀ lead ∈ leads, ¬ lead <+: line) : ofLine? line = none := by
  apply List.findSome?_eq_none_iff.mpr
  intro lead listed
  have missing := apart lead listed
  rw [← Text.starts_with_iff, Text.startsWith, Option.not_isSome_iff_eq_none] at missing
  rw [missing, Option.map_none]

theorem of_text_line {l : Text} (single : '\n' ∉ l) (rest : Text) :
    ofText (l ++ '\n' :: rest) = (ofLine? (trim l)).toList ++ ofText rest := by
  rw [ofText, Text.lines_feed single, List.filterMap_cons, Text.trim_drop_return]
  cases ofLine? (trim l) <;> rfl

/-! ### Lines that export nothing -/

def Barred (l : Text) : Prop := ∀ u, ofLine? (trim (l ++ u)) = none

theorem Barred.append {l : Text} (barred : Barred l) (u : Text) : Barred (l ++ u) := by
  intro v
  rw [List.append_assoc]
  exact barred (u ++ v)

theorem barred_of_lead {t : Text} {c d : Char} (first : t.head? = some c) (last : t.getLast? = some d)
    (shownFirst : isBlank c = false) (shownLast : isBlank d = false)
    (apart : ∀ lead ∈ leads, ¬ lead <+: t ∧ ¬ t <+: lead) : Barred t := by
  intro u
  obtain ⟨w, kept, -⟩ := Text.trim_keeps_lead first last shownFirst shownLast u
  rw [kept]
  apply of_line_none
  intro lead listed leading
  rcases List.prefix_or_prefix_of_prefix leading (List.prefix_append t w) with inside | outside
  · exact (apart lead listed).1 inside
  · exact (apart lead listed).2 outside

theorem barred_of_mark {c : Char} (shown : isBlank c = false) (other : c ≠ 'e') (rest : Text) : Barred (c :: rest) := by
  refine Barred.append (l := [c]) (barred_of_lead rfl rfl shown shown ?_) rest
  intro lead listed
  simp only [leads, List.mem_cons, List.not_mem_nil, or_false] at listed
  rcases listed with rfl | rfl <;> simp [List.cons_prefix_cons, other]

theorem barred_after_blank {l : Text} (barred : Barred l) : Barred (' ' :: l) := by
  intro u
  have blank : [' '].all isBlank = true := by decide
  rw [List.cons_append, ← List.singleton_append, Text.trim_blank_lead blank]
  exact barred u

/- `export` may be the key of a member, but then a colon or a question mark comes where the space would have to be. -/
theorem barred_of_key (name : Text) {mark : Char} (known : mark = ':' ∨ mark = '?') (rest : Text) :
    Barred (Record.key name ++ mark :: rest) := by
  have shownMark : isBlank mark = false := by rcases known with rfl | rfl <;> decide
  unfold Record.key
  split
  · rename_i identifier
    obtain ⟨c, name, rfl, start, parts⟩ := Layout.identifier_parts identifier
    have shown := (Layout.identifier_start_shown start).1
    have barred : Barred (c :: name ++ [mark]) := by
      refine barred_of_lead rfl List.getLast?_concat shown shownMark ?_
      intro lead listed
      have space : ' ' ∈ lead ∧ mark ∉ lead := by
        simp only [leads, List.mem_cons, List.not_mem_nil, or_false] at listed
        rcases listed with rfl | rfl <;> rcases known with rfl | rfl <;> decide
      constructor
      · intro leading
        rcases List.mem_append.mp (leading.subset space.1) with inKey | own
        · exact absurd (parts ' ' inKey) (by decide)
        · rw [← List.mem_singleton.mp own] at shownMark
          exact absurd shownMark (by decide)
      · intro leading
        exact space.2 (leading.subset (by simp))
    have longer := barred.append rest
    rwa [List.append_assoc] at longer
  · exact barred_of_mark (by decide) (by decide) _

inductive Silent : Text → Prop
  | nothing : Silent []
  | line {t l : Text} (before : Silent t) (single : '\n' ∉ l) (barred : Barred l) : Silent (t ++ l ++ ['\n'])

/-- A piece of a text none of whose lines after the first exports anything. -/
inductive SilentAfter : Text → Prop
  | line {t : Text} (single : '\n' ∉ t) : SilentAfter t
  | feed {t l : Text} (before : SilentAfter t) (single : '\n' ∉ l) (barred : Barred l) : SilentAfter (t ++ '\n' :: l)

theorem no_feed_in_nothing : '\n' ∉ ([] : Text) := by simp

theorem Silent.append {t u : Text} (first : Silent t) (second : Silent u) : Silent (t ++ u) := by
  induction second with
  | nothing => rwa [List.append_nil]
  | line _ single barred ih =>
    rw [← List.append_assoc, ← List.append_assoc]
    exact ih.line single barred

theorem Silent.exports {t : Text} (silent : Silent t) (rest : Text) : ofText (t ++ rest) = ofText rest := by
  induction silent generalizing rest with
  | nothing => rfl
  | @line t l _ single barred ih =>
    have none := barred []
    rw [List.append_nil] at none
    rw [List.append_assoc, List.append_assoc, ih, List.singleton_append, of_text_line single, none]
    rfl

theorem SilentAfter.append {t u : Text} (first : SilentAfter t) (second : SilentAfter u) : SilentAfter (t ++ u) := by
  induction second with
  | @line u single =>
    cases first with
    | line before => exact .line (by simp [before, single])
    | @feed t l inner own barred =>
      rw [List.append_assoc, List.cons_append]
      exact inner.feed (by simp [own, single]) (barred.append u)
  | feed _ single barred ih =>
    rw [← List.append_assoc]
    exact ih.feed single barred

theorem SilentAfter.member {lead t : Text} (after : SilentAfter t) (single : '\n' ∉ lead) (barred : Barred lead)
    {tail : Text} (ends : '\n' ∉ tail) : Silent (lead ++ t ++ tail ++ ['\n']) := by
  induction after generalizing tail with
  | @line t own =>
    have line := Silent.nothing.line (l := lead ++ t ++ tail) (by simp [single, own, ends])
      (by rw [List.append_assoc]; exact barred.append _)
    rwa [List.nil_append] at line
  | @feed t l _ own barredLine ih =>
    have before := ih no_feed_in_nothing
    have line := before.line (l := l ++ tail) (by simp [own, ends]) (barredLine.append tail)
    simpa using line

theorem Silent.braces {t l : Text} (silent : Silent t) (single : '\n' ∉ l) (barred : Barred l) :
    SilentAfter (['{', '\n'] ++ t ++ l) := by
  induction silent generalizing l with
  | nothing => exact SilentAfter.feed (t := ['{']) (.line (by decide)) single barred
  | @line t l' _ own barredLine ih =>
    have before := (ih own barredLine).feed single barred
    simpa using before

theorem comment_silent (t : Text) : Silent (Comment.block t) := by
  have opening : Silent "/**\n".toList :=
    Silent.nothing.line (l := "/**".toList) (by decide) (barred_of_mark (by decide) (by decide) _)
  have inner : Silent ((Comment.lines t).flatMap Comment.line) := by
    refine Comment.inner_rows t .nothing Silent.append fun {row} inside => ?_
    obtain ⟨rest, star⟩ := inside.star
    have barred : Barred row := by
      rw [← star]
      exact barred_after_blank (barred_of_mark (by decide) (by decide) _)
    exact Silent.nothing.line inside.single barred
  have closing : Silent " */\n".toList :=
    Silent.nothing.line (l := " */".toList) (by decide)
      (barred_after_blank (barred_of_mark (by decide) (by decide) _))
  exact (opening.append inner).append closing

theorem lead_silent (t : Option Text) : Silent (Comment.lead t) := by
  unfold Comment.lead
  split
  · exact .nothing
  · split
    · exact .nothing
    · exact comment_silent _

theorem key_single (name : Text) : '\n' ∉ Record.key name := by
  unfold Record.key
  split
  · rename_i identifier
    exact Layout.plain_single (Layout.identifier_plain identifier)
  · exact Layout.quote_single name

theorem member_silent {type : Text} (after : SilentAfter type) (name : Text) (required : Bool) (comment : Option Text) :
    Silent (Record.member name type required comment) := by
  have key := key_single name
  have semicolon : '\n' ∉ [';'] := by decide
  cases required with
  | true =>
    have barred : Barred (Record.key name ++ ": ".toList) := barred_of_key name (Or.inl rfl) _
    have line := after.member (by simp [key]) barred semicolon
    simpa [Record.member] using (lead_silent comment).append line
  | false =>
    have barred : Barred (Record.key name ++ "?: ".toList) := barred_of_key name (Or.inr rfl) _
    have line := after.member (by simp [key]) barred semicolon
    simpa [Record.member] using (lead_silent comment).append line

theorem body_silent {members : List Text} (each : ∀ m ∈ members, Silent m) : SilentAfter (Record.body members) := by
  have flat : Silent members.flatten := by
    induction members with
    | nil => exact .nothing
    | cons m members ih =>
      rw [List.flatten_cons]
      exact (each m (by simp)).append (ih fun m' mem => each m' (by simp [mem]))
  unfold Record.body
  split
  · exact .line (by decide)
  · exact flat.braces (by decide) (barred_of_mark (by decide) (by decide) _)

theorem export_writing : Writing SilentAfter Silent where
  plain := fun plain => .line (Layout.plain_single plain)
  quote := fun t => .line (Layout.quote_single t)
  append := SilentAfter.append
  parenthesized := fun inner => ((SilentAfter.line (by decide)).append inner).append (.line (by decide))
  arrayMark := .line (by decide)
  member := member_silent
  body := body_silent

/-! ### Declarations -/

theorem solid_copies {name : Text} (solid : Solid name) (k : Nat) : Solid (name ++ copies k) := by
  induction k with
  | zero => simpa [Schema.copies] using solid
  | succ k ih =>
    have one : Schema.copies 1 = Naming.Role.item.suffix := by decide
    rw [Blueprint.copies_add, ← List.append_assoc, one]
    exact ih.append (by decide)

/- The name may be empty, so it is the mark behind it that keeps the line from being trimmed too far. -/
theorem of_line_header {lead name : Text} {c : Char} (listed : lead ∈ leads) (solid : Solid name)
    (shown : isBlank c = false) (u : Text) : ofLine? (trim (lead ++ name ++ ' ' :: c :: u)) = some name := by
  have split : lead ++ name ++ ' ' :: c :: u = lead ++ name ++ [' ', c] ++ u := by simp
  have head : (lead ++ name ++ [' ', c]).head? = some 'e' := by
    simp only [leads, List.mem_cons, List.not_mem_nil, or_false] at listed
    rcases listed with rfl | rfl <;> rfl
  have final : (lead ++ name ++ [' ', c]).getLast? = some c := by simp
  obtain ⟨w, kept, -⟩ := Text.trim_keeps_lead head final (by decide) shown u
  have cut : (name ++ ([' ', c] ++ w)).takeWhile (· != ' ') = name := by
    have before : ∀ d ∈ name, (d != ' ') = true := by
      intro d mem
      rw [bne_iff_ne]
      rintro rfl
      exact solid.no_space mem
    rw [List.takeWhile_append_of_pos before]
    simp
  rw [split, kept, List.append_assoc, List.append_assoc]
  simp only [leads, List.mem_cons, List.not_mem_nil, or_false] at listed
  rcases listed with rfl | rfl
  · rw [ofLine?, leads, List.findSome?_cons, drop_lead_append, Option.map_some, cut]
  · have other : Text.dropLead? "export interface ".toList ("export type ".toList ++ (name ++ ([' ', c] ++ w))) = none := rfl
    rw [ofLine?, leads, List.findSome?_cons, other, Option.map_none]
    simp only
    rw [List.findSome?_cons, drop_lead_append, Option.map_some, cut]

theorem SilentAfter.behind {c : Char} {t : Text} (after : SilentAfter (c :: t)) (other : c ≠ '\n') : SilentAfter t := by
  generalize whole : c :: t = x at after
  induction after generalizing t with
  | line single =>
    subst whole
    exact .line fun mem => single (List.mem_cons_of_mem c mem)
  | @feed first l _ single barred ih =>
    cases first with
    | nil => exact absurd (List.cons.inj whole).1 other
    | cons d first =>
      obtain ⟨rfl, rfl⟩ := List.cons.inj whole
      exact (ih rfl).feed single barred

theorem SilentAfter.exports {head t : Text} {name : Text} (after : SilentAfter t) (single : '\n' ∉ head)
    (named : ∀ u, ofLine? (trim (head ++ u)) = some name) {tail : Text} (ends : '\n' ∉ tail) (rest : Text) :
    ofText (head ++ t ++ tail ++ '\n' :: rest) = name :: ofText rest := by
  induction after generalizing tail rest with
  | @line t own =>
    have line : '\n' ∉ head ++ t ++ tail := by simp [single, own, ends]
    rw [of_text_line line, List.append_assoc, named]
    rfl
  | @feed t l _ own barred ih =>
    have before := ih no_feed_in_nothing (l ++ tail ++ '\n' :: rest)
    have line : '\n' ∉ l ++ tail := by simp [own, ends]
    rw [of_text_line line, barred tail] at before
    simpa using before

/-- A declaration whose text can be told to export its name: the name is read off, and the body brings no other. -/
structure Legible (d : Declaration) : Prop where
  solid : Solid d.name
  after : SilentAfter d.body
  braced : d.kind = .interface → d.body.head? = some '{'

theorem render_exports {d : Declaration} (legible : Legible d) (rest : Text) :
    ofText (d.render ++ rest) = d.name :: ofText rest := by
  have comment : Silent ((d.comment.map Comment.block).getD []) := by
    cases d.comment with
    | none => exact .nothing
    | some t => exact comment_silent t
  have single := Layout.plain_single legible.solid.plain
  unfold Declaration.render
  cases kind : d.kind with
  | interface =>
    have head : ∀ u, ofLine? (trim ("export interface ".toList ++ d.name ++ " \x7b".toList ++ u)) = some d.name := by
      intro u
      rw [List.append_assoc _ " \x7b".toList]
      exact of_line_header (by decide) legible.solid (by decide) u
    obtain ⟨inner, body⟩ := List.head?_eq_some_iff.mp (legible.braced kind)
    have after : SilentAfter inner := SilentAfter.behind (body ▸ legible.after) (by decide)
    have lines := after.exports (by simp [single]) head no_feed_in_nothing rest
    have all := (comment.exports _).trans lines
    simpa [body] using all
  | typeAlias =>
    have head : ∀ u, ofLine? (trim ("export type ".toList ++ d.name ++ " = ".toList ++ u)) = some d.name := by
      intro u
      rw [List.append_assoc _ " = ".toList]
      exact of_line_header (by decide) legible.solid (by decide) _
    have semicolon : '\n' ∉ [';'] := by decide
    have lines := legible.after.exports (by simp [single]) head semicolon rest
    have all := (comment.exports _).trans lines
    simpa using all

theorem declarations_export {ds : List Declaration} (each : ∀ d ∈ ds, Legible d) :
    ofText (Text.joinWith ['\n'] (ds.map Declaration.render)) = ds.map Declaration.name := by
  induction ds with
  | nil => rfl
  | cons d ds ih =>
    have legible := each d (by simp)
    cases ds with
    | nil =>
      have own := render_exports legible []
      rw [List.append_nil] at own
      exact own
    | cons e ds =>
      have later := ih fun d' mem => each d' (List.mem_cons_of_mem d mem)
      have blank := of_text_line (l := []) (by simp) (Text.joinWith ['\n'] ((e :: ds).map Declaration.render))
      rw [List.map_cons, List.map_cons, Text.joinWith, List.append_assoc, render_exports legible,
        List.singleton_append, ← List.map_cons]
      rw [List.nil_append] at blank
      rw [blank, later]
      rfl

theorem body_braced (members : List Text) : (Record.body members).head? = some '{' := by
  unfold Record.body
  split <;> rfl

theorem object_braced {s : Schema} (object : s.isObject = true) (name : Text) :
    (s.typeIn name).text.head? = some '{' := by
  cases s with
  | object _ properties required => exact body_braced _
  | _ => simp [Schema.isObject] at object

mutual

theorem insertions_braced (s : Schema) {name : Text} {d : Declaration} (mem : d ∈ s.insertions name)
    (kind : d.kind = .interface) : d.body.head? = some '{' := by
  match s with
  | .object _ properties _ => exact property_insertions_braced properties mem kind
  | .listOf _ item =>
    rcases List.mem_append.mp mem with inner | own
    · exact insertions_braced item inner kind
    · split at own
      · rename_i object
        rw [List.mem_singleton.mp own]
        exact object_braced object _
      · simp at own
  | .tuple _ members =>
    rcases List.mem_append.mp mem with inner | own
    · exact part_insertions_braced members inner kind
    · rw [List.mem_singleton.mp own] at kind
      simp at kind
  | .list _ | .primitive _ _ | .enumeration _ _ _ | .reference _ _ | .any _ | .unknown _ _ =>
    simp [Schema.insertions] at mem

theorem property_insertions_braced (properties : Schema.Properties) {name : Text} {d : Declaration}
    (mem : d ∈ Schema.propertyInsertions properties name) (kind : d.kind = .interface) : d.body.head? = some '{' := by
  match properties with
  | [] => simp [Schema.propertyInsertions] at mem
  | (_, s) :: rest =>
    rcases List.mem_append.mp mem with first | later
    · exact insertions_braced s first kind
    · exact property_insertions_braced rest later kind

theorem part_insertions_braced (members : List Schema) {name : Text} {d : Declaration}
    (mem : d ∈ Schema.partInsertions members name) (kind : d.kind = .interface) : d.body.head? = some '{' := by
  match members with
  | [] => simp [Schema.partInsertions] at mem
  | s :: rest =>
    rcases List.mem_append.mp mem with first | later
    · exact insertions_braced s first kind
    · exact part_insertions_braced rest later kind

end

theorem operation_insertions_braced (op : Operation) {name : Text} {d : Declaration} (mem : d ∈ op.insertions name)
    (kind : d.kind = .interface) : d.body.head? = some '{' := by
  unfold Operation.insertions at mem
  split at mem
  · exact property_insertions_braced _ mem kind
  · obtain ⟨p, -, put⟩ := List.mem_flatMap.mp mem
    exact insertions_braced p.schema put kind

/-! ### Whole texts -/

theorem of_text_shown (t : Text) : ofText t = (Layout.shownLines (Text.lines t)).filterMap ofLine? := by
  have none : ofLine? [] = none := rfl
  unfold ofText Layout.shownLines
  induction Text.lines t with
  | nil => rfl
  | cons l ls ih =>
    rw [List.filterMap_cons, ih, List.map_cons]
    cases shown : trim l with
    | nil => simp [none]
    | cons c rest => simp [List.filterMap_cons]

/-- The layout leaves what a text exports alone. -/
theorem layout_exports {width : Nat} {t out : Text} (laidOut : Layout.format width t = .ok out) : ofText out = ofText t := by
  rw [of_text_shown, of_text_shown, Layout.format_keeps_shown laidOut]

theorem sheet_exports {sheet : Sheet} {name : Text} (each : ∀ b ∈ sheet.all, Legible (b.declaration name)) :
    ofText (sheet.text name) = sheet.all.map (·.name name) := by
  have declared : ∀ d ∈ sheet.all.map (·.declaration name), Legible d := by
    intro d mem
    obtain ⟨b, listed, rfl⟩ := List.mem_map.mp mem
    exact each b listed
  have exported := declarations_export declared
  rw [List.map_map, List.map_map] at exported
  exact exported

theorem schema_exports (s : Schema) (role : Declaration.Role) {name : Text} (solid : Solid name) :
    ofText ((s.sheet role).text name) = (s.sheet role).all.map (·.name name) := by
  apply sheet_exports
  intro b mem
  rcases List.mem_append.mp mem with hoisted | own
  · have put := List.mem_map_of_mem (f := (·.declaration name)) (Blueprint.latest_mem hoisted)
    rw [← Schema.insertions_drafted] at put
    exact ⟨solid_copies solid b.level, (export_writing.insertions s solid.plain _ put).2, insertions_braced s put⟩
  · rw [List.mem_singleton.mp own, ← Schema.root_drafted]
    refine ⟨solid, export_writing.type s solid.plain, fun kind => object_braced ?_ name⟩
    by_contra other
    simp [Schema.rootDeclaration, Schema.declarationKind, other] at kind

theorem params_exports (op : Operation) {name : Text} (solid : Solid name) :
    ofText (op.sheet.text name) = op.sheet.all.map (·.name name) := by
  apply sheet_exports
  intro b mem
  rcases List.mem_append.mp mem with hoisted | own
  · have put := List.mem_map_of_mem (f := (·.declaration name)) (Blueprint.latest_mem hoisted)
    rw [← Operation.insertions_drafted] at put
    exact ⟨solid_copies solid b.level, (export_writing.operationInsertions op solid.plain _ put).2,
      operation_insertions_braced op put⟩
  · rw [List.mem_singleton.mp own, ← Operation.root_drafted]
    exact ⟨solid, body_silent (export_writing.operationMembers op solid.plain), fun _ => body_braced _⟩

/-! ### Names that do not clash -/

/- What comes out of a text has its name, followed by copies of `Item`; a name that does not end in `Item` itself can be
read off from there. -/
theorem root_of_copies {m n : Text} {i j : Nat} (ownM : ¬ Naming.Role.item.suffix <:+ m)
    (ownN : ¬ Naming.Role.item.suffix <:+ n) (same : m ++ copies i = n ++ copies j) : m = n := by
  have last : ∀ (t : Text) (k : Nat), t ++ copies (k + 1) = t ++ copies k ++ Naming.Role.item.suffix := by
    intro t k
    have one : copies 1 = Naming.Role.item.suffix := by decide
    rw [Blueprint.copies_add, one, List.append_assoc]
  have none : ∀ t : Text, t ++ copies 0 = t := fun t => List.append_nil t
  induction i generalizing j with
  | zero =>
    cases j with
    | zero => rwa [none, none] at same
    | succ j =>
      rw [none, last] at same
      exact absurd ⟨n ++ copies j, same.symm⟩ ownM
  | succ i ih =>
    cases j with
    | zero =>
      rw [none, last] at same
      exact absurd ⟨m ++ copies i, same⟩ ownN
    | succ j =>
      rw [last, last] at same
      exact ih (List.append_cancel_right same)

theorem not_item {stem : Text} {role : Naming.Role} (other : role ≠ .item) :
    ¬ Naming.Role.item.suffix <:+ stem ++ role.suffix := by
  intro ends
  have shorter : Naming.Role.item.suffix.length ≤ role.suffix.length := by cases role <;> decide
  have inside := List.suffix_of_suffix_length_le ends (List.suffix_append stem role.suffix) shorter
  cases role with
  | item => exact other rfl
  | entity => exact absurd inside (by decide)
  | params => exact absurd inside (by decide)

end Exports

/-! ### Strict runs -/

theorem Collision.find_from_none {owners names : List (Text × Text)} (free : findFrom owners names = none) :
    (names.map Prod.fst).Nodup ∧ ∀ n ∈ names.map Prod.fst, n ∉ Ordered.keys owners := by
  induction names generalizing owners with
  | nil => simp
  | cons first names ih =>
    obtain ⟨name, owner⟩ := first
    rw [findFrom] at free
    cases taken : Ordered.get? name owners with
    | some other => simp [taken] at free
    | none =>
      simp only [taken] at free
      obtain ⟨apart, new⟩ := ih free
      have own : name ∉ Ordered.keys owners := Ordered.get_none_key taken
      constructor
      · refine List.nodup_cons.mpr ⟨fun later => ?_, apart⟩
        exact new name later (Ordered.put_key_iff.mpr (Or.inl rfl))
      · intro n mem old
        rcases List.mem_cons.mp mem with rfl | later
        · exact own old
        · exact new n later (Ordered.put_key_iff.mpr (Or.inr old))

theorem Collision.guard_strict {α : Type} {names : List (Text × Text)} {result out : α}
    (ok : guard true names result = .ok out) : (names.map Prod.fst).Nodup := by
  unfold guard at ok
  cases found : find? names with
  | some c => simp [found] at ok
  | none => exact (find_from_none found).1

namespace Api

def declared (artifacts : Artifacts) : List Declared := artifacts.flatMap fun (_, ofRoute) => ofRoute.flatMap Artifact.declared

def exports (artifacts : Artifacts) : List Text := (declared artifacts).flatMap fun d => Exports.ofText d.text

theorem declared_names (artifacts : Artifacts) :
    (declared artifacts).map (·.name) = (artifactNames artifacts).map Prod.fst := by
  simp only [declared, artifactNames, List.map_flatMap, List.map_map, Artifact.names]
  rfl

end Api

namespace Exports

/-- A text declares a sheet under its name, which is not that of an item, and exports just what it declares. -/
structure Faithful (width : Nat) (d : Declared) (sheet : Sheet) : Prop where
  text : Layout.format width (sheet.text d.name) = .ok d.text
  closed : sheet.Closed d.name
  own : ¬ Naming.Role.item.suffix <:+ d.name
  exports : ofText d.text = sheet.all.map (·.name d.name)

theorem faithful {width : Nat} {sheet : Sheet} {d : Declared}
    (whole : Layout.Whole (sheet.text d.name)) (text : d.text = Formatter.orEmpty Layout.format width (sheet.text d.name))
    (closed : sheet.Closed d.name) (own : ¬ Naming.Role.item.suffix <:+ d.name)
    (exports : ofText (sheet.text d.name) = sheet.all.map (·.name d.name)) : Faithful width d sheet := by
  obtain ⟨out, laidOut⟩ := whole.accepted width
  have same : d.text = out := by simp only [text, Formatter.orEmpty, laidOut]
  refine ⟨by rw [same, laidOut], closed, own, ?_⟩
  rw [same, layout_exports laidOut, exports]

theorem entity_faithful {op : Operation} {config : Config} {d : Declared}
    (made : op.entity? config Layout.format = some d) : ∃ sheet, Faithful config.indentWidth d sheet := by
  simp only [Operation.entity?, Option.bind_eq_bind, Option.bind_eq_some_iff, Option.pure_def, Option.some.injEq] at made
  obtain ⟨response, -, schema, -, rfl⟩ := made
  refine ⟨(Operation.describe schema response.description).sheet .entity, faithful ?_ ?_ ?_ ?_ ?_⟩
  · rw [← Schema.declare_sheet]
    exact Layout.declare_whole _ (Naming.resolve_plain _ _ _ .entity) .entity
  · rw [← Schema.declare_sheet]
    rfl
  · exact Schema.sheet_closed _ .entity _
  · exact not_item (by decide)
  · exact schema_exports _ .entity (Naming.resolve_solid _ _ _ .entity)

theorem params_faithful {op : Operation} {config : Config} {d : Declared}
    (made : op.params? config Layout.format = some d) : ∃ sheet, Faithful config.indentWidth d sheet := by
  simp only [Operation.params?, Option.ite_none_left_eq_some, Option.some.injEq] at made
  obtain ⟨-, rfl⟩ := made
  refine ⟨op.sheet, faithful ?_ ?_ ?_ ?_ ?_⟩
  · rw [← Operation.params_sheet]
    exact Layout.params_whole op (Naming.resolve_plain _ _ _ .params)
  · rw [← Operation.params_sheet]
  · exact op.sheet_closed _
  · exact not_item (by decide)
  · exact params_exports op (Naming.resolve_solid _ _ _ .params)

theorem declared_faithful {api : Api} {config : Config} {d : Declared}
    (mem : d ∈ Api.declared (api.artifacts config Layout.format)) : ∃ sheet, Faithful config.indentWidth d sheet := by
  obtain ⟨⟨route, artifacts⟩, inApi, inRoute⟩ := List.mem_flatMap.mp mem
  obtain ⟨a, listed, own⟩ := List.mem_flatMap.mp inRoute
  obtain ⟨⟨path, operations⟩, -, same⟩ := List.mem_map.mp inApi
  cases same
  obtain ⟨⟨verb, op⟩, -, rfl⟩ := List.mem_map.mp listed
  rcases List.mem_append.mp own with entity | params
  · exact entity_faithful (Option.mem_toList.mp entity)
  · exact params_faithful (Option.mem_toList.mp params)

theorem Faithful.named {width : Nat} {d : Declared} {sheet : Sheet} (is : Faithful width d sheet) {x : Text}
    (mem : x ∈ ofText d.text) : ∃ k, x = d.name ++ copies k := by
  rw [is.exports] at mem
  obtain ⟨b, -, rfl⟩ := List.mem_map.mp mem
  exact ⟨b.level, rfl⟩

end Exports

/-- A strict run exports no name twice, in whichever of its texts and whether as the name of a text or hoisted. What a
text exports is what the sheet behind it declares. -/
theorem strict_exports_are_distinct (config : Config) (api : Api) (artifacts : Api.Artifacts)
    (strict : config.strictNames = true) (ok : api.generatePaths config Layout.format = .ok artifacts) :
    (Api.exports artifacts).Nodup ∧
      ∀ d ∈ Api.declared artifacts, ∃ sheet, Exports.Faithful config.indentWidth d sheet := by
  have made : artifacts = api.artifacts config Layout.format := Layout.guard_ok ok
  have roots : ((Api.declared artifacts).map (·.name)).Nodup := by
    rw [Api.generatePaths, strict] at ok
    rw [Api.declared_names, made]
    exact Collision.guard_strict ok
  have faithful : ∀ d ∈ Api.declared artifacts, ∃ sheet, Exports.Faithful config.indentWidth d sheet := by
    rw [made]
    exact fun d mem => Exports.declared_faithful mem
  refine ⟨List.nodup_flatMap.mpr ⟨?_, ?_⟩, faithful⟩
  · intro d mem
    obtain ⟨sheet, is⟩ := faithful d mem
    rw [is.exports]
    exact is.closed.distinct
  · refine (List.pairwise_map.mp roots).imp_of_mem ?_
    intro d e memD memE other x inD inE
    obtain ⟨sheetD, isD⟩ := faithful d memD
    obtain ⟨sheetE, isE⟩ := faithful e memE
    obtain ⟨i, left⟩ := isD.named inD
    obtain ⟨j, right⟩ := isE.named inE
    exact other (Exports.root_of_copies isD.own isE.own (left.symm.trans right))

def market : Api :=
  let pets : Schema := .listOf Notes.none (.object Notes.none [("id".toList, .primitive Notes.none .number)] .unspecified)
  let operation (verb : Verb) : Operation :=
    { route := "/pets".toList, verb := verb, id := none
      parameters := [⟨"pets".toList, .query, false, none, pets, .null⟩]
      responses := [("200".toList, ⟨none, some pets, none⟩)]
      summary := none, description := none }
  ⟨[], [("/pets".toList, [(.get, operation .get), (.post, operation .post)])]⟩

def strictConfig : Config := { Config.standard with strictNames := true }

def marketTexts : List (List String) :=
  [["export interface GetPetsEntityItem \x7b", "  id: number;", "\x7d", "",
    "export type GetPetsEntity = GetPetsEntityItem[];", ""],
   ["export interface GetPetsParamsItem \x7b", "  id: number;", "\x7d", "", "export interface GetPetsParams \x7b",
    "  pets?: GetPetsParamsItem[];", "\x7d", ""],
   ["export interface PostPetsEntityItem \x7b", "  id: number;", "\x7d", "",
    "export type PostPetsEntity = PostPetsEntityItem[];", ""],
   ["export interface PostPetsParamsItem \x7b", "  id: number;", "\x7d", "", "export interface PostPetsParams \x7b",
    "  pets?: PostPetsParamsItem[];", "\x7d", ""]]

theorem market_exports_are_distinct :
    strictConfig.strictNames = true ∧
    market.generatePaths strictConfig Layout.format = .ok (market.artifacts strictConfig Layout.format) ∧
    (Api.declared (market.artifacts strictConfig Layout.format)).map (·.text) =
      marketTexts.map (fun lines => Text.joinWith ['\n'] (lines.map String.toList)) ∧
    Api.exports (market.artifacts strictConfig Layout.format) =
      ["GetPetsEntityItem", "GetPetsEntity", "GetPetsParamsItem", "GetPetsParams", "PostPetsEntityItem", "PostPetsEntity",
        "PostPetsParamsItem", "PostPetsParams"].map String.toList ∧
    (Api.exports (market.artifacts strictConfig Layout.format)).Nodup := by
  have ok : market.generatePaths strictConfig Layout.format = .ok (market.artifacts strictConfig Layout.format) := by rfl
  have distinct := strict_exports_are_distinct strictConfig market _ rfl ok
  exact ⟨rfl, ok, by decide +kernel, by decide +kernel, distinct.1⟩

end ApiTypes
