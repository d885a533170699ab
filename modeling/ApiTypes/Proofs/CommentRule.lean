import ApiTypes.Proofs.LoneBody
import ApiTypes.Proofs.Remarks
/-!
The comments of generated texts, by the rule that they follow: a comment is the first of the texts meant for its place that
has characters. Descriptions come before titles, and both before what is said of a response. There is one exception: what
an operation asks for has no comment if the operation has an empty description, whatever its summary.
-/
namespace ApiTypes

open Text (Solid)
open Layout (Plain)
open Remarks (ofText Inside Yields)

/-! ### Topics of comments -/

/-- Something that is declared, how many records it stands in, and the texts meant for a comment on it, the best first. -/
structure Topic where
  depth : Nat
  subject : Text
  candidates : List (Option Text)

def firstText (candidates : List (Option Text)) : Option Text := candidates.findSome? nonempty?

def Topic.remark (p : Topic) : Remark := ⟨p.depth, p.subject, (firstText p.candidates).map Comment.shown⟩

def Notes.candidates (n : Notes) : List (Option Text) := [n.description, n.title]

namespace Schema

mutual

def memberTopics (depth : Nat) : Schema → List Topic
  | object _ properties _ => propertyTopics (depth + 1) properties
  | list _ | listOf _ _ | tuple _ _ | primitive _ _ | enumeration _ _ _ | reference _ _ | any _ | unknown _ _ => []

def propertyTopics (depth : Nat) : Properties → List Topic
  | [] => []
  | (key, s) :: rest => ⟨depth, Record.key key, s.notes.candidates⟩ :: (memberTopics depth s ++ propertyTopics depth rest)

end

mutual

/-- What is hoisted out of a schema: the name of each declaration, and the topics in it. No text is meant for what stands
for several types. -/
def hoistedTopics : Schema → (name : Text) → List (Text × List Topic)
  | object _ properties _, name => propertyHoistedTopics properties name
  | listOf _ item, name =>
    hoistedTopics item (Naming.hoisted name) ++
      if item.isObject then
        [(Naming.hoisted name, ⟨0, Naming.hoisted name, item.notes.candidates⟩ :: item.memberTopics 0)]
      else []
  | tuple _ members, name =>
    partHoistedTopics members (Naming.hoisted name) ++
      [(Naming.hoisted name, ⟨0, Naming.hoisted name, []⟩ :: members.flatMap (memberTopics 0))]
  | list _, _ | primitive _ _, _ | enumeration _ _ _, _ | reference _ _, _ | any _, _ | unknown _ _, _ => []

def propertyHoistedTopics : Properties → (name : Text) → List (Text × List Topic)
  | [], _ => []
  | (_, s) :: rest, name => hoistedTopics s name ++ propertyHoistedTopics rest name

def partHoistedTopics : List Schema → (name : Text) → List (Text × List Topic)
  | [], _ => []
  | s :: rest, name => hoistedTopics s name ++ partHoistedTopics rest name

end

mutual

def inlineTopics (depth : Nat) : Schema → List Topic
  | object _ properties _ => inlinePropertyTopics (depth + 1) properties
  | listOf _ item => inlineTopics depth item
  | tuple _ members => inlinePartTopics depth members
  | list _ | primitive _ _ | enumeration _ _ _ | reference _ _ | any _ | unknown _ _ => []

def inlinePropertyTopics (depth : Nat) : Properties → List Topic
  | [] => []
  | (key, s) :: rest =>
    ⟨depth, Record.key key, s.notes.candidates⟩ :: (inlineTopics depth s ++ inlinePropertyTopics depth rest)

def inlinePartTopics (depth : Nat) : List Schema → List Topic
  | [] => []
  | s :: rest => inlineTopics depth s ++ inlinePartTopics depth rest

end

end Schema

/-- The topics of a text: those of what is hoisted, of which the last under a name counts, and those of the root. -/
def topicsOfText (hoisted : List (Text × List Topic)) (root : Topic) (members : List Topic) : List Topic :=
  (Ordered.ofList hoisted).flatMap Prod.snd ++ root :: members

def Schema.topics (s : Schema) (name : Text) (candidates : List (Option Text)) : List Topic :=
  topicsOfText (s.hoistedTopics name) ⟨0, name, candidates⟩ (s.memberTopics 0)

def Operation.topics (op : Operation) (name : Text) (candidates : List (Option Text)) : List Topic :=
  match loneBody? op.parameters with
  | some (_, properties) =>
    topicsOfText (Schema.propertyHoistedTopics properties name) ⟨0, name, candidates⟩ (Schema.propertyTopics 1 properties)
  | none =>
    topicsOfText (op.parameters.flatMap fun p => p.schema.hoistedTopics name) ⟨0, name, candidates⟩
      (op.parameters.flatMap fun p => ⟨1, Record.key p.name, [p.description]⟩ :: p.schema.memberTopics 1)

/-! ### Candidates -/

theorem nonempty_nonempty (t : Option Text) : nonempty? (nonempty? t) = nonempty? t := by
  simp [nonempty?, Option.filter_filter]

theorem first_text_cons (t : Option Text) (rest : List (Option Text)) :
    firstText (t :: rest) = (nonempty? t).or (firstText rest) := by
  rw [firstText, List.findSome?_cons]
  cases nonempty? t <;> rfl

theorem first_text_single (t : Option Text) : firstText [t] = nonempty? t := by
  rw [first_text_cons]
  exact Option.or_none

theorem first_text_nonempty (candidates : List (Option Text)) : nonempty? (firstText candidates) = firstText candidates := by
  induction candidates with
  | nil => rfl
  | cons t rest ih =>
    have own := nonempty_nonempty t
    rw [first_text_cons]
    cases found : nonempty? t with
    | none => exact ih
    | some u => rwa [found] at own

theorem first_text_none_iff (candidates : List (Option Text)) :
    firstText candidates = none ↔ ∀ t ∈ candidates, t = none ∨ t = some [] := by
  rw [firstText, List.findSome?_eq_none_iff]
  refine forall₂_congr fun t _ => ?_
  match t with
  | none => simp [nonempty?]
  | some [] => simp [nonempty?]
  | some (c :: u) => simp [nonempty?]

theorem comment_first (s : Schema) : s.comment? = firstText s.notes.candidates := by
  rw [Notes.candidates, first_text_cons, first_text_single]
  rfl

theorem notes_with (n : Notes) (s : Schema) : (s.withNotes n).notes = n := by
  cases s <;> rfl

theorem described_first (s : Schema) (description : Option Text) :
    (Operation.describe s description).comment? = firstText (s.notes.candidates ++ [description]) := by
  have split : firstText (s.notes.candidates ++ [description]) = s.comment?.or (nonempty? description) := by
    rw [comment_first, ← first_text_single description, firstText, List.findSome?_append]
    rfl
  rw [split, Operation.describe]
  cases own : s.comment? with
  | some t => cases nonempty? description <;> simp [own]
  | none =>
    cases said : nonempty? description with
    | none => simp [own]
    | some t =>
      have proper : nonempty? (some t) = some t := said ▸ nonempty_nonempty description
      simp [Schema.comment?, Notes.comment?, notes_with, proper]

theorem first_text_or_iff {α : Type} (write : Text → α) (t u : Option Text) :
    (firstText [t.or u]).map write = (firstText [t, u]).map write ↔ ¬ (t = some [] ∧ (nonempty? u).isSome = true) := by
  rw [first_text_single, first_text_cons, first_text_single]
  match t with
  | none => simp [nonempty?]
  | some [] => cases other : nonempty? u <;> simp [nonempty?]
  | some (c :: t) =>
    have own : nonempty? (some (c :: t)) = some (c :: t) := rfl
    simp [own]

/-! ### Types -/

namespace Remarks

variable {depth : Nat}

theorem single_inside {t : Text} (plain : Plain t) : Inside depth t [] := .line (Layout.plain_single plain)

theorem any_inside : Inside depth TypeExpr.any.text [] := .line (by decide)

theorem array_text_inside {e : TypeExpr} {rs : List Remark} (inside : Inside depth e.text rs) :
    Inside depth e.arrayText rs := by
  have mark : Inside depth TypeExpr.arrayMark [] := .line (by decide)
  cases e with
  | union t =>
    have opening : Inside depth ['('] [] := .line (by decide)
    have closing : Inside depth [')'] [] := .line (by decide)
    simpa [TypeExpr.arrayText, TypeExpr.text] using ((opening.append inside).append closing).append mark
  | inline t | reference t => simpa [TypeExpr.arrayText] using inside.append mark

theorem array_inside {e : TypeExpr} {rs : List Remark} (inside : Inside depth e.text rs) : Inside depth e.array.text rs := by
  cases e with
  | union t | inline t => exact array_text_inside inside
  | reference t => exact array_text_inside inside

theorem literals_inside (kind : Primitive) (values : List Json) : Inside depth (TypeExpr.literals kind values).text [] := by
  have wording : Wording fun t => '\n' ∉ t :=
    ⟨fun plain => Layout.plain_single plain, Layout.quote_single, fun first second => by simp [first, second]⟩
  exact .line (wording.literals kind values)

inductive InsideEach (depth : Nat) : List Text → List Remark → Prop
  | nil : InsideEach depth [] []
  | cons {t : Text} {ts : List Text} {qs rs : List Remark} (first : Inside depth t qs) (later : InsideEach depth ts rs) :
    InsideEach depth (t :: ts) (qs ++ rs)

theorem join_inside {ts : List Text} {rs : List Remark} (nonempty : ts ≠ []) (each : InsideEach depth ts rs) :
    Inside depth (Text.joinWith " | ".toList ts) rs := by
  induction each with
  | nil => exact absurd rfl nonempty
  | @cons t ts qs rs first later ih =>
    cases ts with
    | nil =>
      cases later
      rwa [List.append_nil]
    | cons u ts =>
      have bar : Inside depth " | ".toList [] := .line (by decide)
      have both := (first.append bar).append (ih (by simp))
      rwa [List.append_nil] at both

theorem alternatives_inside {ts : List Text} {rs : List Remark} (each : InsideEach depth ts rs) :
    Inside depth (TypeExpr.alternatives "any".toList ts).text rs := by
  match ts with
  | [] =>
    cases each
    exact any_inside
  | [t] => exact join_inside (by simp) each
  | t :: u :: rest => exact join_inside (by simp) each

theorem members_inside {type : Text} {topics others : List Topic} {members : List Text}
    (inside : Inside depth type (topics.map Topic.remark)) (later : Yields depth members.flatten (others.map Topic.remark))
    (name : Text) (required : Bool) {comment : Option Text} {candidates : List (Option Text)}
    (first : nonempty? comment = firstText candidates) :
    Yields depth (Record.member name type required comment :: members).flatten
      ((⟨depth, Record.key name, candidates⟩ :: (topics ++ others) : List Topic).map Topic.remark) := by
  have member := member_yields inside name required comment
  rw [first] at member
  rw [List.flatten_cons, List.map_cons, List.map_append, ← List.cons_append]
  exact member.append later

end Remarks

namespace Schema

open Remarks

theorem member_comment (s : Schema) : nonempty? s.comment? = firstText s.notes.candidates := by
  rw [comment_first, first_text_nonempty]

theorem no_members {s : Schema} (other : s.isObject = false) (depth : Nat) : s.memberTopics depth = [] := by
  cases s with
  | object _ _ _ => simp [isObject] at other
  | _ => rfl

mutual

theorem type_remarks (depth : Nat) (s : Schema) {name : Text} (plain : Plain name) :
    Inside depth (s.typeIn name).text ((s.memberTopics depth).map Topic.remark) := by
  match s with
  | .object notes properties required =>
    rw [text_in_object]
    exact body_inside (members_remarks (depth + 1) required.isRequired properties plain)
  | .list _ => exact array_text_inside any_inside
  | .listOf _ item =>
    have itemPlain := Naming.hoisted_plain plain
    rw [type_in_list_of]
    split
    · exact (single_inside itemPlain).append (.line (by decide))
    · rename_i other
      have inner := type_remarks depth item itemPlain
      rw [no_members (by simpa using other) depth] at inner
      exact array_inside inner
  | .tuple _ _ => exact (single_inside (Naming.hoisted_plain plain)).append (.line (by decide))
  | .primitive _ kind => exact single_inside (primitive_plain kind)
  | .enumeration _ kind values => exact literals_inside kind values
  | .reference _ _ | .any _ | .unknown _ _ => exact any_inside

theorem members_remarks (depth : Nat) (required : Text → Bool) (properties : Properties) {name : Text} (plain : Plain name) :
    Yields depth (membersIn required properties name).flatten ((propertyTopics depth properties).map Topic.remark) := by
  match properties with
  | [] => exact yields_nothing depth
  | (key, s) :: rest =>
    rw [members_in_cons]
    exact members_inside (type_remarks depth s plain) (members_remarks depth required rest plain) key (required key)
      s.member_comment

end

theorem parts_remarks (depth : Nat) (members : List Schema) {name : Text} (plain : Plain name) :
    InsideEach depth (partsIn members name) ((members.flatMap (memberTopics depth)).map Topic.remark) := by
  induction members with
  | nil => exact .nil
  | cons s rest ih =>
    rw [parts_in_cons, List.flatMap_cons, List.map_append]
    exact .cons (s.type_remarks depth plain) ih

mutual

theorem inline_remarks (depth : Nat) (s : Schema) : Inside depth s.inline.text ((s.inlineTopics depth).map Topic.remark) := by
  match s with
  | .object _ properties required => exact body_inside (inline_members_remarks (depth + 1) required.isRequired properties)
  | .list _ => exact array_text_inside any_inside
  | .listOf _ item =>
    have inner := inline_remarks depth item
    rw [inline]
    split
    · have opening : Inside depth "Array<".toList [] := .line (by decide)
      have closing : Inside depth ['>'] [] := .line (by decide)
      have whole := (opening.append inner).append closing
      rwa [List.append_nil] at whole
    · exact array_inside inner
  | .tuple _ members => exact array_text_inside (alternatives_inside (inline_parts_remarks depth members))
  | .primitive _ kind => exact single_inside (primitive_plain kind)
  | .enumeration _ kind values => exact literals_inside kind values
  | .reference _ _ | .any _ | .unknown _ _ => exact any_inside

theorem inline_members_remarks (depth : Nat) (required : Text → Bool) (properties : Properties) :
    Yields depth (inlineMembers required properties).flatten ((inlinePropertyTopics depth properties).map Topic.remark) := by
  match properties with
  | [] => exact yields_nothing depth
  | (key, s) :: rest =>
    exact members_inside (inline_remarks depth s) (inline_members_remarks depth required rest) key (required key)
      s.member_comment

theorem inline_parts_remarks (depth : Nat) (members : List Schema) :
    InsideEach depth (inlineParts members) ((inlinePartTopics depth members).map Topic.remark) := by
  match members with
  | [] => exact .nil
  | s :: rest =>
    rw [inlinePartTopics, List.map_append]
    exact .cons (inline_remarks depth s) (inline_parts_remarks depth rest)

end

end Schema

/-! ### Texts -/

namespace Remarks

def sheetOf (d : Declaration) : Text × List Remark := (d.name, ofText d.render)

def remarksOf (e : Text × List Topic) : Text × List Remark := (e.1, e.2.map Topic.remark)

structure ReadAs (ds : List Declaration) (es : List (Text × List Topic)) : Prop where
  read : ds.map sheetOf = es.map remarksOf
  apart : ∀ d ∈ ds, Yields 0 d.render (ofText d.render)

theorem reads_nothing : ReadAs [] [] := ⟨rfl, by simp⟩

theorem ReadAs.append {ds ds' : List Declaration} {es es' : List (Text × List Topic)} (first : ReadAs ds es)
    (second : ReadAs ds' es') : ReadAs (ds ++ ds') (es ++ es') where
  read := by rw [List.map_append, List.map_append, first.read, second.read]
  apart d mem := (List.mem_append.mp mem).elim (first.apart d) (second.apart d)

theorem reads_one {d : Declaration} {topics : List Topic} (yields : Yields 0 d.render (topics.map Topic.remark)) :
    ReadAs [d] [(d.name, topics)] where
  read := by rw [List.map_singleton, sheetOf, yields.whole]; rfl
  apart e mem := by
    rw [List.mem_singleton.mp mem, yields.whole]
    exact yields

theorem join_remarks {ds : List Declaration} (apart : ∀ d ∈ ds, Yields 0 d.render (ofText d.render)) :
    ofText (Text.joinWith ['\n'] (ds.map Declaration.render)) = ds.flatMap fun d => ofText d.render := by
  induction ds with
  | nil => rfl
  | cons d ds ih =>
    obtain ⟨first, others⟩ := List.forall_mem_cons.mp apart
    cases ds with
    | nil => simp [Text.joinWith]
    | cons e ds =>
      have later := (at_blank_line 0 [] (Text.joinWith ['\n'] ((e :: ds).map Declaration.render))).trans (ih others)
      rw [List.map_cons, List.map_cons, Text.joinWith, List.append_assoc, List.singleton_append, ← List.map_cons,
        List.flatMap_cons]
      exact (first _).trans (congrArg (ofText d.render ++ ·) later)

theorem of_list_map {α β : Type} (g : α → β) (es : List (Text × α)) :
    (Ordered.ofList es).map (fun e => (e.1, g e.2)) = Ordered.ofList (es.map fun e => (e.1, g e.2)) :=
  Ordered.put_all_map (f := id) (fun _ _ same => same) g es []

/-- Of several declarations under one name the last is read, in the place of the first. -/
theorem table_remarks {ds : List Declaration} {es : List (Text × List Topic)} (reads : ReadAs ds es)
    {root : Declaration} {topic : Topic} {members : List Topic}
    (own : Yields 0 root.render ((topic :: members).map Topic.remark)) :
    ofText ((ds.foldl Declaration.Table.insert .empty).assemble root) =
      (topicsOfText es topic members).map Topic.remark := by
  have entries : (ds.foldl Declaration.Table.insert .empty).entries = Ordered.ofList (ds.map fun d => (d.name, d)) :=
    Schema.insert_all_entries ds .empty
  have sheets : (Ordered.ofList (ds.map fun d => (d.name, d))).map (fun e => (e.1, ofText e.2.render)) =
      (Ordered.ofList es).map remarksOf := by
    have named := of_list_map (fun d : Declaration => ofText d.render) (ds.map fun d => (d.name, d))
    rw [List.map_map] at named
    exact named.trans ((congrArg Ordered.ofList reads.read).trans (of_list_map (List.map Topic.remark) es).symm)
  have apart : ∀ d ∈ (ds.foldl Declaration.Table.insert .empty).declarations ++ [root],
      Yields 0 d.render (ofText d.render) := by
    intro d mem
    rcases List.mem_append.mp mem with hoisted | last
    · rcases Schema.insert_all_mem hoisted with before | put
      · simp [Declaration.Table.empty, Declaration.Table.declarations] at before
      · exact reads.apart d put
    · rw [List.mem_singleton.mp last, own.whole]
      exact own
  rw [Declaration.Table.assemble, join_remarks apart, List.flatMap_append, List.flatMap_singleton, own.whole, topicsOfText,
    List.map_append]
  congr 1
  have read := congrArg (List.flatMap Prod.snd) sheets
  rw [List.flatMap_map, List.flatMap_map] at read
  rw [Declaration.Table.declarations, entries, List.flatMap_map, List.map_flatMap]
  exact read

end Remarks

namespace Schema

open Remarks

theorem root_remarks (s : Schema) {name : Text} (solid : Solid name) (role : Declaration.Role)
    {candidates : List (Option Text)} (first : s.comment? = firstText candidates) :
    Yields 0 (s.rootDeclaration name role).render
      ((⟨0, name, candidates⟩ :: s.memberTopics 0 : List Topic).map Topic.remark) := by
  have proper : nonempty? (firstText candidates) = firstText candidates := first_text_nonempty candidates
  rw [rootDeclaration, declarationKind, first]
  cases object : s.isObject with
  | false => exact alias_yields solid proper (s.type_remarks 0 solid.plain) role
  | true =>
    cases s with
    | object notes properties required =>
      rw [text_in_object]
      exact interface_yields solid proper (members_remarks 1 required.isRequired properties solid.plain) role
    | _ => simp [isObject] at object

mutual

theorem insertions_remarks (s : Schema) {name : Text} (solid : Solid name) :
    ReadAs (s.insertions name) (s.hoistedTopics name) := by
  have itemSolid : Solid (Naming.hoisted name) := solid.append (by decide)
  match s with
  | .object _ properties _ => exact property_insertions_remarks properties solid
  | .listOf _ item =>
    refine (insertions_remarks item itemSolid).append ?_
    split
    · rename_i object
      have root := root_remarks item itemSolid .nestedItem (comment_first item)
      rw [rootDeclaration, declarationKind, object] at root
      exact reads_one root
    · exact reads_nothing
  | .tuple _ members =>
    have body := alternatives_inside (parts_remarks 0 members itemSolid.plain)
    exact (part_insertions_remarks members itemSolid).append
      (reads_one (alias_yields itemSolid rfl body .nestedItem))
  | .list _ | .primitive _ _ | .enumeration _ _ _ | .reference _ _ | .any _ | .unknown _ _ => exact reads_nothing

theorem property_insertions_remarks (properties : Properties) {name : Text} (solid : Solid name) :
    ReadAs (propertyInsertions properties name) (propertyHoistedTopics properties name) := by
  match properties with
  | [] => exact reads_nothing
  | (_, s) :: rest => exact (insertions_remarks s solid).append (property_insertions_remarks rest solid)

theorem part_insertions_remarks (members : List Schema) {name : Text} (solid : Solid name) :
    ReadAs (partInsertions members name) (partHoistedTopics members name) := by
  match members with
  | [] => exact reads_nothing
  | s :: rest => exact (insertions_remarks s solid).append (part_insertions_remarks rest solid)

end

theorem declare_remarks (s : Schema) {name : Text} (solid : Solid name) (role : Declaration.Role)
    {candidates : List (Option Text)} (first : s.comment? = firstText candidates) :
    ofText (s.declare name role) = (s.topics name candidates).map Topic.remark := by
  rw [declare_hoisted, hoistedTable, hoist_inserts]
  exact table_remarks (s.insertions_remarks solid) (s.root_remarks solid role first)

theorem topics_with (n : Notes) (s : Schema) (name : Text) (candidates : List (Option Text)) :
    (s.withNotes n).topics name candidates = s.topics name candidates := by
  cases s <;> rfl

end Schema

namespace Operation

open Remarks

theorem described_topics (s : Schema) (description : Option Text) (name : Text) (candidates : List (Option Text)) :
    (describe s description).topics name candidates = s.topics name candidates := by
  unfold describe
  split
  · exact s.topics_with _ name candidates
  · rfl

theorem parameter_insertions_remarks (ps : List Parameter) {name : Text} (solid : Solid name) :
    ReadAs (ps.flatMap fun p => p.schema.insertions name) (ps.flatMap fun p => p.schema.hoistedTopics name) := by
  induction ps with
  | nil => exact reads_nothing
  | cons p ps ih => exact (p.schema.insertions_remarks solid).append ih

theorem parameter_members_remarks (ps : List Parameter) {name : Text} (plain : Plain name) :
    Yields 1 (ps.map fun p => Record.member p.name (p.schema.typeIn name).text p.required p.description).flatten
      ((ps.flatMap fun p => ⟨1, Record.key p.name, [p.description]⟩ :: p.schema.memberTopics 1).map Topic.remark) := by
  induction ps with
  | nil => exact yields_nothing 1
  | cons p ps ih =>
    exact members_inside (p.schema.type_remarks 1 plain) ih p.name p.required (first_text_single p.description).symm

theorem params_remarks (op : Operation) {name : Text} (solid : Solid name) :
    ofText (op.paramsText name) = (op.topics name [op.description.or op.summary]).map Topic.remark := by
  have first : op.paramsComment? = firstText [op.description.or op.summary] := (first_text_single _).symm
  have proper := first_text_nonempty [op.description.or op.summary]
  rw [paramsText, members, topics]
  cases lone : loneBody? op.parameters with
  | some body =>
    obtain ⟨required, properties⟩ := body
    simp only [Schema.members_insert, first]
    exact table_remarks (Schema.property_insertions_remarks properties solid)
      (interface_yields solid proper (Schema.members_remarks 1 required properties solid.plain) .params)
  | none =>
    simp only [parameter_members_insert, first]
    exact table_remarks (parameter_insertions_remarks op.parameters solid)
      (interface_yields solid proper (parameter_members_remarks op.parameters solid.plain) .params)

end Operation

/-! ### Generated texts -/

/-- The layout leaves the comments of a text alone. -/
theorem Remarks.layout_remarks {t : Text} (whole : Layout.Whole t) (width : Nat) :
    ofText (Formatter.orEmpty Layout.format width t) = ofText t := by
  obtain ⟨out, laidOut⟩ := whole.accepted width
  simp only [Formatter.orEmpty, laidOut]
  rw [ofText, ofText, Remarks.ofTextAt, Remarks.ofTextAt, Layout.format_keeps_shown laidOut]

namespace Operation

open Remarks

theorem topics_agree_iff (op : Operation) (name : Text) (cs ds : List (Option Text)) :
    (op.topics name cs).map Topic.remark = (op.topics name ds).map Topic.remark ↔
      (firstText cs).map Comment.shown = (firstText ds).map Comment.shown := by
  have roots (hoisted : List (Text × List Topic)) (members : List Topic) :
      (topicsOfText hoisted ⟨0, name, cs⟩ members).map Topic.remark =
          (topicsOfText hoisted ⟨0, name, ds⟩ members).map Topic.remark ↔
        (firstText cs).map Comment.shown = (firstText ds).map Comment.shown := by
    simp [topicsOfText, Topic.remark]
  unfold topics
  split
  · exact roots _ _
  · exact roots _ _

theorem declaration_name_solid (op : Operation) (config : Config) (role : Naming.Role) :
    Solid (op.declarationName config role) := Naming.resolve_solid _ _ _ role

theorem entity_remarks {op : Operation} {config : Config} {d : Declared} (made : op.entity? config Layout.format = some d) :
    ∃ r s, op.selected? = some r ∧ r.schema = some s ∧
      ofText d.text = (s.topics d.name (s.notes.candidates ++ [r.description])).map Topic.remark := by
  simp only [entity?, Option.bind_eq_bind, Option.bind_eq_some_iff, Option.pure_def, Option.some.injEq] at made
  obtain ⟨r, selected, s, schema, rfl⟩ := made
  have solid := op.declaration_name_solid config .entity
  have read := (describe s r.description).declare_remarks solid .entity (described_first s r.description)
  rw [described_topics] at read
  have laidOut := layout_remarks (Layout.declare_whole (describe s r.description) solid.plain .entity) config.indentWidth
  exact ⟨r, s, selected, schema, laidOut.trans read⟩

theorem asked_remarks {op : Operation} {config : Config} {d : Declared} (made : op.params? config Layout.format = some d) :
    ofText d.text = (op.topics d.name [op.description.or op.summary]).map Topic.remark := by
  simp only [params?, Option.ite_none_left_eq_some, Option.some.injEq] at made
  obtain ⟨-, rfl⟩ := made
  have solid := op.declaration_name_solid config .params
  exact (layout_remarks (Layout.params_whole op solid.plain) config.indentWidth).trans (op.params_remarks solid)

end Operation

/-- Every comment in the texts of definitions, of answers and of what operations ask for is the first of the texts meant for
it that has characters, and there is none if no such text has any. For what an operation asks for as a whole these texts
are the description or, if it is missing, the summary. They are the description and the summary but for operations with an
empty description and a summary. -/
theorem comments_follow_candidates (config : Config) (key : Text) (s : Schema) (op : Operation) :
    ofText (Api.definitionText config Layout.format key s).2 =
      (s.topics (Naming.ofDefinition key) s.notes.candidates).map Topic.remark ∧
    (∀ d, op.entity? config Layout.format = some d → ∃ r t, op.selected? = some r ∧ r.schema = some t ∧
      ofText d.text = (t.topics d.name (t.notes.candidates ++ [r.description])).map Topic.remark) ∧
    (∀ d, op.params? config Layout.format = some d →
      ofText d.text = (op.topics d.name [op.description.or op.summary]).map Topic.remark ∧
      (ofText d.text = (op.topics d.name [op.description, op.summary]).map Topic.remark ↔
        ¬ (op.description = some [] ∧ (nonempty? op.summary).isSome = true))) ∧
    (∀ name required comment, ofText (Record.member name s.inline.text required comment) =
      (⟨0, Record.key name, [comment]⟩ :: s.inlineTopics 0 : List Topic).map Topic.remark) ∧
    (∀ candidates, firstText candidates = none ↔ ∀ t ∈ candidates, t = none ∨ t = some []) := by
  refine ⟨?_, fun d made => Operation.entity_remarks made, ?_, ?_, first_text_none_iff⟩
  · have solid : Solid (Naming.ofDefinition key) := Text.camel_solid key
    have laidOut := Remarks.layout_remarks (Layout.declare_whole s solid.plain .definition) config.indentWidth
    exact laidOut.trans (s.declare_remarks solid .definition (comment_first s))
  · intro d made
    have read := Operation.asked_remarks made
    refine ⟨read, ?_⟩
    rw [read, Operation.topics_agree_iff, first_text_or_iff]
  · intro name required comment
    have read := (Remarks.member_yields (s.inline_remarks 0) name required comment).whole
    rw [← first_text_single] at read
    exact read

def readingOperation : Operation where
  route := "/books".toList
  verb := .get
  id := none
  parameters := [⟨"q".toList, .query, false, some "A word\nof the title".toList, .primitive .none .string, .null⟩,
    ⟨"page".toList, .query, false, some [], .primitive .none .number, .null⟩]
  responses := [("200".toList, ⟨some "All books".toList, some (.listOf ⟨some [], none⟩ (.object ⟨some [], some "A book".toList⟩
    [("id".toList, .primitive ⟨none, some "Its */ number".toList⟩ .number), ("by".toList, .any .none)] .unspecified)), none⟩)]
  summary := some "Lists books".toList
  description := none

theorem reading_comments_follow_candidates :
    (∃ d, readingOperation.entity? .standard Layout.format = some d ∧ ofText d.text =
      [⟨0, "GetBooksEntityItem".toList, some ["/**".toList, "* A book".toList, "*/".toList]⟩,
        ⟨1, "id".toList, some ["/**".toList, "* Its *\\/ number".toList, "*/".toList]⟩, ⟨1, "by".toList, none⟩,
        ⟨0, "GetBooksEntity".toList, some ["/**".toList, "* All books".toList, "*/".toList]⟩]) ∧
    (∃ d, readingOperation.params? .standard Layout.format = some d ∧ ofText d.text =
      [⟨0, "GetBooksParams".toList, some ["/**".toList, "* Lists books".toList, "*/".toList]⟩,
        ⟨1, "q".toList, some ["/**".toList, "* A word".toList, "* of the title".toList, "*/".toList]⟩,
        ⟨1, "page".toList, none⟩]) := by
  have rule := comments_follow_candidates .standard [] (.any .none) readingOperation
  constructor
  · obtain ⟨r, t, selected, schema, read⟩ := rule.2.1 _ rfl
    cases selected
    cases schema
    exact ⟨_, rfl, read.trans (by decide +kernel)⟩
  · exact ⟨_, rfl, (rule.2.2.1 _ rfl).1.trans (by decide +kernel)⟩

def blankOperation : Operation where
  route := "/pets".toList
  verb := .get
  id := none
  parameters := [⟨"q".toList, .query, false, none, .primitive .none .string, .null⟩]
  responses := []
  summary := some "All pets".toList
  description := some []

/-- An empty description hides the summary. -/
theorem empty_description_hides_summary :
    firstText [blankOperation.description, blankOperation.summary] = some "All pets".toList ∧
    ∃ d, blankOperation.params? .standard Layout.format = some d ∧
      ofText d.text = [⟨0, "GetPetsParams".toList, none⟩, ⟨1, "q".toList, none⟩] :=
  ⟨rfl, _, rfl, by decide +kernel⟩

end ApiTypes
