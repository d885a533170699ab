import ApiTypes.Proofs.Closure
import ApiTypes.Proofs.Denotation
/-!
What the type of a schema denotes when nothing is hoisted out of it. The text always reads as a type and refers to no
declaration. It is the type of the schema unless some tuple has an enumeration of several values as its only member:
the alternatives of that member stand without parentheses before the mark of the array.
-/
namespace ApiTypes.Script

theorem array_last_single {ts : List Term} (single : ∀ t ∈ ts, Single t) : ∀ t ∈ arrayLast ts, Single t := by
  fun_induction arrayLast ts with
  | case1 => exact single
  | case2 t =>
    intro u mem
    rw [List.mem_singleton.mp mem]
    rfl
  | case3 t ts _ ih =>
    intro u mem
    rcases List.mem_cons.mp mem with first | later
    · exact single u (by simp [first])
    · exact ih (fun v inside => single v (List.mem_cons_of_mem t inside)) u later

theorem array_last_length (ts : List Term) : (arrayLast ts).length = ts.length := by
  fun_induction arrayLast ts with
  | case1 => rfl
  | case2 t => rfl
  | case3 t ts _ ih => rw [List.length_cons, ih, List.length_cons]

theorem flat_array_last {ts : List Term} {t : Term} (single : ∀ u ∈ ts, Single u) :
    flatAlternatives (arrayLast ts) = (Term.array t).flat.alternatives ↔
      ts.length = 1 ∧ flatAlternatives ts = t.flat.alternatives := by
  by_cases lone : ts.length = 1
  · obtain ⟨u, rfl⟩ := List.length_eq_one_iff.mp lone
    have element : (Term.array u).flat = (Term.array t).flat ↔ u.flat = t.flat := by simp [Term.flat]
    have array := flat_eq_iff [.array u] (.array t)
    have alone := flat_eq_iff [u] t
    simp only [unionOf] at array alone
    rw [arrayLast, ← array, element, alone]
    simp
  · constructor
    · intro same
      have lengths := congrArg List.length same
      rw [flat_alternatives_length (array_last_single single), array_last_length] at lengths
      exact absurd lengths lone
    · intro both
      exact absurd both.1 lone

theorem flat_array_union {ts : List Term} {t : Term} :
    flatAlternatives [.array (unionOf ts)] = (Term.array t).flat.alternatives ↔
      flatAlternatives ts = t.flat.alternatives := by
  rw [← flat_eq_iff, ← flat_eq_iff]
  simp [unionOf, Term.flat]

theorem array_last_references (ts : List Term) : referencesOf (arrayLast ts) = referencesOf ts := by
  fun_induction arrayLast ts with
  | case1 => rfl
  | case2 t => rfl
  | case3 t ts _ ih => rw [referencesOf, ih, referencesOf]

theorem array_terms_references (e : TypeExpr) (ts : List Term) : referencesOf (arrayTerms e ts) = referencesOf ts := by
  cases e with
  | union x => simp [arrayTerms, referencesOf, Term.references, references_union_of]
  | inline x => exact array_last_references ts
  | reference x => exact array_last_references ts

theorem append_agrees {as bs cs ds : List Term} (left : cs.length ≤ as.length) (right : ds.length ≤ bs.length) :
    as ++ bs = cs ++ ds ↔ as = cs ∧ bs = ds := by
  constructor
  · intro same
    have lengths := congrArg List.length same
    rw [List.length_append, List.length_append] at lengths
    exact List.append_inj same (by omega)
  · rintro ⟨rfl, rfl⟩
    rfl

end ApiTypes.Script

namespace ApiTypes.Schema

open Script (Term Members unionOf AlternativesText MembersText Single arrayLast arrayTerms flatAlternatives flatMembers
  referencesOf memberReferences)

/-! ### What the text reads as -/

mutual

def inlineTerms : Schema → List Term
  | object _ properties required => [.record (inlineMemberTerms required.isRequired properties)]
  | list _ => [.array .any]
  | listOf _ item =>
    if item.isObject then [.array (unionOf (inlineTerms item))] else arrayTerms item.inline (inlineTerms item)
  | tuple _ members =>
    arrayTerms (TypeExpr.alternatives "any".toList (inlineParts members)) (orAlone .any (inlinePartTerms members))
  | primitive _ kind => [.name kind.name]
  | enumeration _ kind values => orAlone .never (values.map (literalType kind))
  | reference _ _ | any _ | unknown _ _ => [.any]

def inlineMemberTerms (required : Text → Bool) : Properties → Members
  | [] => []
  | (property, s) :: rest => (property, !required property, unionOf (inlineTerms s)) :: inlineMemberTerms required rest

def inlinePartTerms : List Schema → List Term
  | [] => []
  | s :: rest => inlineTerms s ++ inlinePartTerms rest

end

mutual

theorem inline_reads (s : Schema) : AlternativesText s.inline.text s.inlineTerms := by
  match s with
  | object _ properties required =>
    exact (Script.body_text (inline_members_read required.isRequired properties)).alternative
  | list _ => exact Script.any_text.array.alternative
  | listOf _ item =>
    have inner := inline_reads item
    rw [inline, inlineTerms]
    split
    · exact inner.generic_array.alternative
    · have array := Script.array_terms_text inner
      revert array
      cases item.inline <;> exact id
  | tuple _ members =>
    refine Script.array_terms_text ?_
    cases members with
    | nil => exact Script.any_text.alternative
    | cons s rest =>
      have shown := inline_parts_read (s :: rest) (by simp)
      rw [Script.alternatives_join (by simp [inlineParts]), orAlone, if_neg (by simpa using shown.nonempty)]
      exact shown
  | primitive _ kind => exact (primitive_text kind).alternative
  | enumeration _ kind values => exact (literals_show kind values).alternatives
  | reference _ _ | any _ | unknown _ _ => exact Script.any_text.alternative

theorem inline_members_read (required : Text → Bool) (properties : Properties) :
    MembersText (inlineMembers required properties).flatten (inlineMemberTerms required properties) := by
  match properties with
  | [] => exact Script.no_member_text
  | (property, s) :: rest =>
    rw [inlineMembers, List.flatten_cons]
    exact Script.member_text (required property) s.comment? (inline_reads s) (inline_members_read required rest)

theorem inline_parts_read (members : List Schema) (some : members ≠ []) :
    AlternativesText (Text.joinWith Script.bar (inlineParts members)) (inlinePartTerms members) := by
  match members with
  | [] => exact absurd rfl some
  | [s] => simpa [Text.joinWith, inlineParts, inlinePartTerms] using inline_reads s
  | s :: next :: rest =>
    have first := inline_reads s
    have later := inline_parts_read (next :: rest) (by simp)
    exact first.append later

end

theorem inline_terms_nonempty (s : Schema) : s.inlineTerms ≠ [] := (inline_reads s).nonempty

theorem inline_part_terms_nonempty (s : Schema) (rest : List Schema) : inlinePartTerms (s :: rest) ≠ [] := by
  simp [inlinePartTerms, inline_terms_nonempty]

mutual

theorem inline_references (s : Schema) : referencesOf s.inlineTerms = [] := by
  match s with
  | object _ properties required =>
    have members := inline_member_references required.isRequired properties
    simp [inlineTerms, referencesOf, Term.references, members]
  | listOf _ item =>
    have inner := inline_references item
    rw [inlineTerms]
    split
    · simp [referencesOf, Term.references, Script.references_union_of, inner]
    · rw [Script.array_terms_references, inner]
  | tuple _ members =>
    rw [inlineTerms, Script.array_terms_references]
    unfold orAlone
    split
    · rfl
    · exact inline_part_references members
  | primitive _ kind => cases kind <;> rfl
  | enumeration _ kind values => exact literals_references kind values
  | list _ | reference _ _ | any _ | unknown _ _ => rfl

theorem inline_member_references (required : Text → Bool) (properties : Properties) :
    memberReferences (inlineMemberTerms required properties) = [] := by
  match properties with
  | [] => rfl
  | (_, s) :: rest =>
    rw [inlineMemberTerms, memberReferences, Script.references_union_of, inline_references s,
      inline_member_references required rest, List.append_nil]

theorem inline_part_references (members : List Schema) : referencesOf (inlinePartTerms members) = [] := by
  match members with
  | [] => rfl
  | s :: rest =>
    rw [inlinePartTerms, Script.references_of_append, inline_references s, inline_part_references rest, List.append_nil]

end

/-! ### Alternatives -/

def isChoice : Schema → Bool
  | enumeration _ _ values => 1 < values.length
  | _ => false

/-- Parentheses are put around a schema that is a choice, and around no other. -/
theorem array_terms_inline (s : Schema) (ts : List Term) :
    arrayTerms s.inline ts = if s.isChoice then [.array (unionOf ts)] else arrayLast ts := by
  cases s with
  | enumeration _ kind values =>
    match values with
    | [] => rfl
    | [_] => rfl
    | _ :: _ :: _ => simp [inline, TypeExpr.literals, TypeExpr.alternatives, arrayTerms, isChoice]
  | listOf _ item =>
    rw [inline]
    split
    · rfl
    · cases item.inline <;> rfl
  | _ => rfl

theorem literal_single (kind : Primitive) (v : Json) : Single (literalType kind v) := by
  unfold literalType
  split
  · rfl
  · split
    · rfl
    · split <;> rfl

theorem literals_single (kind : Primitive) (values : List Json) :
    ∀ t ∈ orAlone .never (values.map (literalType kind)), Single t := by
  intro t mem
  unfold orAlone at mem
  split at mem
  · rw [List.mem_singleton.mp mem]
    rfl
  · obtain ⟨v, -, rfl⟩ := List.mem_map.mp mem
    exact literal_single kind v

theorem array_terms_single {e : TypeExpr} {ts : List Term} (single : ∀ t ∈ ts, Single t) :
    ∀ t ∈ arrayTerms e ts, Single t := by
  cases e with
  | union x =>
    intro t mem
    rw [List.mem_singleton.mp mem]
    rfl
  | inline x => exact Script.array_last_single single
  | reference x => exact Script.array_last_single single

mutual

theorem inline_single (s : Schema) : ∀ t ∈ s.inlineTerms, Single t := by
  match s with
  | listOf _ item =>
    rw [inlineTerms]
    split
    · intro t mem
      rw [List.mem_singleton.mp mem]
      rfl
    · exact array_terms_single (inline_single item)
  | tuple _ members =>
    refine array_terms_single ?_
    unfold orAlone
    split
    · intro t mem
      rw [List.mem_singleton.mp mem]
      rfl
    · exact inline_parts_single members
  | enumeration _ kind values => exact literals_single kind values
  | object _ _ _ | list _ | primitive _ _ | reference _ _ | any _ | unknown _ _ =>
    intro t mem
    rw [List.mem_singleton.mp mem]
    rfl

theorem inline_parts_single (members : List Schema) : ∀ t ∈ inlinePartTerms members, Single t := by
  match members with
  | [] => simp [inlinePartTerms]
  | s :: rest =>
    intro t mem
    rcases List.mem_append.mp mem with first | later
    · exact inline_single s t first
    · exact inline_parts_single rest t later

end

theorem type_single {s : Schema} (plain : s.isChoice = false) : s.type.flat.alternatives = [s.type.flat] := by
  refine Script.single_flat ?_
  cases s with
  | enumeration _ kind values =>
    match values with
    | [] => rfl
    | [v] => exact literal_single kind v
    | _ :: _ :: _ => simp [isChoice] at plain
  | _ => rfl

theorem choice_terms {s : Schema} (choice : s.isChoice = true) :
    s.inlineTerms.length ≠ 1 ∧ flatAlternatives s.inlineTerms = s.type.flat.alternatives := by
  cases s with
  | enumeration _ kind values =>
    have several : 1 < values.length := by simpa [isChoice] using choice
    have some : values ≠ [] := by
      rintro rfl
      simp at several
    constructor
    · rw [inlineTerms, orAlone, if_neg (by simpa using some), List.length_map]
      omega
    · rw [inlineTerms, type, Script.flat_union_of_alternatives]
  | _ => simp [isChoice] at choice

/-- A text may read as more alternatives than its type has, but never as fewer. -/
theorem type_alternatives_le (s : Schema) : s.type.flat.alternatives.length ≤ (flatAlternatives s.inlineTerms).length := by
  cases choice : s.isChoice with
  | true => exact Nat.le_of_eq (congrArg List.length (choice_terms choice).2.symm)
  | false =>
    rw [type_single choice, Script.flat_alternatives_length (inline_single s)]
    exact List.length_pos_iff.mpr (inline_terms_nonempty s)

theorem part_alternatives_le (members : List Schema) :
    (flatAlternatives (types members)).length ≤ (flatAlternatives (inlinePartTerms members)).length := by
  induction members with
  | nil => exact Nat.le_refl _
  | cons s rest ih =>
    have first := type_alternatives_le s
    rw [types, inlinePartTerms, Script.flat_alternatives_append, flatAlternatives, List.length_append, List.length_append]
    omega

/-! ### When the text denotes the schema -/

mutual

def subschemas : Schema → List Schema
  | object notes properties required => object notes properties required :: propertySubschemas properties
  | listOf notes item => listOf notes item :: subschemas item
  | tuple notes members => tuple notes members :: partSubschemas members
  | s => [s]

def propertySubschemas : Properties → List Schema
  | [] => []
  | (_, s) :: rest => subschemas s ++ propertySubschemas rest

def partSubschemas : List Schema → List Schema
  | [] => []
  | s :: rest => subschemas s ++ partSubschemas rest

end

def isLoneChoice : Schema → Bool
  | tuple _ [s] => s.isChoice
  | _ => false

theorem marked_agrees (s : Schema) :
    flatAlternatives (arrayLast s.inlineTerms) = (Term.array s.type).flat.alternatives ↔
      s.isChoice = false ∧ flatAlternatives s.inlineTerms = s.type.flat.alternatives := by
  rw [Script.flat_array_last (inline_single s)]
  constructor
  · rintro ⟨lone, agree⟩
    refine ⟨?_, agree⟩
    cases choice : s.isChoice with
    | true => exact absurd lone (choice_terms choice).1
    | false => rfl
  · rintro ⟨plain, agree⟩
    refine ⟨?_, agree⟩
    rw [← Script.flat_alternatives_length (inline_single s), agree, type_single plain, List.length_singleton]

theorem array_agrees (s : Schema) :
    flatAlternatives (arrayTerms s.inline s.inlineTerms) = (Term.array s.type).flat.alternatives ↔
      flatAlternatives s.inlineTerms = s.type.flat.alternatives := by
  rw [array_terms_inline]
  split
  · exact Script.flat_array_union
  · rename_i plain
    rw [marked_agrees]
    simp [plain]

mutual

theorem inline_agrees (s : Schema) :
    flatAlternatives s.inlineTerms = s.type.flat.alternatives ↔ ∀ u ∈ s.subschemas, u.isLoneChoice = false := by
  match s with
  | object notes properties required =>
    have members := inline_members_agree required.isRequired properties
    rw [subschemas, List.forall_mem_cons, ← members]
    simp [inlineTerms, flatAlternatives, Term.flat, Term.alternatives, type, isLoneChoice]
  | listOf notes item =>
    have inner := inline_agrees item
    have plain : (listOf notes item).isLoneChoice = false := rfl
    rw [subschemas, List.forall_mem_cons, and_iff_right plain, ← inner, inlineTerms, type]
    split
    · exact Script.flat_array_union
    · exact array_agrees item
  | tuple notes members =>
    have parts := inline_parts_agree members
    rw [subschemas, List.forall_mem_cons, ← parts, inlineTerms, type]
    match members with
    | [] => exact iff_of_true rfl ⟨rfl, rfl⟩
    | [s] =>
      have alone : inlinePartTerms [s] = s.inlineTerms := List.append_nil _
      have single : flatAlternatives (types [s]) = s.type.flat.alternatives := List.append_nil _
      rw [orAlone, if_neg (by simpa using inline_part_terms_nonempty s []), alone, single]
      exact marked_agrees s
    | first :: second :: rest =>
      have plain : (tuple notes (first :: second :: rest)).isLoneChoice = false := rfl
      rw [orAlone, if_neg (by simpa using inline_part_terms_nonempty first (second :: rest)), and_iff_right plain,
        ← Script.flat_union_of_alternatives (types _)]
      exact Script.flat_array_union
  | list _ | primitive _ _ | reference _ _ | any _ | unknown _ _ =>
    simp [inlineTerms, type, flatAlternatives, subschemas, isLoneChoice]
  | enumeration _ kind values =>
    rw [inlineTerms, type, Script.flat_union_of_alternatives]
    simp [subschemas, isLoneChoice]

theorem inline_members_agree (required : Text → Bool) (properties : Properties) :
    flatMembers (inlineMemberTerms required properties) = flatMembers (memberTypes required properties) ↔
      ∀ u ∈ propertySubschemas properties, u.isLoneChoice = false := by
  match properties with
  | [] => simp [inlineMemberTerms, memberTypes, propertySubschemas]
  | (property, s) :: rest =>
    have first := inline_agrees s
    have later := inline_members_agree required rest
    rw [propertySubschemas, List.forall_mem_append, ← first, ← later, ← Script.flat_eq_iff]
    simp [inlineMemberTerms, memberTypes, flatMembers]

theorem inline_parts_agree (members : List Schema) :
    flatAlternatives (inlinePartTerms members) = flatAlternatives (types members) ↔
      ∀ u ∈ partSubschemas members, u.isLoneChoice = false := by
  match members with
  | [] => simp [inlinePartTerms, types, partSubschemas]
  | s :: rest =>
    have first := inline_agrees s
    have later := inline_parts_agree rest
    rw [partSubschemas, List.forall_mem_append, ← first, ← later, inlinePartTerms, types,
      Script.flat_alternatives_append, flatAlternatives]
    exact Script.append_agrees (type_alternatives_le s) (part_alternatives_le rest)

end

/-- Without hoisting, too, a schema is written as a type, and as one that refers to nothing. It is the type of the schema,
up to unions in unions, exactly if no tuple in the schema has a choice as its only member. -/
theorem inline_denotes_schema_iff (s : Schema) :
    ∃ t, Script.type? s.inline.text = some t ∧ t.references = [] ∧
      (t.flat = s.type.flat ↔ ∀ u ∈ s.subschemas, u.isLoneChoice = false) := by
  refine ⟨unionOf s.inlineTerms, (inline_reads s).type_read, ?_, ?_⟩
  · rw [Script.references_union_of, inline_references]
  · rw [Script.flat_eq_iff, inline_agrees]

def grades : Schema := .tuple Notes.none [.enumeration Notes.none .string [.str ['a'], .str ['b']]]

/-- A reader takes it for the first literal or an array of the second. -/
theorem lone_choice_loses_parentheses :
    grades.inline.text = "\"a\" | \"b\"[]".toList ∧
      ∃ t, Script.type? grades.inline.text = some t ∧ t = .union [.text ['a'], .array (.text ['b'])] ∧
        t.flat ≠ grades.type.flat := by
  refine ⟨by decide, _, rfl, rfl, ?_⟩
  intro same
  simp [grades, type, types, orAlone, Script.Term.flat, flatAlternatives, unionOf, Term.alternatives] at same

end ApiTypes.Schema
