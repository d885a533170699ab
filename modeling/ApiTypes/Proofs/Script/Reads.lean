import ApiTypes.Declaration.Basic
import ApiTypes.Proofs.Script.Numeral
import ApiTypes.Proofs.Script.Term
import ApiTypes.TypeExpr
/-!
Texts that read as types. `Operand` texts can stand before the mark of an array; a text with several
alternatives cannot. Each way in which a text is put together from others has its lemma here.
-/
namespace ApiTypes.Script

/-! ### Tokens -/

def EndsType (rest : List Token) : Prop := ∀ c ∈ ['|', '[', '<'], rest.head? ≠ some (.mark c)

/- `arrays` takes the marks that follow, so an operand is one for every rest. -/
def ReadsOperand (tokens : List Token) (t : Term) : Prop :=
  ∀ fuel rest, 2 * tokens.length ≤ fuel + 1 → rest.head? ≠ some (.mark '<') →
    ∃ p later, primaryWithin fuel (tokens ++ rest) = some (p, later) ∧ arrays p later = arrays t rest

def ReadsAlternatives (tokens : List Token) (ts : List Term) : Prop :=
  ∀ fuel rest, 2 * tokens.length ≤ fuel → EndsType rest → alternativesWithin fuel (tokens ++ rest) = some (ts, rest)

def ReadsMembers (tokens : List Token) (members : Members) : Prop :=
  ∀ fuel rest, 2 * tokens.length ≤ fuel → membersWithin fuel (tokens ++ rest) = some (members, rest)

theorem arrays_stop {t : Term} {rest : List Token} (ends : rest.head? ≠ some (.mark '[')) : arrays t rest = (t, rest) := by
  unfold arrays
  split
  · simp at ends
  · rfl

theorem after_bar_stop {rest : List Token} (ends : rest.head? ≠ some (.mark '|')) : after? '|' rest = none := by
  unfold after?
  split
  · rename_i d rest
    simp at ends
    simp [ends]
  · rfl

theorem operand_alternative {tokens : List Token} {t : Term} (operand : ReadsOperand tokens t) (some : tokens ≠ []) :
    ReadsAlternatives tokens [t] := by
  intro fuel rest enough ends
  have positive := List.length_pos_iff.mpr some
  obtain ⟨fuel, rfl⟩ : ∃ n, fuel = n + 1 := ⟨fuel - 1, by omega⟩
  obtain ⟨p, later, reads, same⟩ := operand fuel rest (by omega) (ends '<' (by simp))
  rw [arrays_stop (ends '[' (by simp))] at same
  simp [alternativesWithin, reads, same, after_bar_stop (ends '|' (by simp))]

theorem operand_then_alternatives {left right : List Token} {t : Term} {ts : List Term}
    (operand : ReadsOperand left t) (others : ReadsAlternatives right ts) :
    ReadsAlternatives (left ++ .mark '|' :: right) (t :: ts) := by
  intro fuel rest enough ends
  simp only [List.length_append, List.length_cons] at enough
  obtain ⟨fuel, rfl⟩ : ∃ n, fuel = n + 1 := ⟨fuel - 1, by omega⟩
  obtain ⟨p, later, reads, same⟩ := operand fuel (.mark '|' :: (right ++ rest)) (by omega) (by simp)
  rw [arrays_stop (t := t) (by simp)] at same
  have more := others fuel rest (by omega) ends
  rw [List.append_assoc, List.cons_append]
  simp [alternativesWithin, reads, same, after?, more]

theorem operand_array {tokens : List Token} {t : Term} (operand : ReadsOperand tokens t) :
    ReadsOperand (tokens ++ [.mark '[', .mark ']']) (.array t) := by
  intro fuel rest enough follows
  simp only [List.length_append, List.length_cons, List.length_nil] at enough
  obtain ⟨p, later, reads, same⟩ := operand fuel (.mark '[' :: .mark ']' :: rest) (by omega) (by simp)
  exact ⟨p, later, by simpa using reads, by rw [same, arrays]⟩

theorem parenthesized_operand {tokens : List Token} {ts : List Term} (reads : ReadsAlternatives tokens ts) :
    ReadsOperand (.mark '(' :: (tokens ++ [.mark ')'])) (unionOf ts) := by
  intro fuel rest enough _
  simp only [List.length_cons, List.length_append, List.length_nil] at enough
  obtain ⟨fuel, rfl⟩ : ∃ n, fuel = n + 1 := ⟨fuel - 1, by omega⟩
  have inner := reads fuel (.mark ')' :: rest) (by omega) (by simp [EndsType])
  refine ⟨unionOf ts, rest, ?_, rfl⟩
  simp [primaryWithin, inner, after?]

theorem generic_array_operand {tokens : List Token} {ts : List Term} (reads : ReadsAlternatives tokens ts) :
    ReadsOperand (.word "Array".toList :: .mark '<' :: (tokens ++ [.mark '>'])) (.array (unionOf ts)) := by
  intro fuel rest enough _
  simp only [List.length_cons, List.length_append, List.length_nil] at enough
  obtain ⟨fuel, rfl⟩ : ∃ n, fuel = n + 1 := ⟨fuel - 1, by omega⟩
  have inner := reads fuel (.mark '>' :: rest) (by omega) (by simp [EndsType])
  refine ⟨.array (unionOf ts), rest, ?_, rfl⟩
  simp [primaryWithin, inner, after?]

theorem record_operand {tokens : List Token} {members : Members} (reads : ReadsMembers tokens members) :
    ReadsOperand (.mark '{' :: tokens) (.record members) := by
  intro fuel rest enough _
  simp only [List.length_cons] at enough
  obtain ⟨fuel, rfl⟩ : ∃ n, fuel = n + 1 := ⟨fuel - 1, by omega⟩
  have inner := reads fuel rest (by omega)
  refine ⟨.record members, rest, ?_, rfl⟩
  simp [primaryWithin, inner]

theorem word_operand (w : Text) : ReadsOperand [.word w] (.name w) := by
  intro fuel rest enough follows
  obtain ⟨fuel, rfl⟩ : ∃ n, fuel = n + 1 := ⟨fuel - 1, by simp at enough; omega⟩
  refine ⟨.name w, rest, ?_, rfl⟩
  simp only [List.cons_append, List.nil_append, primaryWithin]
  split
  case h_3 =>
    rename_i shape
    cases shape
    exact absurd rfl follows
  case h_4 =>
    rename_i shape
    cases shape
    rfl
  case h_7 =>
    rename_i other _ _
    exact absurd rfl (other w rest)
  all_goals
    rename_i shape
    cases shape

theorem text_operand (s : Text) : ReadsOperand [.text s] (.text s) := by
  intro fuel rest enough _
  obtain ⟨fuel, rfl⟩ : ∃ n, fuel = n + 1 := ⟨fuel - 1, by simp at enough; omega⟩
  exact ⟨.text s, rest, by simp [primaryWithin], rfl⟩

theorem number_operand (n : Text) : ReadsOperand [.number n] (.number n) := by
  intro fuel rest enough _
  obtain ⟨fuel, rfl⟩ : ∃ n, fuel = n + 1 := ⟨fuel - 1, by simp at enough; omega⟩
  exact ⟨.number n, rest, by simp [primaryWithin], rfl⟩

theorem no_members : ReadsMembers [.mark '}'] [] := by
  intro fuel rest enough
  obtain ⟨fuel, rfl⟩ : ∃ n, fuel = n + 1 := ⟨fuel - 1, by simp at enough; omega⟩
  simp [membersWithin]

def separator (isOptional : Bool) : List Token := if isOptional then [.mark '?', .mark ':'] else [.mark ':']

theorem member_then_members {token : Token} {key : Text} {isOptional : Bool} {left right : List Token} {ts : List Term}
    {members : Members} (named : key? token = some key) (type : ReadsAlternatives left ts)
    (others : ReadsMembers right members) :
    ReadsMembers (token :: (separator isOptional ++ left ++ .mark ';' :: right))
      ((key, isOptional, unionOf ts) :: members) := by
  intro fuel rest enough
  simp only [List.length_append, List.length_cons] at enough
  obtain ⟨fuel, rfl⟩ : ∃ n, fuel = n + 1 := ⟨fuel - 1, by omega⟩
  have notEnd : token ≠ .mark '}' := by
    rintro rfl
    simp [key?] at named
  have inner := type fuel (.mark ';' :: (right ++ rest)) (by omega) (by simp [EndsType])
  have more := others fuel rest (by omega)
  cases isOptional <;> simp [membersWithin, notEnd, named, separator, optional, after?, inner, more]

/-! ### Texts -/

def OperandText (x : Text) (t : Term) : Prop := ∃ tokens, Scans x tokens ∧ tokens ≠ [] ∧ ReadsOperand tokens t

def bar : Text := [' ', '|', ' ']

def AlternativesText (x : Text) (ts : List Term) : Prop :=
  ∃ parts : List (Text × Term), parts ≠ [] ∧ (∀ part ∈ parts, OperandText part.1 part.2) ∧
    x = Text.joinWith bar (parts.map Prod.fst) ∧ ts = parts.map Prod.snd

def MembersText (x : Text) (members : Members) : Prop :=
  ∃ tokens, ScansFreely (x ++ ['}']) tokens ∧ ReadsMembers tokens members

theorem bar_scans : ScansFreely bar [.mark '|'] :=
  (blank_scans (c := ' ') rfl).append ((mark_scans (c := '|') rfl).append (blank_scans (c := ' ') rfl))

theorem AlternativesText.reads {x : Text} {ts : List Term} (alternatives : AlternativesText x ts) :
    ∃ tokens, Scans x tokens ∧ ReadsAlternatives tokens ts := by
  obtain ⟨parts, nonempty, operands, rfl, rfl⟩ := alternatives
  induction parts with
  | nil => exact absurd rfl nonempty
  | cons part parts ih =>
    obtain ⟨left, scans, someTokens, reads⟩ := operands part (by simp)
    cases parts with
    | nil => exact ⟨left, scans, operand_alternative reads someTokens⟩
    | cons next parts =>
      obtain ⟨right, scansRest, readsRest⟩ := ih (by simp) fun p mem => operands p (by simp [mem])
      refine ⟨left ++ ([.mark '|'] ++ right), ?_, operand_then_alternatives reads readsRest⟩
      have joined := scans.append_word rfl (bar_scans.append_word scansRest)
      simpa [Text.joinWith] using joined

theorem OperandText.alternative {x : Text} {t : Term} (operand : OperandText x t) : AlternativesText x [t] :=
  ⟨[(x, t)], by simp, by simpa using operand, rfl, rfl⟩

theorem AlternativesText.nonempty {x : Text} {ts : List Term} (alternatives : AlternativesText x ts) : ts ≠ [] := by
  obtain ⟨parts, nonempty, -, -, rfl⟩ := alternatives
  simpa using nonempty

theorem AlternativesText.append {x y : Text} {ts us : List Term} (left : AlternativesText x ts)
    (right : AlternativesText y us) : AlternativesText (x ++ bar ++ y) (ts ++ us) := by
  obtain ⟨ps, someLeft, operandsLeft, rfl, rfl⟩ := left
  obtain ⟨qs, someRight, operandsRight, rfl, rfl⟩ := right
  refine ⟨ps ++ qs, by simp [someLeft], ?_, ?_, by simp⟩
  · intro part mem
    exact (List.mem_append.mp mem).elim (operandsLeft part) (operandsRight part)
  · rw [List.map_append, Text.join_with_append (by simpa using someLeft) (by simpa using someRight)]

theorem array_mark_scans : ScansFreely TypeExpr.arrayMark [.mark '[', .mark ']'] :=
  (mark_scans (c := '[') rfl).append (mark_scans (c := ']') rfl)

theorem OperandText.array {x : Text} {t : Term} (operand : OperandText x t) :
    OperandText (x ++ TypeExpr.arrayMark) (.array t) := by
  obtain ⟨tokens, scans, -, reads⟩ := operand
  exact ⟨tokens ++ [.mark '[', .mark ']'], (scans.append rfl array_mark_scans).scans, by simp, operand_array reads⟩

theorem AlternativesText.parenthesized {x : Text} {ts : List Term} (alternatives : AlternativesText x ts) :
    OperandText (['('] ++ x ++ [')']) (unionOf ts) := by
  obtain ⟨tokens, scans, reads⟩ := alternatives.reads
  have opened := (mark_scans (c := '(') rfl).append_word scans
  have closed := opened.append rfl (mark_scans (c := ')') rfl)
  exact ⟨_, closed.scans, by simp, parenthesized_operand reads⟩

theorem AlternativesText.generic_array {x : Text} {ts : List Term} (alternatives : AlternativesText x ts) :
    OperandText ("Array<".toList ++ x ++ ['>']) (.array (unionOf ts)) := by
  obtain ⟨tokens, scans, reads⟩ := alternatives.reads
  have opened := (word_scans (w := "Array".toList) (by decide)).append rfl (mark_scans (c := '<') rfl)
  have closed := (opened.append_word scans).append rfl (mark_scans (c := '>') rfl)
  exact ⟨_, closed.scans, by simp, generic_array_operand reads⟩

/-- The alternatives once the mark of an array stands behind them: without parentheses it is on the last one alone. -/
def arrayLast : List Term → List Term
  | [] => []
  | [t] => [.array t]
  | t :: ts => t :: arrayLast ts

theorem AlternativesText.marked {x : Text} {ts : List Term} (alternatives : AlternativesText x ts) :
    AlternativesText (x ++ TypeExpr.arrayMark) (arrayLast ts) := by
  obtain ⟨parts, nonempty, operands, rfl, rfl⟩ := alternatives
  induction parts with
  | nil => exact absurd rfl nonempty
  | cons part parts ih =>
    have first := operands part (by simp)
    cases parts with
    | nil => exact first.array.alternative
    | cons next parts =>
      have later := ih (by simp) fun p mem => operands p (by simp [mem])
      have joined := first.alternative.append later
      simpa [Text.joinWith, arrayLast] using joined

theorem AlternativesText.type_read {x : Text} {ts : List Term} (alternatives : AlternativesText x ts) :
    type? x = some (unionOf ts) := by
  obtain ⟨tokens, scans, reads⟩ := alternatives.reads
  have all := reads (2 * tokens.length) [] (Nat.le_refl _) (by simp [EndsType])
  rw [List.append_nil] at all
  simp [type?, scans.tokens, all]

theorem word_text {w : Text} (name : isName w = true) : OperandText w (.name w) :=
  ⟨[.word w], word_scans name, by simp, word_operand w⟩

theorem quote_text (s : Text) : OperandText (Json.quote s) (.text s) :=
  ⟨[.text s], (quote_scans s).scans, by simp, text_operand s⟩

theorem number_text (n : Json.Number) : OperandText n.text (.number n.text) :=
  ⟨[.number n.text], numeral_scans (number_is_numeral n), by simp, number_operand n.text⟩

theorem any_text : OperandText "any".toList .any := word_text (by decide)

/-! ### Records -/

theorem lead_scans (comment : Option Text) : ScansFreely (Comment.lead comment) [] := by
  unfold Comment.lead
  split
  · exact scans_nothing
  · split
    · exact scans_nothing
    · exact block_scans _

theorem identifier_is_name {w : Text} (identifier : Record.isIdentifier w = true) : isName w = true := by
  cases w with
  | nil => simp [Record.isIdentifier] at identifier
  | cons c w =>
    simp only [Record.isIdentifier, Bool.and_eq_true, List.all_eq_true] at identifier
    simp only [isName, isWordStart, Bool.and_eq_true, Bool.or_eq_true, List.all_eq_true]
    refine ⟨Or.inl identifier.1, fun d mem => ?_⟩
    have part := identifier.2 d mem
    simp only [Record.isIdentifierPart, Bool.or_eq_true] at part
    simp only [isWordPart, isWordStart, Bool.or_eq_true]
    exact part.elim (fun h => Or.inl (Or.inl h)) Or.inr

theorem key_scans (name : Text) : ∃ token, Scans (Record.key name) [token] ∧ key? token = some name := by
  unfold Record.key
  split
  · rename_i identifier
    exact ⟨.word name, word_scans (identifier_is_name identifier), rfl⟩
  · exact ⟨.text name, (quote_scans name).scans, rfl⟩

theorem separator_scans (required : Bool) :
    ScansFreely ((if required then [] else ['?']) ++ [':', ' ']) (separator !required) := by
  have colon := (mark_scans (c := ':') rfl).append (blank_scans (c := ' ') rfl)
  cases required with
  | true => exact colon
  | false => exact (mark_scans (c := '?') rfl).append colon

theorem no_member_text : MembersText [] [] := ⟨[.mark '}'], mark_scans rfl, no_members⟩

theorem member_text {name x others : Text} {ts : List Term} {members : Members} (required : Bool) (comment : Option Text)
    (type : AlternativesText x ts) (rest : MembersText others members) :
    MembersText (Record.member name x required comment ++ others) ((name, !required, unionOf ts) :: members) := by
  obtain ⟨left, scansType, readsType⟩ := type.reads
  obtain ⟨right, scansRest, readsRest⟩ := rest
  obtain ⟨token, scansKey, named⟩ := key_scans name
  refine ⟨_, ?_, member_then_members named readsType readsRest⟩
  have ending := (mark_scans (c := ';') rfl).append ((blank_scans (c := '\n') rfl).append scansRest)
  have typed := scansType.append rfl ending
  have separated := (separator_scans required).append typed
  have keyed := scansKey.append (by cases required <;> rfl) separated
  simpa [Record.member] using (lead_scans comment).append keyed

theorem body_scans {parts : List Text} {members : Members} (text : MembersText parts.flatten members) :
    ∃ tokens, ScansFreely (Record.body parts) (.mark '{' :: tokens) ∧ ReadsMembers tokens members := by
  obtain ⟨tokens, scans, reads⟩ := text
  have brace := mark_scans (c := '{') rfl
  refine ⟨tokens, ?_, reads⟩
  unfold Record.body
  split
  · rename_i empty
    rw [List.isEmpty_iff.mp empty] at scans
    exact brace.append scans
  · have opened := brace.append ((blank_scans (c := '\n') rfl).append scans)
    simpa using opened

theorem body_text {parts : List Text} {members : Members} (text : MembersText parts.flatten members) :
    OperandText (Record.body parts) (.record members) := by
  obtain ⟨tokens, scans, reads⟩ := body_scans text
  exact ⟨.mark '{' :: tokens, scans.scans, by simp, record_operand reads⟩

/-! ### Type expressions -/

/-- An expression that is no union is an operand. -/
def Shows (e : TypeExpr) (ts : List Term) : Prop :=
  match e with
  | .union x => AlternativesText x ts
  | e => ∃ t, ts = [t] ∧ OperandText e.text t

theorem Shows.alternatives {e : TypeExpr} {ts : List Term} (shown : Shows e ts) : AlternativesText e.text ts := by
  cases e with
  | union x => exact shown
  | inline x =>
    obtain ⟨t, rfl, operand⟩ := shown
    exact operand.alternative
  | reference x =>
    obtain ⟨t, rfl, operand⟩ := shown
    exact operand.alternative

/-- Alternatives get parentheses before the mark of an array, so that the mark is on all of them. -/
theorem Shows.array_text {e : TypeExpr} {ts : List Term} (shown : Shows e ts) :
    OperandText e.arrayText (.array (unionOf ts)) := by
  cases e with
  | union x => exact (AlternativesText.parenthesized shown).array
  | inline x =>
    obtain ⟨t, rfl, operand⟩ := shown
    exact operand.array
  | reference x =>
    obtain ⟨t, rfl, operand⟩ := shown
    exact operand.array

theorem Shows.array {e : TypeExpr} {ts : List Term} (shown : Shows e ts) : Shows e.array [.array (unionOf ts)] := by
  have text := shown.array_text
  cases e with
  | union x => exact ⟨_, rfl, text⟩
  | inline x => exact ⟨_, rfl, text⟩
  | reference x => exact ⟨_, rfl, text⟩

def arrayTerms : TypeExpr → List Term → List Term
  | .union _, ts => [.array (unionOf ts)]
  | _, ts => arrayLast ts

theorem array_terms_text {e : TypeExpr} {ts : List Term} (alternatives : AlternativesText e.text ts) :
    AlternativesText e.arrayText (arrayTerms e ts) := by
  cases e with
  | union x => exact alternatives.parenthesized.array.alternative
  | inline x => exact alternatives.marked
  | reference x => exact alternatives.marked

theorem operands_show (none : Text) (parts : List (Text × Term)) (some : parts ≠ [])
    (operands : ∀ part ∈ parts, OperandText part.1 part.2) :
    Shows (TypeExpr.alternatives none (parts.map Prod.fst)) (parts.map Prod.snd) := by
  match parts with
  | [] => exact absurd rfl some
  | [part] => exact ⟨part.2, rfl, operands part (by simp)⟩
  | first :: second :: rest => exact ⟨first :: second :: rest, by simp, operands, rfl, rfl⟩

theorem alternatives_join {none : Text} {xs : List Text} (some : xs ≠ []) :
    (TypeExpr.alternatives none xs).text = Text.joinWith bar xs := by
  match xs with
  | [] => exact absurd rfl some
  | [_] => rfl
  | _ :: _ :: _ => rfl

/-! ### Declarations -/

def DefinitionText (x : Text) (d : Definition) : Prop :=
  ∃ tokens, ScansFreely x tokens ∧ tokens ≠ [] ∧
    ∀ fuel rest, 2 * tokens.length ≤ fuel + 1 → definitionWithin fuel (tokens ++ rest) = some (d, rest)

theorem comment_scans (comment : Option Text) : ScansFreely ((comment.map Comment.block).getD []) [] := by
  cases comment with
  | none => exact scans_nothing
  | some t => exact block_scans t

theorem word_blank_scans {w : Text} (name : isName w = true) : ScansFreely (w ++ [' ']) [.word w] :=
  (word_scans name).append rfl (blank_scans (c := ' ') rfl)

theorem interface_text {name : Text} {parts : List Text} {members : Members} (named : isName name = true)
    (comment : Option Text) (role : Declaration.Role) (text : MembersText parts.flatten members) :
    DefinitionText (Declaration.render ⟨name, .interface, Record.body parts, comment, role⟩) ⟨name, .record members⟩ := by
  obtain ⟨tokens, scans, reads⟩ := body_scans text
  refine ⟨.word "export".toList :: .word "interface".toList :: .word name :: .mark '{' :: tokens, ?_, by simp, ?_⟩
  · have ended := scans.append (blank_scans (c := '\n') rfl)
    have headed := (word_blank_scans (w := "interface".toList) (by decide)).append ((word_blank_scans named).append ended)
    have exported := (word_blank_scans (w := "export".toList) (by decide)).append headed
    simpa [Declaration.render] using (comment_scans comment).append exported
  · intro fuel rest enough
    simp only [List.length_cons] at enough
    have inner := reads fuel rest (by omega)
    simp [definitionWithin, after?, inner]

theorem alias_text {name x : Text} {ts : List Term} (named : isName name = true) (comment : Option Text)
    (role : Declaration.Role) (text : AlternativesText x ts) :
    DefinitionText (Declaration.render ⟨name, .typeAlias, x, comment, role⟩) ⟨name, unionOf ts⟩ := by
  obtain ⟨tokens, scans, reads⟩ := text.reads
  refine ⟨.word "export".toList :: .word "type".toList :: .word name :: .mark '=' :: (tokens ++ [.mark ';']), ?_,
    by simp, ?_⟩
  · have ended := scans.append rfl ((mark_scans (c := ';') rfl).append (blank_scans (c := '\n') rfl))
    have equals := (mark_scans (c := '=') rfl).append ((blank_scans (c := ' ') rfl).append ended)
    have headed := (word_blank_scans (w := "type".toList) (by decide)).append ((word_blank_scans named).append equals)
    have exported := (word_blank_scans (w := "export".toList) (by decide)).append headed
    simpa [Declaration.render] using (comment_scans comment).append exported
  · intro fuel rest enough
    simp only [List.length_cons, List.length_append] at enough
    have inner := reads fuel (.mark ';' :: rest) (by omega) (by simp [EndsType])
    simp [definitionWithin, after?, inner]

/-- Definitions one after another, with a line feed between two of them, are read one after another. -/
theorem definitions_read {parts : List (Text × Definition)} (texts : ∀ part ∈ parts, DefinitionText part.1 part.2) :
    read? (Text.joinWith ['\n'] (parts.map Prod.fst)) = some (parts.map Prod.snd) := by
  have scanned : ∃ tokens, ScansFreely (Text.joinWith ['\n'] (parts.map Prod.fst)) tokens ∧
      ∀ fuel, 2 * tokens.length ≤ fuel → definitionsWithin fuel tokens = some (parts.map Prod.snd) := by
    induction parts with
    | nil => exact ⟨[], scans_nothing, fun fuel _ => by cases fuel <;> rfl⟩
    | cons part parts ih =>
      obtain ⟨left, scansFirst, nonempty, readsFirst⟩ := texts part (by simp)
      obtain ⟨right, scansRest, readsRest⟩ := ih fun p mem => texts p (by simp [mem])
      refine ⟨left ++ right, ?_, ?_⟩
      · cases parts with
        | nil => simpa [Text.joinWith] using scansFirst.append scansRest
        | cons next parts =>
          have joined := scansFirst.append ((blank_scans (c := '\n') rfl).append scansRest)
          simpa [Text.joinWith] using joined
      · intro fuel enough
        have positive := List.length_pos_iff.mpr nonempty
        simp only [List.length_append] at enough
        obtain ⟨fuel, rfl⟩ : ∃ n, fuel = n + 1 := ⟨fuel - 1, by omega⟩
        have first := readsFirst fuel right (by omega)
        have later := readsRest fuel (by omega)
        cases left with
        | nil => exact absurd rfl nonempty
        | cons token left =>
          simp only [List.cons_append] at first ⊢
          simp [definitionsWithin, first, later]
  obtain ⟨tokens, scans, reads⟩ := scanned
  simp only [read?, scans.scans.tokens, bind, Option.bind]
  exact reads _ (Nat.le_refl _)

end ApiTypes.Script
