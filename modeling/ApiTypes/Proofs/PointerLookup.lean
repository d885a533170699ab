import Mathlib.Data.List.Basic
import Mathlib.Data.List.Forall2
import ApiTypes.Pointer
import ApiTypes.Proofs.Keyed
import ApiTypes.Proofs.Octets
import ApiTypes.Proofs.Script.Numeral
import ApiTypes.Proofs.Text
/-!
Pointers and the values they stand for. A path is written into a fragment step by step, with a slash before each step, and
the fragment leads to the value at the end of the path, whatever keys there are on the way and whichever octets are
escaped. The one exception is a path that begins with the empty key: the slashes at the start of a fragment are taken
off together, so that empty keys at the start are lost.
-/
namespace ApiTypes

/-! ### Positions in decimal -/

namespace Text

def readOn (n : Nat) (digits : Text) : Option Nat :=
  digits.foldl (fun acc c => do
    let n ← acc
    let d ← toNatBase?.digitOf c
    if d < 10 then some (n * 10 + d) else none) (some n)

theorem read_on_digit {d : Nat} (small : d < 10) (n : Nat) (digits : Text) :
    readOn n (digitChar d :: digits) = readOn (n * 10 + d) digits := by
  have value : ∀ d < 10, toNatBase?.digitOf (digitChar d) = some d := by decide
  simp [readOn, value d small, small]

theorem digits_within_read {fuel n : Nat} (enough : n < fuel) (digits : Text) :
    readOn 0 (digitsWithin 10 fuel n digits) = readOn n digits := by
  induction fuel generalizing n digits with
  | zero => omega
  | succ fuel ih =>
    have last : n % 10 < 10 := Nat.mod_lt n (by decide)
    simp only [digitsWithin, beq_iff_eq]
    split
    · have single : n % 10 = n := by omega
      rw [read_on_digit last, single, Nat.zero_mul, Nat.zero_add]
    · have value : n / 10 * 10 + n % 10 = n := by omega
      rw [ih (by omega), read_on_digit last, value]

theorem to_nat_of_nat (n : Nat) : toNatBase? 10 (ofNat n) = some n := by
  have some : (ofNat n).isEmpty = false := by simp [of_nat_nonempty n]
  rw [toNatBase?, some, if_neg Bool.false_ne_true]
  exact digits_within_read (Nat.lt_succ_self n) []

end Text

namespace Pointer

open Text.Percent (Writes)

theorem index_of_nat (i : Nat) : index? (Text.ofNat i) = some i := by
  have digits := Text.of_nat_digits i
  have decimal : index?.decimal? (Text.ofNat i) = some i := by
    rw [index?.decimal?, if_pos digits, Text.to_nat_of_nat]
  unfold index?
  split
  · rename_i sign rest
    rw [rest] at digits
    simp [Text.isDigit] at digits
  · exact decimal

/-! ### Steps and keys -/

inductive Step where
  | key (k : Text)
  | index (i : Nat)
deriving DecidableEq

def Step.text : Step → Text
  | key k => k
  | index i => Text.ofNat i

theorem Step.text_empty_iff (step : Step) : step.text = [] ↔ step = .key [] := by
  cases step with
  | key k => simp [Step.text]
  | index i => simp [Step.text, Text.of_nat_nonempty i]

def escapeTildes (t : Text) : Text :=
  Text.replace "/".toList "~1".toList (Text.replace "~".toList "~0".toList t)

def tildeEscape (c : Char) : Text := if c = '~' then ['~', '0'] else [c]

def escapeOf (c : Char) : Text := if c = '~' then ['~', '0'] else if c = '/' then ['~', '1'] else [c]

theorem escape_tildes_eq (t : Text) : escapeTildes t = t.flatMap escapeOf := by
  have each : ∀ c, (tildeEscape c).flatMap (fun d => if d = '/' then ['~', '1'] else [d]) = escapeOf c := by
    intro c
    by_cases tilde : c = '~'
    · subst tilde
      rfl
    · simp [tildeEscape, escapeOf, tilde]
  change Text.replace ['/'] ['~', '1'] (Text.replace ['~'] ['~', '0'] t) = _
  rw [Text.replace_char, Text.replace_char]
  change (t.flatMap tildeEscape).flatMap _ = _
  rw [List.flatMap_assoc]
  exact List.flatMap_congr fun c _ => each c

theorem unescape_slashes (t : Text) :
    Text.replace "~1".toList "/".toList (t.flatMap escapeOf) = t.flatMap tildeEscape := by
  unfold Text.replace
  induction t with
  | nil => rfl
  | cons c t ih =>
    rw [List.flatMap_cons, List.flatMap_cons]
    by_cases tilde : c = '~'
    · -- The tilde of `~0` begins no `~1`, so the order of the two passes keeps a tilde from being read twice.
      subst tilde
      change Text.replaceFrom ['~', '1'] ['/'] 0 ('~' :: '0' :: t.flatMap escapeOf) = '~' :: '0' :: t.flatMap tildeEscape
      rw [Text.replace_other, Text.replace_other]
      · exact congrArg ('~' :: '0' :: ·) ih
      · simp
      · simp
    · by_cases slash : c = '/'
      · subst slash
        exact (Text.replace_occurrence ['1'] ['/'] '~' _).trans (congrArg ('/' :: ·) ih)
      · have own : escapeOf c = [c] := by simp [escapeOf, tilde, slash]
        have kept : tildeEscape c = [c] := by simp [tildeEscape, tilde]
        rw [own, kept, List.singleton_append, List.singleton_append, Text.replace_other]
        · exact congrArg (c :: ·) ih
        · simp [Ne.symm tilde]

theorem unescape_tildes (t : Text) : Text.replace "~0".toList "~".toList (t.flatMap tildeEscape) = t := by
  unfold Text.replace
  induction t with
  | nil => rfl
  | cons c t ih =>
    rw [List.flatMap_cons]
    by_cases tilde : c = '~'
    · subst tilde
      exact (Text.replace_occurrence ['0'] ['~'] '~' _).trans (congrArg ('~' :: ·) ih)
    · have kept : tildeEscape c = [c] := by simp [tildeEscape, tilde]
      rw [kept, List.singleton_append, Text.replace_other]
      · exact congrArg (c :: ·) ih
      · simp [Ne.symm tilde]

theorem decode_segment_written {t segment : Text} (writes : Writes (escapeTildes t) segment) :
    decodeSegment segment = t := by
  rw [decodeSegment, writes.decode_lossy, escape_tildes_eq, unescape_slashes, unescape_tildes]

theorem escape_tildes_no_slash (t : Text) : '/' ∉ escapeTildes t := by
  rw [escape_tildes_eq]
  intro mem
  obtain ⟨c, -, written⟩ := List.mem_flatMap.mp mem
  unfold escapeOf at written
  split at written
  · simp at written
  · split at written
    · simp at written
    · rename_i other
      exact other (List.mem_singleton.mp written).symm

theorem segment_no_slash {t segment : Text} (writes : Writes (escapeTildes t) segment) : '/' ∉ segment :=
  writes.absent (by decide) (by decide) (escape_tildes_no_slash t)

theorem segment_empty_iff {t segment : Text} (writes : Writes (escapeTildes t) segment) : segment = [] ↔ t = [] := by
  constructor
  · intro none
    rw [← decode_segment_written writes, none]
    rfl
  · intro none
    rw [writes.empty_iff, none]
    rfl

/-! ### Fragments of paths -/

/-- A step as a segment of a fragment. Any of its octets may be escaped. -/
def Step.IsWritten (step : Step) (segment : Text) : Prop := Writes (escapeTildes step.text) segment

def Written (path : List Step) (fragment : Text) : Prop :=
  ∃ parts : List Text, List.Forall₂ Step.IsWritten path parts ∧ fragment = parts.flatMap ('/' :: ·)

theorem written_exists (path : List Step) : ∃ fragment, Written path fragment := by
  let segment (step : Step) : Text := Text.Percent.encode (· == '%') (escapeTildes step.text)
  refine ⟨_, path.map segment, ?_, rfl⟩
  rw [List.forall₂_map_right_iff]
  exact List.forall₂_same.mpr fun step _ => Text.Percent.encode_writes (by decide) _

theorem parts_no_slash {path : List Step} {parts : List Text} (each : List.Forall₂ Step.IsWritten path parts) :
    ∀ segment ∈ parts, '/' ∉ segment := by
  induction each with
  | nil => simp
  | cons own others ih => exact List.forall_mem_cons.mpr ⟨segment_no_slash own, ih⟩

theorem parts_decoded {path : List Step} {parts : List Text} (each : List.Forall₂ Step.IsWritten path parts) :
    parts.map decodeSegment = path.map Step.text := by
  induction each with
  | nil => rfl
  | cons own others ih => rw [List.map_cons, List.map_cons, decode_segment_written own, ih]

theorem segments_of_parts {parts : List Text} (plain : ∀ segment ∈ parts, '/' ∉ segment) :
    segments (parts.flatMap ('/' :: ·)) = parts.dropWhile List.isEmpty := by
  induction parts with
  | nil => rfl
  | cons segment parts ih =>
    obtain ⟨first, others⟩ := List.forall_mem_cons.mp plain
    cases segment with
    | nil =>
      rw [List.dropWhile_cons_of_pos rfl, ← ih others]
      rfl
    | cons c segment =>
      have other : c ≠ '/' := fun same => first (by simp [same])
      have stripped : (((c :: segment) :: parts).flatMap ('/' :: ·)).dropWhile (· == '/') =
          c :: (segment ++ parts.flatMap ('/' :: ·)) := by
        rw [List.flatMap_cons, List.cons_append, List.dropWhile_cons_of_pos rfl, List.cons_append,
          List.dropWhile_cons_of_neg (by simp [other])]
      rw [segments, stripped]
      exact Text.split_at_pieces plain

/-- The steps of a fragment are those of the path, but for the empty keys at its start. -/
theorem steps_of_written {path : List Step} {fragment : Text} (written : Written path fragment) :
    (segments fragment).map decodeSegment = (path.dropWhile (· == .key [])).map Step.text := by
  obtain ⟨parts, each, rfl⟩ := written
  rw [segments_of_parts (parts_no_slash each)]
  induction each with
  | nil => rfl
  | @cons step segment path parts own others ih =>
    have empty : segment = [] ↔ step = .key [] := (segment_empty_iff own).trans step.text_empty_iff
    by_cases first : step = .key []
    · rw [List.dropWhile_cons_of_pos (by simp [empty.mpr first]), ih, List.dropWhile_cons_of_pos (by simp [first])]
    · have nonempty : segment ≠ [] := fun none => first (empty.mp none)
      rw [List.dropWhile_cons_of_neg (by simp [nonempty]), List.dropWhile_cons_of_neg (by simp [first])]
      exact parts_decoded (.cons own others)

/-! ### Paths in a document -/

/-- The value that a path leads to: a key to one of the fields of an object, a position to one of the items of a list. -/
inductive Leads : List Step → Json → Json → Prop
  | here (v : Json) : Leads [] v v
  | key {k : Text} {fields : Json.Fields} {v w : Json} {steps : List Step} (listed : (k, v) ∈ fields)
    (later : Leads steps v w) : Leads (.key k :: steps) (.obj fields) w
  | index {i : Nat} {items : List Json} {v w : Json} {steps : List Step} (found : items[i]? = some v)
    (later : Leads steps v w) : Leads (.index i :: steps) (.arr items) w

theorem walk_path {path : List Step} {root v : Json} (keyed : root.isKeyed = true) (leads : Leads path root v) :
    walk? (path.map Step.text) root = some v := by
  induction leads with
  | here v => rfl
  | @key k fields v w steps listed later ih =>
    have found : child? k (.obj fields) = some v := Ordered.get_of_mem (Json.keyed_keys keyed) listed
    rw [List.map_cons, Step.text, walk?, found, Option.bind_some]
    exact ih (Json.keyed_field keyed listed)
  | @index i items v w steps found later ih =>
    have there : child? (Text.ofNat i) (.arr items) = some v := by
      rw [child?, index_of_nat, Option.bind_some, found]
    rw [List.map_cons, Step.text, walk?, there, Option.bind_some]
    exact ih (Json.keyed_item keyed (List.mem_of_getElem? found))

def spine : List Step → Json
  | [] => .null
  | .key k :: steps => .obj [(k, spine steps)]
  | .index i :: steps => .arr (List.replicate i .null ++ [spine steps])

theorem spine_keyed (path : List Step) : (spine path).isKeyed = true := by
  induction path with
  | nil => rfl
  | cons step steps ih =>
    cases step with
    | key k => simp [spine, Json.isKeyed, Json.areFieldsKeyed, Ordered.keys, ih]
    | index i =>
      rw [spine, Json.isKeyed, Json.items_keyed_iff]
      intro v mem
      rcases List.mem_append.mp mem with filler | last
      · rw [List.eq_of_mem_replicate filler]
        rfl
      · rw [List.mem_singleton.mp last]
        exact ih

theorem spine_leads (path : List Step) : Leads path (spine path) .null := by
  induction path with
  | nil => exact .here _
  | cons step steps ih =>
    cases step with
    | key k => exact .key (List.mem_singleton_self _) ih
    | index i => exact .index (by simp) ih

theorem spine_missed {path : List Step} (empty : path.head? = some (.key [])) :
    walk? ((path.dropWhile (· == .key [])).map Step.text) (spine path) ≠ some .null := by
  cases path with
  | nil => simp at empty
  | cons first steps =>
    obtain rfl : first = .key [] := by simpa using empty
    rw [List.dropWhile_cons_of_pos (by simp), spine]
    cases left : steps.dropWhile (· == .key []) with
    | nil => simp [walk?]
    | cons step more =>
      -- What is left begins with another key than the empty one, and the outermost object has only that.
      have other : step.text ≠ [] := by
        rw [Ne, Step.text_empty_iff]
        have kept := List.head?_dropWhile_not (· == Step.key []) steps
        simpa [left] using kept
      have missing : child? step.text (.obj [([], spine steps)]) = none := by
        simp [child?, Ordered.get?, other]
      simp [walk?, missing]

/-- A fragment is followed like its path without the empty keys at the start. So it leads to the value at the path, in every
document that has the path, exactly if the path does not begin with an empty key. -/
theorem fragment_follows_path_iff (path : List Step) :
    (∀ (root : Json) (fragment : Text), Written path fragment →
      get? fragment root = walk? ((path.dropWhile (· == .key [])).map Step.text) root) ∧
    ((∀ (root v : Json) (fragment : Text), root.isKeyed = true → Leads path root v → Written path fragment →
      get? fragment root = some v) ↔ path.head? ≠ some (.key [])) := by
  have followed : ∀ (root : Json) (fragment : Text), Written path fragment →
      get? fragment root = walk? ((path.dropWhile (· == .key [])).map Step.text) root :=
    fun root fragment written => congrArg (walk? · root) (steps_of_written written)
  refine ⟨followed, ?_⟩
  constructor
  · intro right empty
    obtain ⟨fragment, written⟩ := written_exists path
    apply spine_missed empty
    rw [← followed _ _ written]
    exact right _ _ _ (spine_keyed path) (spine_leads path) written
  · intro other root v fragment keyed leads written
    have whole : path.dropWhile (· == .key []) = path := by
      cases path with
      | nil => rfl
      | cons step steps => exact List.dropWhile_cons_of_neg (by simpa using other)
    rw [followed root fragment written, whole]
    exact walk_path keyed leads

def hollowDocument : Json := .obj [([], .num (.int 5)), ("x".toList, .null)]

/-- A slash alone is the path to the value under the empty key, and leads to the whole document. -/
theorem empty_key_is_lost :
    hollowDocument.isKeyed = true ∧ Leads [.key []] hollowDocument (.num (.int 5)) ∧ Written [.key []] "/".toList ∧
      get? "/".toList hollowDocument = some hollowDocument ∧ get? "/".toList hollowDocument ≠ some (.num (.int 5)) :=
  ⟨by decide, .key List.mem_cons_self (.here _), ⟨[[]], .cons .nil .nil, rfl⟩, rfl,
    by simp [get?, segments, walk?, hollowDocument]⟩

/-! ### Pointers that are there -/

def Present (fragment : Text) (root v : Json) : Prop := ∃ path, Written path fragment ∧ Leads path root v

/-- A fragment is written for a path that does not begin with an empty key. A key in it that would be read as a position is
spelled like one, without a sign and without zeros at its start. -/
def Proper (fragment : Text) : Prop :=
  ∃ path, Written path fragment ∧ path.head? ≠ some (.key []) ∧
    ∀ step ∈ path, ∀ i, index? step.text = some i → step.text = Text.ofNat i

theorem parts_unique {parts parts' : List Text} (plain : ∀ segment ∈ parts, '/' ∉ segment)
    (plain' : ∀ segment ∈ parts', '/' ∉ segment) (same : parts.flatMap ('/' :: ·) = parts'.flatMap ('/' :: ·)) :
    parts = parts' := by
  cases parts with
  | nil =>
    cases parts' with
    | nil => rfl
    | cons segment' parts' => simp at same
  | cons segment parts =>
    cases parts' with
    | nil => simp at same
    | cons segment' parts' =>
      rw [List.flatMap_cons, List.flatMap_cons, List.cons_append, List.cons_append, List.cons.injEq] at same
      rw [← Text.split_at_pieces plain, same.2, Text.split_at_pieces plain']

theorem written_texts {path path' : List Step} {fragment : Text} (written : Written path fragment)
    (written' : Written path' fragment) : path.map Step.text = path'.map Step.text := by
  obtain ⟨parts, each, rfl⟩ := written
  obtain ⟨parts', each', same⟩ := written'
  rw [← parts_decoded each, ← parts_decoded each', parts_unique (parts_no_slash each) (parts_no_slash each') same]

theorem written_of_texts {path path' : List Step} {fragment : Text} (written : Written path fragment)
    (same : path'.map Step.text = path.map Step.text) : Written path' fragment := by
  obtain ⟨parts, each, rfl⟩ := written
  refine ⟨parts, ?_, rfl⟩
  have texts : List.Forall₂ (fun t segment => Text.Percent.Writes (escapeTildes t) segment) (path.map Step.text) parts :=
    List.forall₂_map_left_iff.mpr each
  rw [← same] at texts
  exact (List.forall₂_map_left_iff (f := Step.text)).mp texts

/- Texts are read as keys or as positions, depending on what they meet. -/
theorem walk_leads {texts : List Text} {root v : Json}
    (spelled : ∀ t ∈ texts, ∀ i, index? t = some i → t = Text.ofNat i) (found : walk? texts root = some v) :
    ∃ path : List Step, path.map Step.text = texts ∧ Leads path root v := by
  induction texts generalizing root with
  | nil =>
    cases found
    exact ⟨[], rfl, .here _⟩
  | cons t texts ih =>
    obtain ⟨w, child, later⟩ := Option.bind_eq_some_iff.mp found
    obtain ⟨path, same, leads⟩ := ih (fun t' mem => spelled t' (List.mem_cons_of_mem t mem)) later
    cases root with
    | obj fields => exact ⟨.key t :: path, by rw [List.map_cons, same, Step.text], .key (Ordered.get_mem child) leads⟩
    | arr items =>
      obtain ⟨i, position, there⟩ := Option.bind_eq_some_iff.mp child
      refine ⟨.index i :: path, ?_, .index there leads⟩
      rw [List.map_cons, same, Step.text, ← spelled t List.mem_cons_self i position]
    | _ => simp [child?] at child

/-- A proper fragment is found exactly where its path is. -/
theorem found_iff_present {fragment : Text} (proper : Proper fragment) {root : Json} (keyed : root.isKeyed = true)
    (v : Json) : get? fragment root = some v ↔ Present fragment root v := by
  obtain ⟨path, written, other, spelled⟩ := proper
  have whole : ∀ path' : List Step, path'.map Step.text = path.map Step.text →
      path'.dropWhile (· == .key []) = path' := by
    intro path' same
    cases path' with
    | nil => rfl
    | cons step steps =>
      apply List.dropWhile_cons_of_neg
      simp only [beq_iff_eq]
      rintro rfl
      cases path with
      | nil => simp at same
      | cons first rest =>
        simp only [List.map_cons, List.cons.injEq] at same
        exact other (by simp [(Step.text_empty_iff first).mp same.1.symm])
  have followed : ∀ path' : List Step, path'.map Step.text = path.map Step.text →
      get? fragment root = walk? (path'.map Step.text) root := by
    intro path' same
    rw [get?, steps_of_written (written_of_texts written same), whole path' same]
  constructor
  · intro found
    rw [followed path rfl] at found
    have texts : ∀ t ∈ path.map Step.text, ∀ i, index? t = some i → t = Text.ofNat i := by
      intro t mem
      obtain ⟨step, listed, rfl⟩ := List.mem_map.mp mem
      exact spelled step listed
    obtain ⟨path', same, leads⟩ := walk_leads texts found
    exact ⟨path', written_of_texts written same, leads⟩
  · rintro ⟨path', written', leads⟩
    rw [followed path' (written_texts written' written)]
    exact walk_path keyed leads

end Pointer

end ApiTypes
