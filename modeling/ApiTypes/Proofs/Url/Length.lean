import ApiTypes.Proofs.Url.Fragment
/-!
How long the URL of a file can get. What is read has a query and a fragment of its own or those of the URL that it is
relative to, so references can make a file's URL longer and longer only by its path, and no file is read under a path that
is too long.
-/
namespace ApiTypes

theorem flat_map_length {α β : Type} {f : α → List β} {k : Nat} (each : ∀ a, (f a).length ≤ k) (items : List α) :
    (items.flatMap f).length ≤ k * items.length := by
  induction items with
  | nil => exact Nat.le_refl _
  | cons a rest ih =>
    have first := each a
    rw [List.flatMap_cons, List.length_append, List.length_cons, Nat.mul_add, Nat.mul_one]
    omega

/-! ### Octets -/

namespace Text

namespace Utf8

theorem encode_char_length (c : Char) : 1 ≤ (encodeChar c).length ∧ (encodeChar c).length ≤ 4 := by
  simp only [encodeChar]
  repeat' split
  all_goals simp

theorem length_le_size (t : Text) : t.length ≤ size t := by
  induction t with
  | nil => exact Nat.le_refl _
  | cons c t ih =>
    have first := (encode_char_length c).1
    simp only [size, encode, List.flatMap_cons, List.length_append, List.length_cons] at ih ⊢
    omega

def begun : Option Owed → Nat
  | none => 0
  | some o => 4 - o.count

theorem lead_length (b : Nat) : (lead b).1.length = 1 ∧ (lead b).2 = none ∨
    (lead b).1 = [] ∧ ∃ o, (lead b).2 = some o ∧ 1 ≤ o.count ∧ o.count ≤ 3 := by
  have owes : ∀ o, Owed.ofLead? b = some o → 1 ≤ o.count ∧ o.count ≤ 3 := by
    intro o found
    unfold Owed.ofLead? at found
    repeat' split at found
    all_goals cases found
    all_goals exact ⟨by simp, by simp⟩
  unfold lead
  split
  · exact Or.inl ⟨rfl, rfl⟩
  · split
    · rename_i o found
      exact Or.inr ⟨rfl, o, rfl, owes o found⟩
    · exact Or.inl ⟨rfl, rfl⟩

/- What is left owed has been begun, so an octet is always counted, with an item or towards one. -/
theorem octets_le_items (bs : List Nat) (owed : Option Owed) (range : ∀ o, owed = some o → 1 ≤ o.count ∧ o.count ≤ 3) :
    bs.length + begun owed ≤ 4 * (itemsFrom owed bs).length := by
  induction bs generalizing owed with
  | nil =>
    cases owed with
    | none => exact Nat.le_refl _
    | some o =>
      have := range o rfl
      simp only [itemsFrom, begun, List.length_nil, List.length_singleton]
      omega
  | cons b rest ih =>
    have afresh := ih none (by simp)
    have led : 1 + rest.length ≤ 4 * ((lead b).1 ++ itemsFrom (lead b).2 rest).length := by
      rw [List.length_append]
      rcases lead_length b with ⟨one, done⟩ | ⟨empty, o, owes, bounds⟩
      · rw [one, done]
        simp only [begun] at afresh
        omega
      · have later := ih (some o) (by rintro _ ⟨⟩; exact bounds)
        rw [empty, owes]
        simp only [begun, List.length_nil] at later ⊢
        omega
    rw [items_cons, List.length_cons]
    cases owed with
    | none =>
      simp only [step, begun]
      omega
    | some o =>
      obtain ⟨low, high⟩ := range o rfl
      simp only [step]
      split
      · split
        · simp only [begun, List.length_append, List.length_singleton] at afresh ⊢
          omega
        · have later := ih (some ⟨o.count - 1, 0x80, 0xBF, o.bits * 64 + (b - 0x80)⟩)
            (by rintro _ ⟨⟩; simp only; omega)
          simp only [begun, List.nil_append] at later ⊢
          omega
      · simp only [begun, List.cons_append, List.length_cons]
        omega

theorem map_id_length {items : List (Option Char)} {t : Text} (all : items.mapM id = some t) : t.length = items.length := by
  induction items generalizing t with
  | nil =>
    cases all
    rfl
  | cons item rest ih =>
    simp only [List.mapM_cons, bind, Option.bind_eq_some_iff] at all
    obtain ⟨c, -, t', later, made⟩ := all
    cases made
    rw [List.length_cons, List.length_cons, ih later]

theorem decode_length {bs : List Nat} {t : Text} (decoded : decode? bs = some t) : bs.length ≤ 4 * t.length := by
  have bound := octets_le_items bs none (by simp)
  rw [map_id_length decoded]
  exact bound

end Utf8

namespace Percent

theorem encode_length (reserved : Char → Bool) (t : Text) : (encode reserved t).length ≤ 12 * t.length := by
  apply flat_map_length
  intro c
  split
  · simp
  · have each : ∀ n, (octet n).length ≤ 3 := fun _ => Nat.le_refl _
    have octets := flat_map_length each (Utf8.encodeChar c)
    have := (Utf8.encode_char_length c).2
    omega

/- An escape is three octets long and stands for one. -/
theorem octets_from_length (skip : Nat) (bs : List Nat) : bs.length ≤ 3 * (octetsFrom skip bs).length + skip := by
  induction bs generalizing skip with
  | nil => simp
  | cons b rest ih =>
    cases skip with
    | succ skip =>
      have := ih skip
      rw [octetsFrom, List.length_cons]
      omega
    | zero =>
      rw [octetsFrom]
      split
      · have := ih 2
        simp only [List.length_cons]
        omega
      · have := ih 0
        simp only [List.length_cons]
        omega

end Percent

theorem split_at_joined (sep : Char) (t : Text) : (splitAt sep t).flatMap (sep :: ·) = sep :: t := by
  induction t with
  | nil => rfl
  | cons c t ih =>
    rw [splitAt]
    split
    · rename_i same
      rw [beq_iff_eq] at same
      rw [List.flatMap_cons, ih, same]
      rfl
    · split
      · rename_i none
        exact absurd none (split_at_some sep t)
      · rename_i piece pieces some
        rw [some, List.flatMap_cons, List.cons_append, List.cons.injEq] at ih
        rw [List.flatMap_cons, List.cons_append, List.cons_append, ih.2]

theorem cut_at_length (sep : Char) (t : Text) :
    (cutAt sep t).1.length ≤ t.length ∧ ∀ after, (cutAt sep t).2 = some after → after.length ≤ t.length := by
  induction t with
  | nil => exact ⟨Nat.le_refl _, by simp [cutAt]⟩
  | cons c rest ih =>
    rw [cutAt]
    split
    · refine ⟨Nat.zero_le _, ?_⟩
      rintro after ⟨⟩
      exact Nat.le_succ _
    · refine ⟨Nat.succ_le_succ ih.1, fun after cut => ?_⟩
      exact Nat.le_succ_of_le (ih.2 after cut)

end Text

namespace Url

/-! ### The parts of a file's URL -/

theorem file_path_length {u : Url} {octets : List Nat} (named : u.filePath? = some octets) :
    u.hasHost = false ∧ u.path.length ≤ 3 * octets.length := by
  simp only [filePath?, Option.ite_none_left_eq_some, Option.some.injEq, Bool.not_eq_true] at named
  obtain ⟨hostless, rfl⟩ := named
  refine ⟨hostless, ?_⟩
  have segment (s : Text) : (('/' :: s) : Text).length ≤
      3 * (0x2F :: Text.Percent.octets (Text.Utf8.encode s)).length := by
    have characters := Text.Utf8.length_le_size s
    have escapes := Text.Percent.octets_from_length 0 (Text.Utf8.encode s)
    simp only [Text.Utf8.size, List.length_cons, Text.Percent.octets] at characters escapes ⊢
    omega
  have segments (ss : List Text) : (ss.flatMap ('/' :: ·)).length ≤
      3 * (ss.flatMap fun s => 0x2F :: Text.Percent.octets (Text.Utf8.encode s)).length := by
    induction ss with
    | nil => exact Nat.le_refl _
    | cons s rest ih =>
      have first := segment s
      rw [List.flatMap_cons, List.flatMap_cons, List.length_append, List.length_append]
      omega
  have joined := segments u.segments
  have path : (u.segments.flatMap ('/' :: ·)).length = (u.path.drop 1).length + 1 := by
    rw [Url.segments, Text.split_at_joined, List.length_cons]
  rw [path, List.length_drop] at joined
  split
  · rw [List.length_append]
    omega
  · omega

/-- A file's URL as it comes from reading, with a query and a fragment that are not too long. -/
structure Filed (n : Nat) (u : Url) : Prop where
  authority : ∃ host, u.authority = some { Authority.none with host := host }
  query : ∀ q, u.query = some q → q.length ≤ n
  fragment : ∀ f, u.fragment = some f → f.length ≤ n

theorem filed_text_length {n : Nat} {u : Url} (filed : Filed n u) (file : u.scheme = fileScheme)
    (hostless : u.hasHost = false) : u.text.length ≤ u.path.length + 2 * n + 9 := by
  obtain ⟨⟨host, authority⟩, query, fragment⟩ := filed
  have none : host = none := by simpa [hasHost, host?, authority] using hostless
  subst none
  have queried : ((u.query.map ('?' :: ·)).getD []).length ≤ n + 1 := by
    cases same : u.query with
    | none => simp
    | some q => simpa using query q same
  have marked : ((u.fragment.map ('#' :: ·)).getD []).length ≤ n + 1 := by
    cases same : u.fragment with
    | none => simp
    | some f => simpa using fragment f same
  have front : (u.scheme ++ [':'] ++ ("//".toList ++ { Authority.none with host := none }.text)).length = 7 := by
    rw [file]
    decide
  simp only [text, authority, List.length_append] at front ⊢
  omega

/-! ### Reading -/

section Reading

variable {n : Nat}

theorem drop_gaps_length (t : Text) : (dropGaps t).length ≤ t.length := List.length_filter_le _ _

theorem next_length {t rest : Text} {c : Char} (next : next? t = some (c, rest)) : rest.length ≤ t.length := by
  unfold next? at next
  split at next
  · simp at next
  · rename_i first more cut
    cases next
    have := (List.dropWhile_sublist isGap (l := t)).length_le
    rw [cut, List.length_cons] at this
    omega

theorem cut_tail_length (t : Text) : (cutTail t).2.length ≤ t.length := (List.dropWhile_sublist _).length_le

theorem with_fragment_filed {u : Url} {t : Text} (filed : Filed n u) (short : 12 * t.length ≤ n) :
    Filed n (withFragment u (some t)) := by
  refine ⟨filed.authority, filed.query, ?_⟩
  rintro f ⟨⟩
  have gapless := drop_gaps_length t
  exact Nat.le_trans (Text.Percent.encode_length inFragment (dropGaps t)) (by omega)

theorem with_tail_filed (special : Bool) {u : Url} {tail : Text}
    (authority : ∃ host, u.authority = some { Authority.none with host := host }) (short : 12 * tail.length ≤ n) :
    Filed n (withTail special u tail) := by
  unfold withTail
  split
  · rename_i rest next
    have restShort := next_length next
    obtain ⟨before, after⟩ := Text.cut_at_length '#' rest
    have query : Filed n { u with query := some (Text.Percent.encode (inQuery special) (dropGaps (Text.cutAt '#' rest).1)),
                                  fragment := none } := by
      refine ⟨authority, ?_, by simp⟩
      rintro q ⟨⟩
      have gapless := drop_gaps_length (Text.cutAt '#' rest).1
      exact Nat.le_trans (Text.Percent.encode_length (inQuery special) _) (by omega)
    cases cut : (Text.cutAt '#' rest).2 with
    | none => exact ⟨authority, query.query, by simp [withFragment, cut]⟩
    | some fragment =>
      have fragmentShort := after fragment cut
      simp only [cut]
      have filed := with_fragment_filed (t := fragment) query (by omega)
      exact ⟨authority, filed.query, filed.fragment⟩
  · rename_i rest next
    have restShort := next_length next
    have bare : Filed n { u with query := none, fragment := none } := ⟨authority, by simp, by simp⟩
    have filed := with_fragment_filed (t := rest) bare (by omega)
    exact ⟨authority, by simp [withFragment], filed.fragment⟩
  · exact ⟨authority, by simp, by simp⟩

theorem file_from_filed (host : Option Host) (before : Text) {t : Text} (short : 12 * t.length ≤ n) :
    Filed n (fileFrom host before t) := by
  have tail : 12 * (cutTail t).2.length ≤ n := by
    have := cut_tail_length t
    omega
  exact with_tail_filed true ⟨host, rfl⟩ tail

theorem file_on_filed (host : Host) {t : Text} (short : 12 * t.length ≤ n) : Filed n (fileOn host t) := by
  have tail : 12 * (cutTail t).2.length ≤ n := by
    have := cut_tail_length t
    omega
  exact with_tail_filed true ⟨_, rfl⟩ tail

theorem file_after_slashes_filed {t : Text} {u : Url} (read : fileAfterSlashes? t = some u) (short : 12 * t.length ≤ n) :
    Filed n u := by
  have after : (t.dropWhile fun c => !(isSlash true c || isTailMark c)).length ≤ t.length :=
    (List.dropWhile_sublist _).length_le
  unfold fileAfterSlashes? at read
  simp only at read
  split at read
  · cases read
    exact file_from_filed none _ short
  · split at read
    · cases read
      exact file_from_filed none _ (by omega)
    · simp only [bind, Option.bind_eq_some_iff] at read
      obtain ⟨host, -, made⟩ := read
      cases made
      split
      · exact file_from_filed none _ (by omega)
      · exact file_on_filed host (by omega)

theorem file_after_slash_filed (base : Option Url) {t : Text} (short : 12 * t.length ≤ n) :
    Filed n (fileAfterSlash base t) := by
  unfold fileAfterSlash
  split
  · exact file_from_filed none _ short
  · split
    · exact file_from_filed _ _ short
    · split <;> exact file_from_filed _ _ short

theorem file_filed {base : Option Url} {t : Text} {u : Url} (read : file? base t = some u)
    (isBase : ∀ b, base = some b → Filed n b) (short : 12 * t.length ≤ n) : Filed n u := by
  unfold file? at read
  split at read
  · rename_i c rest next
    have restShort := next_length next
    split at read
    · split at read
      · rename_i d after next'
        have afterShort := next_length next'
        split at read
        · exact file_after_slashes_filed read (by omega)
        · cases read
          exact file_after_slash_filed _ (by omega)
      · cases read
        exact file_after_slash_filed _ (by omega)
    · split at read
      · cases read
        exact file_from_filed none _ short
      · rename_i b
        have filed := isBase b rfl
        split at read
        · cases read
          exact with_tail_filed true filed.authority short
        · split at read
          · cases read
            exact with_fragment_filed filed (by omega)
          · split at read <;> cases read <;> exact file_from_filed _ _ short
  · rename_i b _
    cases read
    have filed := isBase b rfl
    exact ⟨filed.authority, filed.query, by simp⟩
  · cases read
    exact file_from_filed none _ (Nat.zero_le _)

/-! Other URLs are not read as those of files. -/

theorem with_tail_scheme (special : Bool) (u : Url) (tail : Text) : (withTail special u tail).scheme = u.scheme := by
  unfold withTail
  split <;> rfl

theorem after_slashes_scheme {scheme t : Text} {u : Url} (read : afterSlashes? scheme t = some u) : u.scheme = scheme := by
  unfold afterSlashes? at read
  simp only at read
  split at read
  · simp at read
  · simp only [bind, Option.bind_eq_some_iff] at read
    obtain ⟨_, -, made⟩ := read
    cases made
    exact with_tail_scheme _ _ _

theorem relative_scheme {b u : Url} {t : Text} (read : relative? b t = some u) : u.scheme = b.scheme := by
  unfold relative? at read
  simp only at read
  split at read
  · cases read
    rfl
  · split at read
    · cases read
      exact with_tail_scheme _ _ _
    · split at read
      · cases read
        rfl
      · split at read
        · split at read
          · cases read
            exact with_tail_scheme _ _ _
          · exact after_slashes_scheme read
        · cases read
          exact with_tail_scheme _ _ _

theorem other_scheme {scheme t : Text} {u : Url} (read : other? scheme t = some u) : u.scheme = scheme := by
  unfold other? at read
  split at read
  · exact after_slashes_scheme read
  · simp only [Option.some.injEq] at read
    subst read
    exact with_tail_scheme _ _ _

theorem with_scheme_filed {base : Option Url} {scheme t : Text} {u : Url} (read : withScheme? base scheme t = some u)
    (file : u.scheme = fileScheme) (isBase : ∀ b, base = some b → b.scheme = fileScheme → Filed n b)
    (short : 12 * t.length ≤ n) : Filed n u := by
  have kept : ∀ b, base.filter (·.scheme == scheme) = some b → base = some b ∧ b.scheme = scheme := by
    intro b found
    obtain ⟨same, own⟩ := Option.filter_eq_some_iff.mp found
    exact ⟨same, by simpa using own⟩
  unfold withScheme? at read
  simp only at read
  split at read
  · rename_i isFile
    rw [beq_iff_eq] at isFile
    refine file_filed read (fun b found => ?_) short
    obtain ⟨same, own⟩ := kept b found
    exact isBase b same (own.trans isFile)
  · rename_i other
    rw [beq_iff_eq] at other
    have made : u.scheme = scheme := by
      split at read
      · split at read
        · rename_i b found
          split at read
          · exact (relative_scheme read).trans (kept b found).2
          · exact after_slashes_scheme read
        · exact after_slashes_scheme read
      · exact other_scheme read
    exact absurd (made.symm.trans file) other

theorem scheme_length {t scheme rest : Text} (read : scheme? t = some (scheme, rest)) : rest.length ≤ t.length := by
  unfold scheme? at read
  simp only at read
  split at read
  · rename_i c more rest' name drop
    split at read
    · cases read
      have cut := congrArg List.length drop
      rw [List.length_drop, List.length_cons] at cut
      omega
    · simp at read
  · simp at read

theorem strip_length (t : Text) : (strip t).length ≤ t.length := by
  have inner : ∀ p : Char → Bool, ∀ s : Text, (s.dropWhile p).length ≤ s.length := fun p s =>
    (List.dropWhile_sublist p).length_le
  rw [strip, List.length_reverse]
  refine Nat.le_trans (inner _ _) ?_
  rw [List.length_reverse]
  exact inner _ _

/-- What is read as a file's URL is as short as the text that it is read from and the URL that it is relative to. -/
theorem read_filed {base : Option Url} {t : Text} {u : Url} (read : read? base t = some u) (file : u.scheme = fileScheme)
    (isBase : ∀ b, base = some b → b.scheme = fileScheme → Filed n b) (short : 12 * t.length ≤ n) : Filed n u := by
  have stripped := strip_length t
  unfold read? at read
  simp only at read
  split at read
  · rename_i scheme rest schemeRead
    have restShort := scheme_length schemeRead
    exact with_scheme_filed read file isBase (by omega)
  · simp at read
  · rename_i b _
    split at read
    · rename_i rest next
      have restShort := next_length next
      cases read
      exact with_fragment_filed (isBase b rfl file) (by omega)
    · split at read
      · simp at read
      · split at read
        · rename_i isFile
          rw [beq_iff_eq] at isFile
          refine file_filed read ?_ (by omega)
          rintro _ ⟨⟩
          exact isBase b rfl isFile
        · rename_i other
          rw [beq_iff_eq] at other
          exact absurd ((relative_scheme read).symm.trans file) other

end Reading

end Url

end ApiTypes
