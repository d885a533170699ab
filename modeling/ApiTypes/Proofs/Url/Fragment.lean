import ApiTypes.Proofs.Octets
import ApiTypes.Proofs.Text
import ApiTypes.Url.Parse
/-!
Where a number sign may stand. What is read as a part of a URL is escaped or refused if there is a number sign in it. So a
URL that is read from a text without one, alone or relative to a URL without one, has none in its text either.
-/
namespace ApiTypes

/-! ### Texts -/

namespace Text

theorem of_nat_unmarked {n : Nat} (other : n ≠ 35) : Char.ofNat n ≠ '#' := by
  intro same
  rcases of_nat_code n with code | null
  · rw [same] at code
    exact other code.symm
  · rw [same] at null
    simp at null

theorem lower_ascii_unmarked {t : Text} (unmarked : '#' ∉ t) : '#' ∉ lowerAscii t := by
  intro mem
  obtain ⟨c, inside, same⟩ := List.mem_map.mp mem
  exact unmarked (lower_eq same (by decide) ▸ inside)

theorem digit_char_unmarked (n : Nat) : digitChar n ≠ '#' := by
  unfold digitChar
  split
  · exact of_nat_unmarked (by omega)
  · exact of_nat_unmarked (by omega)

theorem of_nat_base_unmarked (base n : Nat) : '#' ∉ ofNatBase base n := by
  have within : ∀ fuel n acc, '#' ∉ acc → '#' ∉ digitsWithin base fuel n acc := by
    intro fuel
    induction fuel with
    | zero =>
      intro n acc unmarked
      exact unmarked
    | succ fuel ih =>
      intro n acc unmarked
      have more : '#' ∉ digitChar (n % base) :: acc := by
        simp [Ne.symm (digit_char_unmarked (n % base)), unmarked]
      unfold digitsWithin
      split
      · exact more
      · exact ih _ _ more
  exact within (n + 1) n [] (by simp)

namespace Percent

theorem encode_unmarked {reserved : Char → Bool} {t : Text} (escaped : reserved '#' = true ∨ '#' ∉ t) :
    '#' ∉ encode reserved t := encode_absent escaped (by decide)

end Percent

end Text

namespace Url

/-! ### Hosts -/

namespace Punycode

theorem digit_unmarked (d : Nat) : digit d ≠ '#' := by
  unfold digit
  split
  · exact Text.of_nat_unmarked (by omega)
  · exact Text.of_nat_unmarked (by omega)

theorem delta_unmarked (bias fuel k q : Nat) : '#' ∉ deltaWithin bias fuel k q := by
  induction fuel generalizing k q with
  | zero => simp [deltaWithin]
  | succ fuel ih =>
    simp only [deltaWithin]
    split
    · simp [Ne.symm (digit_unmarked q)]
    · simp [Ne.symm (digit_unmarked _), ih]

theorem pass_unmarked (n basic : Nat) {s : State} (label : Text) (unmarked : '#' ∉ s.out) :
    '#' ∉ (pass n basic s label).out := by
  unfold pass
  induction label generalizing s with
  | nil => exact unmarked
  | cons c rest ih =>
    rw [List.foldl_cons]
    apply ih
    split
    · exact unmarked
    · split
      · simp [unmarked, delta_unmarked]
      · exact unmarked

theorem passes_unmarked (label : Text) (basic last : Nat) {s : State} (ns : List Nat) (unmarked : '#' ∉ s.out) :
    '#' ∉ (passes label basic last s ns).out := by
  induction ns generalizing last s with
  | nil => exact unmarked
  | cons n rest ih =>
    unfold passes
    apply ih
    exact pass_unmarked n basic label unmarked

theorem encode_unmarked {label : Text} (unmarked : '#' ∉ label) : '#' ∉ encode label := by
  have lead : '#' ∉ label.filter Text.isAscii := fun mem => unmarked (List.mem_filter.mp mem).1
  unfold encode
  rw [List.mem_append, not_or]
  refine ⟨?_, passes_unmarked label _ _ _ (by simp)⟩
  split
  · simp
  · simp [lead]

end Punycode

theorem map_m_mem {α β : Type} {f : α → Option β} {xs : List α} {ys : List β} (mapped : xs.mapM f = some ys) {y : β}
    (mem : y ∈ ys) : ∃ x ∈ xs, f x = some y := by
  induction xs generalizing ys with
  | nil =>
    simp only [List.mapM_nil, pure, Option.some.injEq] at mapped
    simp [← mapped] at mem
  | cons x rest ih =>
    simp only [List.mapM_cons, bind, pure, Option.bind_eq_some_iff, Option.some.injEq] at mapped
    obtain ⟨first, made, later, mapped', rfl⟩ := mapped
    rcases List.mem_cons.mp mem with rfl | inside
    · exact ⟨x, by simp, made⟩
    · obtain ⟨x', listed, made'⟩ := ih mapped' inside
      exact ⟨x', List.mem_cons_of_mem _ listed, made'⟩

theorem label_unmarked {t ascii : Text} (written : Domain.labelToAscii? t = some ascii) (unmarked : '#' ∉ t) :
    '#' ∉ ascii := by
  unfold Domain.labelToAscii? at written
  split at written
  · cases written
    exact unmarked
  · split at written
    · simp at written
    · cases written
      rw [List.mem_append, not_or]
      exact ⟨by decide, Punycode.encode_unmarked unmarked⟩

/- The characters of a name may be read as a number sign, but such a name is refused. -/
theorem domain_unmarked {octets : List Nat} {name : Text} (read : Domain.toAscii? octets = some name) : '#' ∉ name := by
  unfold Domain.toAscii? at read
  simp only [bind, Option.bind_eq_some_iff] at read
  obtain ⟨t, -, readAs, -, checked, -, rest⟩ := read
  split at rest
  · simp at rest
  · rename_i allowed
    simp only [Option.bind_eq_some_iff] at rest
    obtain ⟨labels, written, made⟩ := rest
    split at made
    · simp at made
    · cases made
      intro mem
      rcases Text.join_with_mem mem with dot | ⟨ascii, listed, inside⟩
      · simp at dot
      · obtain ⟨label, isLabel, labelWritten⟩ := map_m_mem written listed
        refine label_unmarked labelWritten ?_ inside
        intro marked
        have inName := Text.split_at_mem isLabel marked
        apply allowed
        rw [Bool.or_eq_true]
        exact Or.inl (List.any_eq_true.mpr ⟨'#', inName, by decide⟩)

theorem ipv6_unmarked (pieces : List Nat) : '#' ∉ ipv6Text pieces := by
  have write : ∀ ps : List Nat, '#' ∉ Text.joinWith [':'] (ps.map (Text.ofNatBase 16)) := by
    intro ps mem
    rcases Text.join_with_mem mem with colon | ⟨t, listed, inside⟩
    · simp at colon
    · obtain ⟨n, -, rfl⟩ := List.mem_map.mp listed
      exact Text.of_nat_base_unmarked 16 n inside
  unfold ipv6Text
  split
  · rw [List.mem_append, List.mem_append, not_or, not_or]
    exact ⟨⟨write _, by decide⟩, write _⟩
  · exact write pieces

def Host.Unmarked (h : Host) : Prop := '#' ∉ h.text

theorem ipv4_unmarked (n : Nat) : (Host.ipv4 n).Unmarked := by
  intro mem
  rcases Text.join_with_mem mem with dot | ⟨t, listed, inside⟩
  · simp at dot
  · obtain ⟨part, -, rfl⟩ := List.mem_map.mp listed
    exact Text.of_nat_base_unmarked 10 part inside

theorem bracketed_unmarked {t : Text} {h : Host} (read : Host.bracketed? t = some h) : h.Unmarked := by
  unfold Host.bracketed? at read
  split at read
  · obtain ⟨pieces, -, rfl⟩ := Option.map_eq_some_iff.mp read
    simp [Host.Unmarked, Host.text, ipv6_unmarked]
  · simp at read

theorem special_host_unmarked {t : Text} {h : Host} (read : Host.ofSpecial? t = some h) : h.Unmarked := by
  unfold Host.ofSpecial? at read
  split at read
  · exact bracketed_unmarked read
  · simp only [bind, Option.bind_eq_some_iff] at read
    obtain ⟨name, ascii, made⟩ := read
    split at made
    · obtain ⟨n, -, rfl⟩ := Option.map_eq_some_iff.mp made
      exact ipv4_unmarked n
    · cases made
      exact domain_unmarked ascii

theorem other_host_unmarked {t : Text} {h : Host} (read : Host.ofOther? t = some h) : h.Unmarked := by
  unfold Host.ofOther? at read
  split at read
  · exact bracketed_unmarked read
  · split at read
    · simp at read
    · rename_i allowed
      cases read
      refine Text.Percent.encode_unmarked (Or.inr ?_)
      intro mem
      exact allowed (List.any_eq_true.mpr ⟨'#', mem, by decide⟩)

/-! ### Paths -/

theorem pop_mem {c : Char} {file : Bool} {path : Text} (mem : c ∈ pop file path) : c ∈ path := by
  unfold pop at mem
  split at mem
  · exact mem
  · have inside := (List.dropWhile_sublist _).subset (List.mem_reverse.mp mem)
    exact List.mem_reverse.mp inside

theorem go_up_mem {c : Char} {file : Bool} {path : Text} (mem : c ∈ goUp file path) : c ∈ path := by
  have inside := pop_mem mem
  split at inside
  · exact (List.dropLast_sublist path).subset inside
  · exact inside

theorem with_slash_unmarked {path : Text} (unmarked : '#' ∉ path) : '#' ∉ withSlash path := by
  unfold withSlash
  split
  · exact unmarked
  · simp [unmarked]

theorem add_pieces_unmarked (file : Bool) {path : Text} (slashes : Nat) (pieces : List Text) (unmarked : '#' ∉ path) :
    '#' ∉ (addPieces file path slashes pieces).1 := by
  induction pieces generalizing path slashes with
  | nil => exact unmarked
  | cons piece rest ih =>
    have written : '#' ∉ Text.Percent.encode inPath piece := Text.Percent.encode_unmarked (Or.inl (by decide))
    unfold addPieces
    split
    · exact ih slashes unmarked
    · split
      · exact ih _ (by simp [unmarked, written])
      · exact ih _ (by simp [unmarked, written])

namespace Path

theorem add_segment_unmarked (file slash : Bool) {p : Path} (raw : Text) (unmarked : '#' ∉ p.text) :
    '#' ∉ (p.addSegment file slash raw).text := by
  have added := add_pieces_unmarked file 0 (piecesAt isGap raw) unmarked
  have close : ∀ t : Text, '#' ∉ t → '#' ∉ (if slash then t ++ ['/'] else t) := by
    intro t absent
    split
    · simp [absent]
    · exact absent
  unfold addSegment
  generalize addPieces file p.text 0 (piecesAt isGap raw) = outcome at added ⊢
  obtain ⟨path, slashes⟩ := outcome
  have before : '#' ∉ path.take (p.text.length + slashes) := fun mem => added (List.mem_of_mem_take mem)
  have segment : '#' ∉ path.drop (p.text.length + slashes) := fun mem => added (List.mem_of_mem_drop mem)
  have up : '#' ∉ goUp file (path.take (p.text.length + slashes)) := fun mem => before (go_up_mem mem)
  simp only
  split
  · split
    · exact with_slash_unmarked up
    · exact up
  · split
    · exact with_slash_unmarked before
    · split
      · apply close
        simp only [List.mem_append, not_or]
        exact ⟨⟨before, fun mem => segment (List.mem_of_mem_take mem)⟩, by decide⟩
      · exact close path added

theorem add_segments_unmarked (file : Bool) {p : Path} (raws : List Text) (unmarked : '#' ∉ p.text) :
    '#' ∉ (p.addSegments file raws).text := by
  induction raws generalizing p with
  | nil => exact unmarked
  | cons raw rest ih =>
    cases rest with
    | nil => exact add_segment_unmarked file false raw unmarked
    | cons next rest => exact ih (add_segment_unmarked file true raw unmarked)

theorem read_unmarked (special file : Bool) {before : Text} (t : Text) (unmarked : '#' ∉ before) :
    '#' ∉ (Path.read special file before t).text := by
  have added := add_segments_unmarked file (p := ⟨before, false⟩) (piecesAt (isSlash special) t) unmarked
  unfold Path.read
  split
  · simp only [List.mem_cons, not_or]
    exact ⟨by decide, fun mem => added ((List.dropWhile_sublist _).subset mem)⟩
  · exact added

end Path

/-! ### URLs -/

/-- A URL without a number sign in its parts, and so without a fragment. -/
structure Unmarked (u : Url) : Prop where
  scheme : '#' ∉ u.scheme
  authority : ∀ a, u.authority = some a → '#' ∉ a.text
  path : '#' ∉ u.path
  query : ∀ q, u.query = some q → '#' ∉ q
  fragment : u.fragment = none

theorem text_unmarked_iff {u : Url} : '#' ∉ u.text ↔ Unmarked u := by
  obtain ⟨scheme, authority, path, query, fragment⟩ := u
  constructor
  · intro absent
    simp only [text, List.mem_append, not_or] at absent
    obtain ⟨⟨⟨⟨⟨inScheme, -⟩, inAuthority⟩, inPath⟩, inQuery⟩, inFragment⟩ := absent
    refine ⟨inScheme, ?_, inPath, ?_, ?_⟩
    · intro a same mem
      simp only at same
      subst same
      simp [mem] at inAuthority
    · intro q same mem
      simp only at same
      subst same
      simp [mem] at inQuery
    · cases fragment with
      | none => rfl
      | some f => simp at inFragment
  · rintro ⟨inScheme, inAuthority, inPath, inQuery, rfl⟩
    simp only [text, List.mem_append, not_or]
    refine ⟨⟨⟨⟨⟨inScheme, by decide⟩, ?_⟩, inPath⟩, ?_⟩, by simp⟩
    · cases authority with
      | none =>
        simp only
        split <;> decide
      | some a => simp [inAuthority a rfl]
    · cases query with
      | none => simp
      | some q => simp [inQuery q rfl]

structure UnmarkedFront (u : Url) : Prop where
  scheme : '#' ∉ u.scheme
  authority : ∀ a, u.authority = some a → '#' ∉ a.text
  path : '#' ∉ u.path

theorem next_mem {t rest : Text} {c : Char} (next : next? t = some (c, rest)) : c ∈ t ∧ ∀ d ∈ rest, d ∈ t := by
  unfold next? at next
  split at next
  · simp at next
  · rename_i first more cut
    cases next
    have inside := (List.dropWhile_sublist isGap (l := t)).subset
    rw [cut] at inside
    exact ⟨inside (by simp), fun d mem => inside (by simp [mem])⟩

theorem with_tail_unmarked (special : Bool) {u : Url} {tail : Text} (front : UnmarkedFront u) (unmarked : '#' ∉ tail) :
    Unmarked (withTail special u tail) := by
  unfold withTail
  split
  · rename_i rest next
    have absent : '#' ∉ rest := fun mem => unmarked ((next_mem next).2 _ mem)
    simp only [Text.cut_at_absent absent]
    refine ⟨front.scheme, front.authority, front.path, ?_, rfl⟩
    intro q same
    cases same
    exact Text.Percent.encode_unmarked (Or.inl (by cases special <;> decide))
  · rename_i rest next
    exact absurd (next_mem next).1 unmarked
  · exact ⟨front.scheme, front.authority, front.path, by simp, rfl⟩

theorem cut_tail_mem {c : Char} {t : Text} (mem : c ∈ (cutTail t).2) : c ∈ t := (List.dropWhile_sublist _).subset mem

theorem rooted_path_unmarked (scheme t : Text) : '#' ∉ rootedPath scheme t := by
  unfold rootedPath
  split
  · split
    · decide
    · simp
  · exact Path.read_unmarked _ _ _ (by decide)

theorem authority_text_unmarked {a : Authority} (user : '#' ∉ a.user) (password : '#' ∉ a.password)
    (host : ∀ h, a.host = some h → h.Unmarked) : '#' ∉ a.text := by
  obtain ⟨u, p, h, n⟩ := a
  simp only [Authority.text, List.mem_append, not_or]
  refine ⟨⟨?_, ?_⟩, ?_⟩
  · split
    · simp
    · split <;> simp_all
  · cases h with
    | none => simp
    | some h => exact host h rfl
  · cases n with
    | none => simp
    | some n => simpa [Text.ofNat] using Text.of_nat_base_unmarked 10 n

theorem authority_unmarked {scheme t more : Text} {userinfo : Option Text} {a : Authority}
    (read : authority? scheme userinfo t = some (a, more)) : '#' ∉ a.text ∧ ∀ c ∈ more, c ∈ t := by
  have escaped : ∀ t, '#' ∉ Text.Percent.encode inUserinfo t := fun t =>
    Text.Percent.encode_unmarked (Or.inl (by decide))
  unfold authority? at read
  simp only at read
  split at read
  · split at read
    · simp at read
    · cases read
      exact ⟨by decide, by simp⟩
  · have made : ∃ user password host number, a = ⟨Text.Percent.encode inUserinfo user,
        Text.Percent.encode inUserinfo password, some host, number⟩ ∧ host.Unmarked ∧
        more = (t.drop (hostLength false t + 1)).dropWhile (· != '\\') := by
      split at read
      · simp only [bind, Option.bind_eq_some_iff] at read
        obtain ⟨host, hostRead, number, -, made⟩ := read
        cases made
        exact ⟨_, _, host, number, rfl, special_host_unmarked hostRead, rfl⟩
      · simp only [bind, Option.bind_eq_some_iff] at read
        obtain ⟨host, hostRead, number, -, made⟩ := read
        cases made
        exact ⟨_, _, host, number, rfl, other_host_unmarked hostRead, rfl⟩
    obtain ⟨user, password, host, number, rfl, isHost, rfl⟩ := made
    constructor
    · refine authority_text_unmarked (escaped user) (escaped password) ?_
      rintro h ⟨⟩
      exact isHost
    · intro c mem
      exact List.mem_of_mem_drop ((List.dropWhile_sublist _).subset mem)

theorem drop_gaps_mem {c : Char} {t : Text} (mem : c ∈ dropGaps t) : c ∈ t := (List.mem_filter.mp mem).1

theorem cut_userinfo_mem {c : Char} {t : Text} (mem : c ∈ (cutUserinfo t).2) : c ∈ t := by
  unfold cutUserinfo at mem
  simp only at mem
  split at mem
  · exact mem
  · exact List.mem_reverse.mp ((List.takeWhile_sublist _).subset (List.mem_reverse.mp mem))

theorem after_slashes_unmarked {scheme t : Text} {u : Url} (read : afterSlashes? scheme t = some u)
    (isScheme : '#' ∉ scheme) (unmarked : '#' ∉ t) : Unmarked u := by
  unfold afterSlashes? at read
  simp only at read
  split at read
  · simp at read
  · simp only [bind, Option.bind_eq_some_iff] at read
    obtain ⟨⟨authority, more⟩, authorityRead, made⟩ := read
    cases made
    obtain ⟨inAuthority, moreInside⟩ := authority_unmarked authorityRead
    apply with_tail_unmarked
    · refine ⟨isScheme, ?_, rooted_path_unmarked _ _⟩
      rintro a ⟨⟩
      exact inAuthority
    · intro mem
      rcases List.mem_append.mp (cut_tail_mem mem) with inMore | after
      · have inside := drop_gaps_mem (cut_userinfo_mem (moreInside _ inMore))
        exact unmarked ((List.takeWhile_sublist _).subset inside)
      · exact unmarked ((List.dropWhile_sublist _).subset after)

/-! ### Files -/

theorem file_url_unmarked {host : Option Host} {path tail : Text} (isHost : ∀ h, host = some h → h.Unmarked)
    (isPath : '#' ∉ path) (unmarked : '#' ∉ tail) : Unmarked (fileUrl host path tail) := by
  have isScheme : '#' ∉ fileScheme := by decide
  apply with_tail_unmarked
  · refine ⟨isScheme, ?_, isPath⟩
    rintro a ⟨⟩
    exact authority_text_unmarked List.not_mem_nil List.not_mem_nil isHost
  · exact unmarked

theorem file_from_unmarked {host : Option Host} {before t : Text} (isHost : ∀ h, host = some h → h.Unmarked)
    (start : '#' ∉ before) (unmarked : '#' ∉ t) : Unmarked (fileFrom host before t) :=
  file_url_unmarked isHost (Path.read_unmarked _ _ _ start) fun mem => unmarked (cut_tail_mem mem)

theorem file_on_unmarked {host : Host} {t : Text} (isHost : host.Unmarked) (unmarked : '#' ∉ t) :
    Unmarked (fileOn host t) := by
  apply file_url_unmarked
  · intro h same
    split at same
    · simp at same
    · cases same
      exact isHost
  · exact Path.read_unmarked _ _ _ (by decide)
  · exact fun mem => unmarked (cut_tail_mem mem)

theorem file_after_slashes_unmarked {t : Text} {u : Url} (read : fileAfterSlashes? t = some u) (unmarked : '#' ∉ t) :
    Unmarked u := by
  unfold fileAfterSlashes? at read
  simp only at read
  have after : '#' ∉ t.dropWhile fun c => !(isSlash true c || isTailMark c) := fun mem =>
    unmarked ((List.dropWhile_sublist _).subset mem)
  split at read
  · cases read
    exact file_from_unmarked (by simp) (by decide) unmarked
  · split at read
    · cases read
      exact file_from_unmarked (by simp) (by decide) after
    · simp only [bind, Option.bind_eq_some_iff] at read
      obtain ⟨host, hostRead, made⟩ := read
      cases made
      split
      · exact file_from_unmarked (by simp) (by decide) after
      · exact file_on_unmarked (special_host_unmarked hostRead) after

theorem host_unmarked {b : Url} (isBase : Unmarked b) {h : Host} (host : b.host? = some h) : h.Unmarked := by
  obtain ⟨a, authority, same⟩ := Option.bind_eq_some_iff.mp host
  have inText := isBase.authority a authority
  intro mem
  apply inText
  simp only [Authority.text, List.mem_append]
  exact Or.inl (Or.inr (by simp [same, mem]))

theorem file_after_slash_unmarked {base : Option Url} {t : Text} (isBase : ∀ b, base = some b → Unmarked b)
    (unmarked : '#' ∉ t) : Unmarked (fileAfterSlash base t) := by
  unfold fileAfterSlash
  split
  · exact file_from_unmarked (by simp) (by decide) unmarked
  · rename_i b same
    have isUrl : Unmarked b := by
      split at same
      · simp at same
      · exact isBase b same
    split
    · exact file_from_unmarked (fun h => host_unmarked isUrl) (by decide) unmarked
    · rename_i first rest segments
      have inFirst : '#' ∉ first := by
        intro mem
        have listed : first ∈ b.segments := by simp [segments]
        exact isUrl.path (List.mem_of_mem_drop (Text.split_at_mem listed mem))
      split
      · exact file_from_unmarked (by simp) (by simp [inFirst]) unmarked
      · exact file_from_unmarked (fun h => host_unmarked isUrl) (by decide) unmarked

theorem file_unmarked {base : Option Url} {t : Text} {u : Url} (read : file? base t = some u)
    (isBase : ∀ b, base = some b → Unmarked b) (unmarked : '#' ∉ t) : Unmarked u := by
  unfold file? at read
  split at read
  · rename_i c rest next
    obtain ⟨first, later⟩ := next_mem next
    have inRest : '#' ∉ rest := fun mem => unmarked (later _ mem)
    split at read
    · split at read
      · rename_i d after next'
        split at read
        · exact file_after_slashes_unmarked read fun mem => inRest ((next_mem next').2 _ mem)
        · cases read
          exact file_after_slash_unmarked isBase inRest
      · cases read
        exact file_after_slash_unmarked isBase inRest
    · split at read
      · cases read
        exact file_from_unmarked (by simp) (by decide) unmarked
      · rename_i b
        have isUrl := isBase b rfl
        split at read
        · cases read
          exact with_tail_unmarked true ⟨isUrl.scheme, isUrl.authority, isUrl.path⟩ unmarked
        · split at read
          · rename_i mark
            rw [beq_iff_eq] at mark
            exact absurd (mark ▸ first) unmarked
          · split at read
            · cases read
              exact file_from_unmarked (by simp) (by decide) unmarked
            · cases read
              exact file_from_unmarked (fun h => host_unmarked isUrl) (fun mem => isUrl.path (pop_mem mem)) unmarked
  · rename_i b _
    cases read
    exact { isBase b rfl with fragment := rfl }
  · cases read
    exact file_from_unmarked (by simp) (by decide) (by simp)

/-! ### References -/

theorem cut_slashes_mem {c : Char} {t : Text} (mem : c ∈ (cutSlashes t).2) : c ∈ t := List.mem_of_mem_drop mem

theorem after_two_slashes_mem {c : Char} {t rest : Text} (after : afterTwoSlashes? t = some rest) (mem : c ∈ rest) :
    c ∈ t := by
  unfold afterTwoSlashes? at after
  split at after
  · rename_i rest' next
    split at after
    · rename_i rest'' next'
      cases after
      exact (next_mem next).2 c ((next_mem next').2 c mem)
    · simp at after
  · simp at after

theorem relative_unmarked {b u : Url} {t : Text} (read : relative? b t = some u) (isBase : Unmarked b)
    (unmarked : '#' ∉ t) : Unmarked u := by
  have onPath : ∀ before rest : Text, '#' ∉ before → '#' ∉ rest →
      Unmarked (withTail (isSpecial b.scheme) { b with path := (pathFrom b.scheme before (cutTail rest).1).text }
        (cutTail rest).2) := by
    intro before rest start absent
    apply with_tail_unmarked
    · exact ⟨isBase.scheme, isBase.authority, Path.read_unmarked _ _ _ start⟩
    · exact fun mem => absent (cut_tail_mem mem)
  unfold relative? at read
  simp only at read
  split at read
  · cases read
    exact { isBase with fragment := rfl }
  · rename_i c rest next
    obtain ⟨first, later⟩ := next_mem next
    split at read
    · cases read
      exact with_tail_unmarked _ ⟨isBase.scheme, isBase.authority, isBase.path⟩ unmarked
    · split at read
      · rename_i mark
        rw [beq_iff_eq] at mark
        exact absurd (mark ▸ first) unmarked
      · split at read
        · split at read
          · cases read
            exact onPath _ _ (by decide) fun mem => unmarked (later _ mem)
          · refine after_slashes_unmarked read isBase.scheme ?_
            intro mem
            cases two : afterTwoSlashes? t with
            | none =>
              rw [two] at mem
              exact unmarked (cut_slashes_mem mem)
            | some rest =>
              rw [two] at mem
              exact unmarked (after_two_slashes_mem two mem)
        · cases read
          refine onPath _ _ ?_ unmarked
          split
          · decide
          · exact fun mem => isBase.path (pop_mem mem)

theorem other_unmarked {scheme t : Text} {u : Url} (read : other? scheme t = some u) (isScheme : '#' ∉ scheme)
    (unmarked : '#' ∉ t) : Unmarked u := by
  unfold other? at read
  split at read
  · rename_i rest after
    exact after_slashes_unmarked read isScheme fun mem => unmarked (after_two_slashes_mem after mem)
  · simp only [Option.some.injEq] at read
    subst read
    apply with_tail_unmarked
    · refine ⟨isScheme, by simp, ?_⟩
      split
      · exact Path.read_unmarked _ _ _ (by decide)
      · refine Text.Percent.encode_unmarked (Or.inr ?_)
        intro mem
        exact unmarked ((List.takeWhile_sublist _).subset (drop_gaps_mem mem))
    · exact fun mem => unmarked (cut_tail_mem mem)

theorem with_scheme_unmarked {base : Option Url} {scheme t : Text} {u : Url} (read : withScheme? base scheme t = some u)
    (isBase : ∀ b, base = some b → Unmarked b) (isScheme : '#' ∉ scheme) (unmarked : '#' ∉ t) : Unmarked u := by
  have same : ∀ b, base.filter (·.scheme == scheme) = some b → Unmarked b := by
    intro b kept
    exact isBase b (Option.filter_eq_some_iff.mp kept).1
  have after : '#' ∉ (cutSlashes t).2 := fun mem => unmarked (cut_slashes_mem mem)
  unfold withScheme? at read
  simp only at read
  split at read
  · exact file_unmarked read same unmarked
  · split at read
    · split at read
      · rename_i b kept
        split at read
        · exact relative_unmarked read (same b kept) unmarked
        · exact after_slashes_unmarked read isScheme after
      · exact after_slashes_unmarked read isScheme after
    · exact other_unmarked read isScheme unmarked

theorem strip_mem {c : Char} {t : Text} (mem : c ∈ strip t) : c ∈ t := by
  have inside := (List.dropWhile_sublist _).subset (List.mem_reverse.mp mem)
  exact (List.dropWhile_sublist _).subset (List.mem_reverse.mp inside)

theorem scheme_unmarked {t scheme rest : Text} (read : scheme? t = some (scheme, rest)) (unmarked : '#' ∉ t) :
    '#' ∉ scheme ∧ '#' ∉ rest := by
  unfold scheme? at read
  simp only at read
  split at read
  · rename_i c more rest' name drop
    split at read
    · cases read
      constructor
      · apply Text.lower_ascii_unmarked
        intro mem
        rw [← name] at mem
        exact unmarked ((List.takeWhile_sublist _).subset (drop_gaps_mem mem))
      · intro mem
        have inside : '#' ∈ t.drop (t.takeWhile fun c => isSchemeChar c || isGap c).length := by
          rw [drop]
          exact List.mem_cons_of_mem _ mem
        exact unmarked (List.mem_of_mem_drop inside)
    · simp at read
  · simp at read

/-- What is read from a text without a number sign has none, if what it is relative to has none. -/
theorem read_unmarked {base : Option Url} {t : Text} {u : Url} (read : read? base t = some u)
    (isBase : ∀ b, base = some b → '#' ∉ b.text) (unmarked : '#' ∉ t) : '#' ∉ u.text := by
  have isUrl : ∀ b, base = some b → Unmarked b := fun b own => text_unmarked_iff.mp (isBase b own)
  have stripped : '#' ∉ strip t := fun mem => unmarked (strip_mem mem)
  rw [text_unmarked_iff]
  unfold read? at read
  simp only at read
  split at read
  · rename_i scheme rest schemeRead
    obtain ⟨isScheme, inRest⟩ := scheme_unmarked schemeRead stripped
    exact with_scheme_unmarked read isUrl isScheme inRest
  · simp at read
  · rename_i b _
    split at read
    · rename_i rest next
      exact absurd (next_mem next).1 stripped
    · split at read
      · simp at read
      · split at read
        · exact file_unmarked read isUrl stripped
        · exact relative_unmarked read (isUrl b rfl) stripped

end Url

end ApiTypes
