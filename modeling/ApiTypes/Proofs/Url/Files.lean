import Mathlib.Data.List.Basic
import Mathlib.Data.List.TakeWhile
import ApiTypes.FileTree
import ApiTypes.Proofs.Octets
import ApiTypes.Proofs.Text
import ApiTypes.Reference
/-!
The URLs of files. A file's URL has the names on the way to the file in it, each one escaped, and they are read back as they
were. A relative path of plain names and dots leads from the URL of one file to that of another, or to the URL of a
directory.
-/
namespace ApiTypes.Url

open Text (splitAt)

/-! ### Names -/

/-- A name of a file: it does not stand for a directory, and has no slash, colon or bar in it. -/
def isFileName (name : Text) : Bool := !FileTree.isDots name && !name.any fun c => c == '/' || c == ':' || c == '|'

def inSegment (c : Char) : Bool := inPath c || c == '/' || c == '%' || c == '\\'

def segmentOf (name : Text) : Text := Text.Percent.encode inSegment name

def pathOf (names : List Text) : Text := names.flatMap fun name => '/' :: segmentOf name

def directoryOf (names : List Text) : Text := pathOf names ++ ['/']

def fileAt (path : Text) : Url := ⟨fileScheme, some Authority.none, path, none, none⟩

theorem of_file_at {names : List Text} (nonempty : names ≠ []) : ofFile names = fileAt (pathOf names) := by
  cases names with
  | nil => exact absurd rfl nonempty
  | cons name rest => rfl

theorem file_at_text (path : Text) : (fileAt path).text = "file://".toList ++ path := by
  simp [fileAt, text, fileScheme, Authority.none, Authority.text]

theorem path_of_concat (names : List Text) (name : Text) :
    pathOf (names ++ [name]) = pathOf names ++ '/' :: segmentOf name := by
  simp [pathOf]

/- A directory's path is the one of its names and an empty one. -/
theorem directory_of_path (names : List Text) : directoryOf names = pathOf (names ++ [[]]) := by
  rw [path_of_concat]
  rfl

theorem file_name_parts {name : Text} (isName : isFileName name = true) :
    FileTree.isDots name = false ∧ '/' ∉ name ∧ ':' ∉ name ∧ '|' ∉ name := by
  simp only [isFileName, Bool.and_eq_true, Bool.not_eq_true', List.any_eq_false, Bool.or_eq_true, beq_iff_eq, not_or] at isName
  obtain ⟨notDots, each⟩ := isName
  exact ⟨notDots, fun mem => (each _ mem).1.1 rfl, fun mem => (each _ mem).1.2 rfl, fun mem => (each _ mem).2 rfl⟩

theorem file_name_nonempty {name : Text} (isName : isFileName name = true) : name ≠ [] := by
  rintro rfl
  revert isName
  decide

theorem segment_slash (name : Text) : '/' ∉ segmentOf name := Text.Percent.encode_absent (Or.inl (by decide)) (by decide)

theorem segment_absent {c : Char} {name : Text} (absent : c ∉ name) (plain : c ∉ Text.Percent.escapeChars) :
    c ∉ segmentOf name :=
  Text.Percent.encode_absent (Or.inr absent) plain

theorem of_file_unmarked (names : List Text) : '#' ∉ (ofFile names).text := by
  cases names with
  | nil => decide
  | cons name rest =>
    rw [of_file_at (by simp), file_at_text, List.mem_append, not_or]
    refine ⟨by decide, fun mem => ?_⟩
    obtain ⟨n, -, inside⟩ := List.mem_flatMap.mp mem
    rcases List.mem_cons.mp inside with slash | within
    · revert slash
      decide
    · exact Text.Percent.encode_absent (Or.inl (by decide)) (by decide) within

theorem segment_injective {name name' : Text} (same : segmentOf name = segmentOf name') : name = name' :=
  Text.Percent.encode_injective (by decide) same

theorem segment_nonempty {name : Text} (nonempty : name ≠ []) : segmentOf name ≠ [] := by
  intro empty
  exact nonempty (segment_injective (empty.trans rfl : segmentOf name = segmentOf []))

/-! ### Reading back -/

def fromRoot (names : List Text) : Text := names.flatMap fun name => '/' :: name

theorem path_segments {names : List Text} (nonempty : names ≠ []) : (fileAt (pathOf names)).segments = names.map segmentOf := by
  cases names with
  | nil => exact absurd rfl nonempty
  | cons name rest =>
    have pieces : (pathOf (name :: rest)).drop 1 = segmentOf name ++ (rest.map segmentOf).flatMap ('/' :: ·) := by
      simp [pathOf, List.flatMap_map]
    rw [segments, fileAt]
    simp only
    rw [pieces, List.map_cons]
    apply Text.split_at_pieces
    intro p mem
    rw [← List.map_cons, List.mem_map] at mem
    obtain ⟨n, -, rfl⟩ := mem
    exact segment_slash n

theorem from_root_octets (names : List Text) :
    Text.Utf8.encode (fromRoot names) = names.flatMap fun name => 0x2F :: Text.Utf8.encode name := by
  induction names with
  | nil => rfl
  | cons name rest ih =>
    have parts : fromRoot (name :: rest) = '/' :: (name ++ fromRoot rest) := by simp [fromRoot]
    have slash : Text.Utf8.encodeChar '/' = [0x2F] := rfl
    rw [parts, List.flatMap_cons, ← ih, List.cons_append, ← Text.Utf8.encode_append]
    simp [Text.Utf8.encode, slash]

theorem no_drive {octets : List Nat} (colon : 0x3A ∉ octets) (bar : 0x7C ∉ octets) : endsInDrive octets = false := by
  unfold endsInDrive
  split
  · rename_i mark letter more rest reversed
    have last : mark ∈ octets := by
      rw [← List.mem_reverse, reversed]
      simp
    have notColon : mark ≠ 0x3A := fun same => colon (same ▸ last)
    have notBar : mark ≠ 0x7C := fun same => bar (same ▸ last)
    simp [notColon, notBar]
  · rfl

theorem from_root_absent {c : Char} {names : List Text} (other : c ≠ '/') (absent : ∀ name ∈ names, c ∉ name) :
    c ∉ fromRoot names := by
  intro mem
  obtain ⟨name, listed, inside⟩ := List.mem_flatMap.mp mem
  rcases List.mem_cons.mp inside with slash | within
  · exact other slash
  · exact absent name listed within

theorem file_path_of_names {names : List Text} (nonempty : names ≠ []) (colon : ∀ name ∈ names, ':' ∉ name)
    (bar : ∀ name ∈ names, '|' ∉ name) :
    (fileAt (pathOf names)).filePath? = some (Text.Utf8.encode (fromRoot names)) := by
  have octets : ((names.map segmentOf).flatMap fun s => 0x2F :: Text.Percent.octets (Text.Utf8.encode s)) =
      Text.Utf8.encode (fromRoot names) := by
    rw [from_root_octets, List.flatMap_map]
    simp only [segmentOf, @Text.Percent.octets_encode inSegment (by decide)]
  have drive : endsInDrive (Text.Utf8.encode (fromRoot names)) = false := by
    apply no_drive
    · exact fun mem => from_root_absent (by decide) colon (Text.Utf8.ascii_octet_mem mem (by decide))
    · exact fun mem => from_root_absent (by decide) bar (Text.Utf8.ascii_octet_mem mem (by decide))
  have hostless : (fileAt (pathOf names)).hasHost = false := rfl
  simp only [filePath?, hostless, path_segments nonempty, octets, drive, Bool.false_eq_true, if_false]

theorem from_root_split {names : List Text} (slash : ∀ name ∈ names, '/' ∉ name) :
    splitAt '/' (fromRoot names) = [] :: names := by
  have whole := @Text.split_at_pieces '/' [] names (by simpa using slash)
  rwa [List.nil_append] at whole

/-- Different paths of names have different URLs. -/
theorem file_at_injective {names names' : List Text} (nonempty : names ≠ []) (nonempty' : names' ≠ [])
    (same : (fileAt (pathOf names)).text = (fileAt (pathOf names')).text) : names = names' := by
  rw [file_at_text, file_at_text, List.append_cancel_left_eq] at same
  have segments := path_segments nonempty
  rw [same, path_segments nonempty'] at segments
  exact (List.map_injective_iff.mpr fun _ _ => segment_injective) segments.symm

/-! ### Dots -/

def escapedDot : Text := ['%', '2', 'e']

theorem replace_kept {c : Char} (other : c ≠ '%') (rest : Text) :
    Text.replaceFrom escapedDot ['.'] 0 (c :: rest) = c :: Text.replaceFrom escapedDot ['.'] 0 rest := by
  apply Text.replace_other
  rw [escapedDot, List.cons_prefix_cons]
  exact fun leads => other leads.1.symm

/- What is escaped is never a dot. -/
theorem replace_octet {n : Nat} (small : n < 256) (other : n ≠ 0x2E) (rest : Text) :
    Text.replaceFrom escapedDot ['.'] 0 (Text.lowerAscii (Text.Percent.octet n) ++ rest) =
      Text.lowerAscii (Text.Percent.octet n) ++ Text.replaceFrom escapedDot ['.'] 0 rest := by
  have digit : ∀ d < 16, (Text.digitChar d).toUpper.toLower = Text.digitChar d ∧ Text.digitChar d ≠ '%' ∧
      (Text.digitChar d = '2' → d = 2) ∧ (Text.digitChar d = 'e' → d = 14) := by decide
  obtain ⟨lowHigh, noSign, isTwo, -⟩ := digit (n / 16) (by omega)
  obtain ⟨lowLow, noSign', -, isFourteen⟩ := digit (n % 16) (by omega)
  have written : Text.lowerAscii (Text.Percent.octet n) = ['%', Text.digitChar (n / 16), Text.digitChar (n % 16)] := by
    have sign : '%'.toLower = '%' := by decide
    simp [Text.lowerAscii, Text.Percent.octet, lowHigh, lowLow, sign]
  have apart : ¬ escapedDot <+: '%' :: Text.digitChar (n / 16) :: Text.digitChar (n % 16) :: rest := by
    rw [escapedDot]
    simp only [List.cons_prefix_cons, List.nil_prefix, true_and, and_true]
    rintro ⟨high, low⟩
    have := isTwo high.symm
    have := isFourteen low.symm
    omega
  rw [written, List.cons_append, List.cons_append, List.cons_append, List.nil_append, Text.replace_other ['.'] apart,
    replace_kept noSign, replace_kept noSign']
  rfl

theorem replace_octets {bs : List Nat} (small : ∀ b ∈ bs, b < 256) (other : 0x2E ∉ bs) (rest : Text) :
    Text.replaceFrom escapedDot ['.'] 0 (Text.lowerAscii (bs.flatMap Text.Percent.octet) ++ rest) =
      Text.lowerAscii (bs.flatMap Text.Percent.octet) ++ Text.replaceFrom escapedDot ['.'] 0 rest := by
  induction bs with
  | nil => rfl
  | cons b bs ih =>
    simp only [List.mem_cons, not_or] at other
    have parts : Text.lowerAscii ((b :: bs).flatMap Text.Percent.octet) =
        Text.lowerAscii (Text.Percent.octet b) ++ Text.lowerAscii (bs.flatMap Text.Percent.octet) := by
      simp [Text.lowerAscii]
    rw [parts, List.append_assoc, replace_octet (small b (by simp)) (Ne.symm other.1),
      ih (fun b mem => small b (by simp [mem])) other.2, List.append_assoc]

theorem read_dots_segment (name : Text) : readDots (segmentOf name) = Text.lowerAscii (segmentOf name) := by
  unfold readDots Text.replace segmentOf
  change Text.replaceFrom escapedDot ['.'] 0 _ = _
  induction name with
  | nil => rfl
  | cons c name ih =>
    have parts : Text.lowerAscii (Text.Percent.encode inSegment (c :: name)) =
        Text.lowerAscii (if c.toNat < 0x80 && !inSegment c then [c] else (Text.Utf8.encodeChar c).flatMap Text.Percent.octet)
          ++ Text.lowerAscii (Text.Percent.encode inSegment name) := by
      simp [Text.Percent.encode, Text.lowerAscii]
    rw [parts]
    split
    · rename_i kept
      have other : c.toLower ≠ '%' := by
        intro sign
        rw [Text.lower_eq sign (by decide)] at kept
        revert kept
        decide
      change Text.replaceFrom escapedDot ['.'] 0 (c.toLower :: Text.lowerAscii (Text.Percent.encode inSegment name)) = _
      rw [replace_kept other, ih]
      rfl
    · rename_i escaped
      have other : 0x2E ∉ Text.Utf8.encodeChar c := by
        intro mem
        have whole : 0x2E ∈ Text.Utf8.encode [c] := by simpa [Text.Utf8.encode] using mem
        have dot : Char.ofNat 0x2E = c := List.mem_singleton.mp (Text.Utf8.ascii_octet_mem whole (by decide))
        rw [← dot] at escaped
        exact escaped (by decide)
      rw [replace_octets (fun b mem => Text.Utf8.octet_bound mem) other, ih]

/- A segment reads as dots only if its name is these dots. -/
theorem dots_of_segment {name dots : Text} (dotted : dots = ['.'] ∨ dots = ['.', '.'])
    (read : readDots (segmentOf name) = dots) : name = dots := by
  have unlettered : ∀ c ∈ dots, c.isAlpha = false := by
    intro c mem
    have dot : c = '.' := by
      rcases dotted with rfl | rfl
      · simpa using mem
      · simpa using mem
    rw [dot]
    rfl
  rw [read_dots_segment] at read
  have kept := Text.lower_ascii_eq unlettered read
  rcases dotted with rfl | rfl
  · exact segment_injective kept
  · exact segment_injective kept

/-! ### Drives -/

theorem starts_without_drive {t : Text} (colon : ':' ∉ t) (bar : '|' ∉ t) : startsWithDrive t = false := by
  unfold startsWithDrive
  split
  · rename_i c d rest
    have notColon : d ≠ ':' := by
      rintro rfl
      simp at colon
    have notBar : d ≠ '|' := by
      rintro rfl
      simp at bar
    simp [notColon, notBar]
  · rfl

theorem segment_no_drive {name : Text} (isName : isFileName name = true) : isDrive (segmentOf name) = false := by
  obtain ⟨-, -, colon, bar⟩ := file_name_parts isName
  rw [isDrive, starts_without_drive (segment_absent colon (by decide)) (segment_absent bar (by decide)), Bool.and_false]

theorem directory_no_drive (names : List Text) : isNormalDrive ((directoryOf names).drop 1) = false := by
  have last : ((directoryOf names).drop 1).getLast? ≠ some ':' := by
    rw [directoryOf, List.getLast?_drop]
    split <;> simp
  rw [isNormalDrive, beq_false_of_ne last, Bool.and_false]

/-! ### Going up -/

theorem reversed_no_slash {segment : Text} (slash : '/' ∉ segment) : ∀ c ∈ segment.reverse, (c != '/') = true := by
  intro c mem
  rw [bne_iff_ne]
  rintro rfl
  exact slash (List.mem_reverse.mp mem)

theorem last_segment_after (path : Text) {segment : Text} (slash : '/' ∉ segment) :
    lastSegment (path ++ '/' :: segment) = segment := by
  rw [lastSegment, List.reverse_append, List.reverse_cons, List.append_assoc,
    List.takeWhile_append_of_pos (reversed_no_slash slash)]
  simp

theorem up_to_slash_after (path : Text) {segment : Text} (slash : '/' ∉ segment) :
    upToSlash (path ++ '/' :: segment) = path ++ ['/'] := by
  rw [upToSlash, List.reverse_append, List.reverse_cons, List.append_assoc,
    List.dropWhile_append_of_pos (reversed_no_slash slash)]
  simp

theorem pop_path {names : List Text} {name : Text} (isName : isFileName name = true) :
    pop true (pathOf (names ++ [name])) = directoryOf names := by
  have drive : isNormalDrive (segmentOf name) = false := by rw [isNormalDrive, segment_no_drive isName, Bool.false_and]
  rw [path_of_concat, pop, last_segment_after _ (segment_slash name), drive, up_to_slash_after _ (segment_slash name)]
  rfl

theorem go_up_directory {names : List Text} (isNames : ∀ name ∈ names, isFileName name = true) :
    goUp true (directoryOf names) = directoryOf names.dropLast := by
  rcases List.eq_nil_or_concat' names with rfl | ⟨front, name, rfl⟩
  · rfl
  · have isName := isNames name (by simp)
    obtain ⟨-, -, colon, bar⟩ := file_name_parts isName
    have ends : endsInSlash (directoryOf (front ++ [name])) = true := by simp [endsInSlash, directoryOf]
    have inner : (directoryOf (front ++ [name])).dropLast = pathOf (front ++ [name]) := by simp [directoryOf]
    have inside : (pathOf (front ++ [name])).contains '/' = true := by simp [path_of_concat]
    have drive : startsWithDrive (lastSegment (pathOf (front ++ [name])) ++ ['/']) = false := by
      rw [path_of_concat, last_segment_after _ (segment_slash name)]
      apply starts_without_drive
      · simpa using segment_absent colon (by decide)
      · simpa using segment_absent bar (by decide)
    simp only [goUp, ends, inner, inside, drive, Bool.not_false, Bool.and_self, if_true]
    rw [pop_path isName, List.dropLast_concat]

/-! ### Plain paths -/

/-- Nothing is made of this character but itself or an escape for it. -/
def isPlain (c : Char) : Bool := 0x20 < c.toNat && !("%?#/\\:|".toList.contains c)

def isPlainName (name : Text) : Bool := !name.isEmpty && name.all isPlain

def isPlainPath (t : Text) : Bool := (splitAt '/' t).all isPlainName

def stepTo (names : List Text) (name : Text) : List Text :=
  if name == "..".toList then names.dropLast else if name == ".".toList then names else names ++ [name]

theorem plain_visible {c : Char} (plain : isPlain c = true) : 0x20 < c.toNat := by
  rw [isPlain, Bool.and_eq_true, decide_eq_true_eq] at plain
  exact plain.1

theorem visible_no_gap {c : Char} (visible : 0x20 < c.toNat) : isGap c = false := by
  rw [Bool.eq_false_iff]
  intro gap
  simp only [isGap, Bool.or_eq_true, beq_iff_eq] at gap
  rcases gap with (rfl | rfl) | rfl <;> exact absurd visible (by decide)

theorem plain_absent {name : Text} (plain : isPlainName name = true) {c : Char} (other : isPlain c = false) : c ∉ name := by
  intro mem
  rw [isPlainName, Bool.and_eq_true, List.all_eq_true] at plain
  rw [plain.2 c mem] at other
  simp at other

theorem plain_nonempty {name : Text} (plain : isPlainName name = true) : name.isEmpty = false := by
  rw [isPlainName, Bool.and_eq_true, Bool.not_eq_true'] at plain
  exact plain.1

theorem plain_segment {name : Text} (plain : isPlainName name = true) : Text.Percent.encode inPath name = segmentOf name := by
  apply Text.Percent.encode_congr
  intro c mem
  have slash : c ≠ '/' := by
    rintro rfl
    exact plain_absent plain (by decide) mem
  have sign : c ≠ '%' := by
    rintro rfl
    exact plain_absent plain (by decide) mem
  have back : c ≠ '\\' := by
    rintro rfl
    exact plain_absent plain (by decide) mem
  rw [inSegment, beq_false_of_ne slash, beq_false_of_ne sign, beq_false_of_ne back, Bool.or_false, Bool.or_false,
    Bool.or_false]

theorem plain_not_dots {name : Text} (plain : isPlainName name = true) (up : name ≠ "..".toList) (stay : name ≠ ".".toList) :
    FileTree.isDots name = false := by
  rw [FileTree.isDots, plain_nonempty plain, beq_false_of_ne up, beq_false_of_ne stay]
  rfl

theorem plain_file_name {name : Text} (plain : isPlainName name = true) (notDots : FileTree.isDots name = false) :
    isFileName name = true := by
  have each : ∀ c ∈ name, ¬ (c == '/' || c == ':' || c == '|') = true := by
    intro c mem special
    simp only [Bool.or_eq_true, beq_iff_eq] at special
    rcases special with (rfl | rfl) | rfl
    · exact plain_absent plain (by decide) mem
    · exact plain_absent plain (by decide) mem
    · exact plain_absent plain (by decide) mem
  rw [isFileName, notDots, Bool.not_false, Bool.true_and, Bool.not_eq_true', List.any_eq_false]
  exact each

theorem pieces_single {p : Char → Bool} {t : Text} (none : ∀ c ∈ t, p c = false) : piecesAt p t = [t] := by
  induction t with
  | nil => rfl
  | cons c t ih =>
    rw [piecesAt, if_neg (by simp [none c]), ih fun d mem => none d (by simp [mem])]

theorem pieces_split {p : Char → Bool} {sep : Char} {t : Text} (same : ∀ c ∈ t, p c = (c == sep)) :
    piecesAt p t = splitAt sep t := by
  induction t with
  | nil => rfl
  | cons c t ih =>
    have here := same c (by simp)
    have later := ih fun d mem => same d (by simp [mem])
    cases pieces : splitAt sep t with
    | nil => simp [piecesAt, splitAt, here, later, pieces]
    | cons piece more => simp [piecesAt, splitAt, here, later, pieces]

theorem add_plain_piece (names : List Text) {name : Text} (plain : isPlainName name = true) :
    addPieces true (directoryOf names) 0 (piecesAt isGap name) = (directoryOf names ++ segmentOf name, 0) := by
  have gaps : ∀ c ∈ name, isGap c = false := by
    intro c mem
    rw [isPlainName, Bool.and_eq_true, List.all_eq_true] at plain
    exact visible_no_gap (plain_visible (plain.2 c mem))
  rw [pieces_single gaps, addPieces, plain_nonempty plain]
  simp only [Bool.false_eq_true, if_false, directory_no_drive, Bool.and_false, plain_segment plain, addPieces]

theorem with_slash_directory (names : List Text) : withSlash (directoryOf names) = directoryOf names := by
  simp [withSlash, endsInSlash, directoryOf]

theorem add_plain_segment {names : List Text} (isNames : ∀ name ∈ names, isFileName name = true) (drive slash : Bool)
    {name : Text} (plain : isPlainName name = true) :
    Path.addSegment true slash ⟨directoryOf names, drive⟩ name =
      ⟨if slash || FileTree.isDots name then directoryOf (stepTo names name) else pathOf (names ++ [name]), drive⟩ := by
  simp only [Path.addSegment, add_plain_piece names plain, Nat.add_zero, List.take_left, List.drop_left]
  by_cases up : name = "..".toList
  · subst up
    have dots : readDots (segmentOf "..".toList) = "..".toList := rfl
    have isDots : FileTree.isDots "..".toList = true := rfl
    simp only [dots, beq_self_eq_true, if_true, go_up_directory isNames, with_slash_directory, isDots, Bool.or_true, stepTo,
      ite_self]
  by_cases stay : name = ".".toList
  · subst stay
    have dots : readDots (segmentOf ".".toList) = ".".toList := rfl
    have isDots : FileTree.isDots ".".toList = true := rfl
    have other : (".".toList == "..".toList) = false := rfl
    simp only [dots, other, beq_self_eq_true, if_true, Bool.false_eq_true, if_false, with_slash_directory, isDots, Bool.or_true,
      stepTo]
  · have noUp : (readDots (segmentOf name) == "..".toList) = false :=
      beq_false_of_ne fun dots => up (dots_of_segment (Or.inr rfl) dots)
    have noStay : (readDots (segmentOf name) == ".".toList) = false :=
      beq_false_of_ne fun dots => stay (dots_of_segment (Or.inl rfl) dots)
    have notDots : FileTree.isDots name = false := plain_not_dots plain up stay
    have noDrive : isDrive (segmentOf name) = false := segment_no_drive (plain_file_name plain notDots)
    simp only [noUp, noStay, noDrive, notDots, Bool.false_eq_true, if_false, Bool.and_false, Bool.or_false, stepTo,
      beq_false_of_ne up, beq_false_of_ne stay, path_of_concat, directoryOf,
      List.append_assoc, List.nil_append, List.cons_append]

theorem step_to_names {names : List Text} (isNames : ∀ name ∈ names, isFileName name = true) {name : Text}
    (plain : isPlainName name = true) : ∀ n ∈ stepTo names name, isFileName n = true := by
  unfold stepTo
  split
  · exact fun n mem => isNames n ((List.dropLast_sublist names).subset mem)
  · rename_i noUp
    split
    · exact isNames
    · rename_i noStay
      have notDots := plain_not_dots plain (ne_of_beq_false (Bool.eq_false_iff.mpr noUp))
        (ne_of_beq_false (Bool.eq_false_iff.mpr noStay))
      exact List.forall_mem_append.mpr ⟨isNames, List.forall_mem_singleton.mpr (plain_file_name plain notDots)⟩

theorem add_plain_segments {names : List Text} (isNames : ∀ name ∈ names, isFileName name = true) (drive : Bool)
    {raws : List Text} (plain : ∀ raw ∈ raws, isPlainName raw = true) :
    ∃ names' : List Text, (∀ name ∈ names', isFileName name = true) ∧
      ((Path.addSegments true ⟨directoryOf names, drive⟩ raws).text = directoryOf names' ∨
        names' ≠ [] ∧ (Path.addSegments true ⟨directoryOf names, drive⟩ raws).text = pathOf names') := by
  induction raws generalizing names with
  | nil => exact ⟨names, isNames, Or.inl rfl⟩
  | cons raw rest ih =>
    have first := plain raw (by simp)
    cases rest with
    | nil =>
      rw [Path.addSegments, add_plain_segment isNames drive false first, Bool.false_or]
      cases dots : FileTree.isDots raw with
      | true => exact ⟨stepTo names raw, step_to_names isNames first, Or.inl rfl⟩
      | false =>
        have isNames' := List.forall_mem_append.mpr ⟨isNames, List.forall_mem_singleton.mpr (plain_file_name first dots)⟩
        exact ⟨names ++ [raw], isNames', Or.inr ⟨by simp, rfl⟩⟩
    | cons next more =>
      rw [Path.addSegments, add_plain_segment isNames drive true first, Bool.true_or]
      · exact ih (step_to_names isNames first) fun r mem => plain r (by simp [mem])
      · simp

theorem one_leading_slash {name : Text} (isName : isFileName name = true) (names : List Text) (rest : Text) :
    '/' :: (pathOf (name :: names) ++ rest).dropWhile (· == '/') = pathOf (name :: names) ++ rest := by
  have parts : pathOf (name :: names) ++ rest = '/' :: (segmentOf name ++ (pathOf names ++ rest)) := by simp [pathOf]
  have nonempty := segment_nonempty (file_name_nonempty isName)
  cases segment : segmentOf name with
  | nil => exact absurd segment nonempty
  | cons c more =>
    have other : (c == '/') = false := by
      apply beq_false_of_ne
      rintro rfl
      exact segment_slash name (by simp [segment])
    rw [parts, segment, List.cons_append, List.dropWhile_cons, if_pos (by decide), List.dropWhile_cons, other]
    rfl

/-! ### Joining -/

theorem plain_path_char {t : Text} (plain : isPlainPath t = true) {c : Char} (mem : c ∈ t) : c = '/' ∨ isPlain c = true := by
  rcases @Text.split_at_covers '/' c t mem with slash | ⟨piece, listed, inside⟩
  · exact Or.inl slash
  · rw [isPlainPath, List.all_eq_true] at plain
    have named := plain piece listed
    rw [isPlainName, Bool.and_eq_true, List.all_eq_true] at named
    exact Or.inr (named.2 c inside)

theorem plain_path_absent {t : Text} (plain : isPlainPath t = true) {c : Char} (slash : c ≠ '/') (other : isPlain c = false) :
    c ∉ t := by
  intro mem
  rcases plain_path_char plain mem with same | isPlain
  · exact slash same
  · rw [isPlain] at other
    simp at other

theorem plain_path_visible {t : Text} (plain : isPlainPath t = true) {c : Char} (mem : c ∈ t) : 0x20 < c.toNat := by
  rcases plain_path_char plain mem with rfl | isPlain
  · decide
  · exact plain_visible isPlain

theorem read_plain_path {names : List Text} (isNames : ∀ name ∈ names, isFileName name = true) {t : Text}
    (plain : isPlainPath t = true) :
    ∃ names' : List Text, (∀ name ∈ names', isFileName name = true) ∧
      ((Path.read true true (directoryOf names) t).text = directoryOf names' ∨
        names' ≠ [] ∧ (Path.read true true (directoryOf names) t).text = pathOf names') := by
  have pieces : piecesAt (isSlash true) t = splitAt '/' t := by
    apply pieces_split
    intro c mem
    have back : c ≠ '\\' := by
      rintro rfl
      exact plain_path_absent plain (by decide) (by decide) mem
    rw [isSlash, beq_false_of_ne back]
    simp
  obtain ⟨names', isNames', led⟩ := add_plain_segments isNames false (List.all_eq_true.mp plain)
  refine ⟨names', isNames', ?_⟩
  simp only [Path.read, pieces, if_true]
  cases names' with
  | nil =>
    rcases led with led | ⟨nonempty, -⟩
    · left
      rw [led]
      rfl
    · exact absurd rfl nonempty
  | cons name more =>
    rcases led with led | ⟨nonempty, led⟩
    · left
      rw [led]
      exact one_leading_slash (isNames' name (by simp)) more ['/']
    · right
      refine ⟨nonempty, ?_⟩
      have whole := one_leading_slash (isNames' name (by simp)) more []
      rw [List.append_nil] at whole
      rw [led, whole]

theorem no_scheme {t : Text} (colon : ':' ∉ t) : scheme? t = none := by
  unfold scheme?
  simp only
  split
  · rename_i c more rest name drop
    exact absurd (List.mem_of_mem_drop (drop ▸ List.mem_cons_self)) colon
  · rfl

theorem drop_while_none {p : Char → Bool} {t : Text} (none : ∀ c ∈ t, p c = false) : t.dropWhile p = t := by
  apply List.dropWhile_eq_self_iff.mpr
  intro within
  rw [none _ (List.getElem_mem within)]
  decide

theorem strip_visible {t : Text} (visible : ∀ c ∈ t, 0x20 < c.toNat) : strip t = t := by
  have outside : ∀ c ∈ t, decide (c.toNat ≤ 0x20) = false := fun c mem => decide_eq_false (Nat.not_le.mpr (visible c mem))
  unfold strip
  simp only
  rw [drop_while_none outside, drop_while_none fun c mem => outside c (List.mem_reverse.mp mem), List.reverse_reverse]

theorem plain_path_first {t : Text} (plain : isPlainPath t = true) : ∃ c rest, t = c :: rest ∧ isPlain c = true := by
  cases t with
  | nil => simp [isPlainPath, splitAt, isPlainName] at plain
  | cons c rest =>
    refine ⟨c, rest, rfl, ?_⟩
    rcases plain_path_char plain List.mem_cons_self with rfl | isPlain
    · simp [isPlainPath, splitAt, isPlainName] at plain
    · exact isPlain

theorem read_relative_to_file {path t rest : Text} {c : Char} (stripped : strip t = t) (scheme : scheme? t = none)
    (next : next? t = some (c, rest)) (inside : c ≠ '#') : (fileAt path).join? t = file? (some (fileAt path)) t := by
  unfold join? read?
  simp only [stripped, scheme, next]
  split
  · rename_i same
    simp only [Option.some.injEq, Prod.mk.injEq] at same
    exact absurd same.1 inside
  · rfl

theorem file_from_segment {path t rest : Text} {c : Char} (next : next? t = some (c, rest)) (slash : isSlash true c = false)
    (query : c ≠ '?') (inside : c ≠ '#') (drive : startsWithDrive (dropGaps t) = false) (tailless : cutTail t = (t, [])) :
    file? (some (fileAt path)) t = some (fileAt (Path.read true true (pop true path) t).text) := by
  unfold file?
  simp only [next, slash, beq_false_of_ne query, beq_false_of_ne inside, drive, Bool.false_eq_true, if_false]
  rw [fileFrom, tailless]
  rfl

theorem plain_path_next {t : Text} (plain : isPlainPath t = true) : ∃ c rest, next? t = some (c, rest) ∧ isPlain c = true := by
  obtain ⟨c, rest, rfl, isPlainChar⟩ := plain_path_first plain
  have gapless : ∀ d ∈ c :: rest, isGap d = false := fun d mem => visible_no_gap (plain_path_visible plain mem)
  refine ⟨c, rest, ?_, isPlainChar⟩
  rw [next?, drop_while_none gapless]

theorem plain_path_tailless {t : Text} (plain : isPlainPath t = true) : cutTail t = (t, []) := by
  have inside : ∀ c ∈ t, (!isTailMark c) = true := by
    intro c mem
    rw [isTailMark, Bool.not_eq_true', Bool.or_eq_false_iff]
    constructor
    · apply beq_false_of_ne
      rintro rfl
      exact plain_path_absent plain (by decide) (by decide) mem
    · apply beq_false_of_ne
      rintro rfl
      exact plain_path_absent plain (by decide) (by decide) mem
  rw [cutTail, List.takeWhile_eq_self_iff.mpr inside, List.dropWhile_eq_nil_iff.mpr inside]

/-- A plain path leads from a file to another one or to a directory. -/
theorem join_plain_path {names : List Text} (nonempty : names ≠ []) (isNames : ∀ name ∈ names, isFileName name = true) {t : Text}
    (plain : isPlainPath t = true) :
    ∃ names' : List Text, (∀ name ∈ names', isFileName name = true) ∧
      ((ofFile names).join? t = some (fileAt (directoryOf names')) ∨
        names' ≠ [] ∧ (ofFile names).join? t = some (ofFile names')) := by
  have colon : ':' ∉ t := plain_path_absent plain (by decide) (by decide)
  have bar : '|' ∉ t := plain_path_absent plain (by decide) (by decide)
  have stripped : strip t = t := strip_visible fun c => plain_path_visible plain
  have drive : startsWithDrive (dropGaps t) = false :=
    starts_without_drive (fun mem => colon (List.mem_filter.mp mem).1) fun mem => bar (List.mem_filter.mp mem).1
  obtain ⟨c, rest, next, isPlainChar⟩ := plain_path_next plain
  have other : ∀ d, isPlain d = false → c ≠ d := by
    rintro d mark rfl
    rw [isPlainChar] at mark
    simp at mark
  have slash : isSlash true c = false := by
    rw [isSlash, beq_false_of_ne (other '/' (by decide)), beq_false_of_ne (other '\\' (by decide))]
    rfl
  have inside := other '#' (by decide)
  obtain ⟨front, name, rfl⟩ := (List.eq_nil_or_concat' names).resolve_left nonempty
  have joined : (ofFile (front ++ [name])).join? t = some (fileAt (Path.read true true (directoryOf front) t).text) := by
    rw [of_file_at nonempty, read_relative_to_file stripped (no_scheme colon) next inside,
      file_from_segment next slash (other '?' (by decide)) inside drive (plain_path_tailless plain),
      pop_path (isNames name (by simp))]
  have isFront : ∀ n ∈ front, isFileName n = true := fun n mem => isNames n (by simp [mem])
  obtain ⟨names', isNames', directory | ⟨named, file⟩⟩ := read_plain_path isFront plain
  · exact ⟨names', isNames', Or.inl (by rw [joined, directory])⟩
  · exact ⟨names', isNames', Or.inr ⟨named, by rw [joined, file, of_file_at named]⟩⟩

theorem plain_path_relative {r : Reference} (plain : isPlainPath r.document = true) : r.kind = .relative := by
  obtain ⟨c, rest, first, -⟩ := plain_path_first plain
  have stripped : strip r.document = r.document := strip_visible fun c => plain_path_visible plain
  have scheme : scheme? r.document = none := no_scheme (plain_path_absent plain (by decide) (by decide))
  have unnamed : Reference.namesHost r.document = false := by
    simp [Reference.namesHost, parse?, read?, stripped, scheme]
  rw [Reference.kind, unnamed, first]
  rfl

end ApiTypes.Url
