import ApiTypes.Proofs.Octets
import ApiTypes.Proofs.Output
/-!
What writing declarations leaves behind. Those that have a text and a name for a file are written one after the other, each
to a file of its own in the directory, until one of them cannot be written. So of several with one name the last one that
is written stays, and all else is as it was.
-/
namespace ApiTypes

namespace FileTree

/-! ### Paths to files in a directory -/

structure Fits (directory name : Text) : Prop where
  path : checkPath (joinName directory name) = .ok ()
  isName : isDots name = false
  short : ¬ maxName < Text.Utf8.size name

theorem write_fits {tree after : FileTree} {directory name content : Text} (single : '/' ∉ name)
    (ran : tree.write (joinName directory name) content = .ok after) : Fits directory name := by
  obtain ⟨⟨parent, last⟩, found, put⟩ := bind_ok ran
  obtain ⟨rfl, -⟩ := locate_parent_join single found
  obtain ⟨done, valid, -⟩ := bind_ok found
  simp only at put
  split at put
  · simp at put
  · rename_i isName
    split at put
    · simp at put
    · rename_i short
      exact ⟨valid, by simpa using isName, short⟩

theorem step_there {tree : FileTree} {here : Place} {name : Text} (isDirectory : tree.isDirectoryAt here = true)
    (isName : isDots name = false) (short : ¬ maxName < Text.Utf8.size name) (there : tree.find? (here ++ [name]) ≠ none) :
    tree.step here name = .ok (here ++ [name]) := by
  simp only [isDots, Bool.or_eq_false_iff] at isName
  obtain ⟨⟨nonempty, notDot⟩, notDots⟩ := isName
  have found : (tree.find? (here ++ [name])).isNone = false := by simpa [Option.isSome_iff_ne_none] using there
  simp only [step, isDirectory, nonempty, notDot, notDots, short, found, Bool.not_true, Bool.or_self, Bool.false_eq_true,
    if_false]

theorem steps_slash {tree : FileTree} {here place : Place} {names : List Text}
    (went : (names ++ [[]]).foldlM tree.step here = .ok place) : names.foldlM tree.step here = .ok place := by
  rw [List.foldlM_append] at went
  obtain ⟨there, first, last⟩ := bind_ok went
  rw [List.foldlM_cons] at last
  obtain ⟨next, stays, done⟩ := bind_ok last
  cases Except.ok.inj done
  unfold step at stays
  split at stays
  · simp at stays
  · cases Except.ok.inj stays
    exact first

theorem locate_join {tree : FileTree} {directory name : Text} {parent : Place} (single : '/' ∉ name)
    (fits : Fits directory name) (leads : tree.Leads directory parent) (there : tree.find? (parent ++ [name]) ≠ none) :
    tree.locate (joinName directory name) = .ok (parent ++ [name]) := by
  obtain ⟨reached, isDirectory⟩ := leads
  have last := step_there isDirectory fits.isName fits.short there
  rw [locate, fits.path]
  change (Text.splitAt '/' (joinName directory name)).foldlM tree.step (tree.start (joinName directory name)) = _
  by_cases empty : directory = []
  · subst empty
    rw [if_pos rfl] at reached
    subst reached
    have joined : joinName [] name = name := rfl
    have atHome : tree.start name = tree.home := by
      rw [start, hasRoot, if_neg]
      intro root
      exact single (List.mem_of_mem_head? (by simpa using root))
    rw [joined, Text.split_at_single single, atHome, List.foldlM_cons, last]
    rfl
  · rw [if_neg empty] at reached
    obtain ⟨names, split, own⟩ := split_join empty single
    have went := locate_steps reached
    have inside : names.foldlM tree.step (tree.start directory) = .ok parent := by
      rcases own with same | same
      · rwa [same] at went
      · rw [same] at went
        exact steps_slash went
    have sameStart : tree.start (joinName directory name) = tree.start directory := by
      obtain ⟨more, lead⟩ := join_name_lead directory name
      cases directory with
      | nil => exact absurd rfl empty
      | cons c directory =>
        rw [lead]
        rfl
    rw [split, sameStart, List.foldlM_append, inside]
    change [name].foldlM tree.step parent = _
    rw [List.foldlM_cons, last]
    rfl

theorem read_text {tree : FileTree} {path t : Text} {place : Place} (located : tree.locate path = .ok place)
    (found : tree.find? place = some (.file (Text.Utf8.encode t))) : tree.read path = .ok t := by
  have octets : tree.readOctets path = .ok (Text.Utf8.encode t) := by
    simp only [readOctets, located, bind, Except.bind, found]
  simp only [read, octets, bind, Except.bind, Text.Utf8.decode_encode]

end FileTree

namespace Sink

open FileTree (Makes Fits)

/-! ### Declarations that are written -/

theorem usable_iff (name text : Text) :
    isUsable (name, text) = true ↔ text ≠ [] ∧ name ≠ [] ∧ '/' ∉ name ∧ '\\' ∉ name ∧ name.head? ≠ some '.' := by
  simp only [isUsable, isFileStem, Bool.and_eq_true, Bool.not_eq_true', List.isEmpty_eq_false_iff, bne_iff_ne,
    List.any_eq_false, Bool.or_eq_true, beq_iff_eq, not_or]
  constructor
  · rintro ⟨⟨⟨some, dot⟩, clean⟩, content⟩
    exact ⟨content, some, fun mem => (clean _ mem).1 rfl, fun mem => (clean _ mem).2 rfl, dot⟩
  · rintro ⟨content, some, slash, backslash, dot⟩
    refine ⟨⟨⟨some, dot⟩, fun c mem => ⟨?_, ?_⟩⟩, content⟩
    · rintro rfl
      exact slash mem
    · rintro rfl
      exact backslash mem

def lastText? (declarations : List (Text × Text)) (name : Text) : Option Text :=
  Ordered.get? name (declarations.filter isUsable).reverse

theorem file_lookup (declarations : List (Text × Text)) (name : Text) :
    Ordered.get? (name ++ ".ts".toList) (declarations.map fileOf) = Ordered.get? name declarations := by
  induction declarations with
  | nil => rfl
  | cons d rest ih =>
    rw [List.map_cons, Ordered.get?, Ordered.get?, ih]
    simp [fileOf]

/-- How far a run of writing gets: the declarations in front have been written, and either there are no others, or the next
one cannot be written. -/
theorem write_from_runs (directory : Text) {declarations : List (Text × Text)}
    (single : ∀ d ∈ declarations, '/' ∉ (fileOf d).1) (tree : FileTree) (written : List Text) :
    ∃ done rest after result, writeFrom directory tree written declarations = (after, result) ∧
      declarations = done ++ rest ∧ Makes directory tree (done.map fileOf) after ∧
      (∀ d ∈ done, Fits directory (fileOf d).1) ∧
      ((rest = [] ∧ result = .ok (written.reverse ++ done.map fun d => filePath directory d.1)) ∨
        ∃ d later e, rest = d :: later ∧ after.write (filePath directory d.1) d.2 = .error e ∧ result = .error e) := by
  induction declarations generalizing tree written with
  | nil => exact ⟨[], [], tree, _, rfl, rfl, .nothing tree, by simp, Or.inl ⟨rfl, by simp⟩⟩
  | cons d rest ih =>
    have alone := single d List.mem_cons_self
    cases ran : tree.write (filePath directory d.1) d.2 with
    | error e =>
      refine ⟨[], d :: rest, tree, .error e, ?_, rfl, .nothing tree, by simp, Or.inr ⟨d, rest, e, rfl, ran, rfl⟩⟩
      simp only [writeFrom, ran]
    | ok next =>
      obtain ⟨done, left, after, result, run, split, made, fits, ended⟩ :=
        ih (fun d mem => single d (List.mem_cons_of_mem _ mem)) next (filePath directory d.1 :: written)
      have first : Makes directory tree [fileOf d] next := FileTree.write_makes alone ran
      refine ⟨d :: done, left, after, result, ?_, by rw [split, List.cons_append], first.trans made, ?_, ?_⟩
      · simp only [writeFrom, ran, run]
      · intro other mem
        rcases List.mem_cons.mp mem with rfl | later
        · exact FileTree.write_fits alone ran
        · exact fits other later
      · rcases ended with ⟨none, paths⟩ | failed
        · exact Or.inl ⟨none, by simpa using paths⟩
        · exact Or.inr failed

/-! ### What the files are in the end -/

/-- What a tree has become when just the usable ones of some declarations have been written to a directory: there is a file
in the directory for each name, which has the text of the last of them, and its path leads to it. At any other place
there is what was there before, or a new directory where nothing was. -/
structure Holds (directory : Text) (declarations : List (Text × Text)) (before after : FileTree) : Prop where
  home : after.home = before.home
  written : ∀ name text, lastText? declarations name = some text → ∃ parent, after.Leads directory parent ∧
    after.locate (filePath directory name) = .ok (parent ++ [name ++ ".ts".toList]) ∧
    after.find? (parent ++ [name ++ ".ts".toList]) = some (.file (Text.Utf8.encode text)) ∧
    after.read (filePath directory name) = .ok text
  others : ∀ place, (∀ parent name text, after.Leads directory parent → lastText? declarations name = some text →
      place ≠ parent ++ [name ++ ".ts".toList]) →
    after.find? place = before.find? place ∨ before.find? place = none ∧ after.find? place = some .directory

theorem last_text_listed {declarations : List (Text × Text)} {name text : Text}
    (last : lastText? declarations name = some text) : (name, text) ∈ declarations.filter isUsable :=
  List.mem_reverse.mp (Ordered.get_mem last)

theorem last_text_of_file {declarations : List (Text × Text)} {file content : Text}
    (last : Ordered.get? file ((declarations.filter isUsable).map fileOf).reverse = some content) :
    ∃ name, file = name ++ ".ts".toList ∧ lastText? declarations name = some content := by
  obtain ⟨⟨name, text⟩, -, same⟩ := List.mem_map.mp (List.mem_reverse.mp (Ordered.get_mem last))
  cases same
  rw [← List.map_reverse, file_lookup] at last
  exact ⟨name, rfl, last⟩

theorem makes_holds {directory : Text} {declarations : List (Text × Text)} {before after : FileTree}
    (made : Makes directory before ((declarations.filter isUsable).map fileOf) after)
    (fits : ∀ d ∈ declarations.filter isUsable, Fits directory (fileOf d).1) : Holds directory declarations before after where
  home := made.keeps.home
  written name text last := by
    have listed := last_text_listed last
    have planned : fileOf (name, text) ∈ (declarations.filter isUsable).map fileOf := List.mem_map_of_mem listed
    obtain ⟨parent, leads⟩ := made.leads (List.ne_nil_of_mem planned)
    rcases made.entry (parent ++ [name ++ ".ts".toList]) with ⟨_, _, content, _, stands, own, found⟩ | ⟨unwritten, -⟩
    · obtain ⟨rfl, same⟩ := List.append_inj' stands rfl
      cases same
      rw [← List.map_reverse, file_lookup, ← lastText?, last] at own
      cases own
      have single := usable_single (List.mem_filter.mp listed).2
      have located := FileTree.locate_join single (fits _ listed) leads (by rw [fileOf, found]; simp)
      exact ⟨parent, leads, located, found, FileTree.read_text located found⟩
    · exact absurd (List.mem_map.mpr ⟨_, planned, rfl⟩) (unwritten parent _ leads rfl)
  others place other := by
    rcases made.entry place with ⟨parent, file, content, leads, rfl, last, -⟩ | ⟨-, kept⟩
    · obtain ⟨name, rfl, own⟩ := last_text_of_file last
      exact absurd rfl (other parent name content leads own)
    · exact kept

theorem filter_split {α : Type} {p : α → Bool} {items done later : List α} {a : α}
    (split : items.filter p = done ++ a :: later) :
    ∃ before rest, items = before ++ a :: rest ∧ before.filter p = done ∧ p a = true := by
  obtain ⟨front, back, rfl, rfl, ends⟩ := List.filter_eq_append_iff.mp split
  obtain ⟨skipped, rest, rfl, none, holds, -⟩ := List.filter_eq_cons_iff.mp ends
  refine ⟨front ++ skipped, rest, by simp, ?_, holds⟩
  rw [List.filter_append, List.filter_eq_nil_iff.mpr none, List.append_nil]

/-- If all goes well, the paths of the usable declarations come back in their order, and just these have been written. If
not, either the directory could not be made and nothing has been written, or some usable declaration could not be written,
and just the usable ones before it have been. -/
theorem usable_declarations_are_written (tree : FileTree) (directory : Text) (declarations : List (Text × Text)) :
    (∀ name text, isUsable (name, text) = true ↔
      text ≠ [] ∧ name ≠ [] ∧ '/' ∉ name ∧ '\\' ∉ name ∧ name.head? ≠ some '.') ∧
    ∃ after result, writeDeclarations tree directory declarations = (after, result) ∧
      (∀ paths, result = .ok paths →
        paths = (declarations.filter isUsable).map (fun d => filePath directory d.1) ∧
        Holds directory declarations tree after) ∧
      (∀ e, result = .error e →
        ((tree.makeDirectories directory).2 = .error e ∧ Holds directory [] tree after) ∨
        ∃ before d later, declarations = before ++ d :: later ∧ isUsable d = true ∧
          after.write (filePath directory d.1) d.2 = .error e ∧ Holds directory before tree after) := by
  refine ⟨usable_iff, ?_⟩
  have folders := FileTree.make_directories_makes directory tree directory
  cases opened : tree.makeDirectories directory with
  | mk there outcome =>
    rw [opened] at folders
    cases outcome with
    | error e =>
      refine ⟨there, .error e, by simp only [writeDeclarations, opened], fun _ ok => (by cases ok), ?_⟩
      intro e' failed
      cases failed
      exact Or.inl ⟨rfl, makes_holds folders (by simp)⟩
    | ok done =>
      have single : ∀ d ∈ declarations.filter isUsable, '/' ∉ (fileOf d).1 :=
        fun d mem => usable_single (List.mem_filter.mp mem).2
      obtain ⟨done, rest, after, result, run, split, made, fits, ended⟩ := write_from_runs directory single there []
      refine ⟨after, result, by simp only [writeDeclarations, opened, run], ?_⟩
      rcases ended with ⟨rfl, rfl⟩ | ⟨d, later, e, rfl, failed, rfl⟩
      · rw [List.append_nil] at split
        subst split
        refine ⟨?_, fun _ failed => (by cases failed)⟩
        intro paths ok
        cases ok
        exact ⟨by simp, makes_holds (folders.trans made) fits⟩
      · refine ⟨fun _ ok => (by cases ok), ?_⟩
        intro e' error
        cases error
        obtain ⟨before, rest, whole, rfl, usable⟩ := filter_split split
        exact Or.inr ⟨before, d, rest, whole, usable, failed, makes_holds (folders.trans made) fits⟩

def drawerTree : FileTree :=
  FileTree.ofFiles ["work".toList]
    [("out/A.ts".toList, Text.Utf8.encode "old".toList), ("out/D.ts/x".toList, []), ("B.ts".toList, [66])]

/-- One name three times, the last time without a text, and names that are none for files. -/
def drawerDeclarations : List (Text × Text) :=
  [("A".toList, "one".toList), ("../B".toList, "two".toList), ("A".toList, "three".toList), (".B".toList, "four".toList),
    ("A".toList, []), ("C".toList, "five".toList)]

def jammedDeclarations : List (Text × Text) := drawerDeclarations ++ [("D".toList, "six".toList), ("E".toList, "seven".toList)]

theorem drawer_declarations_are_written :
    (∃ after, writeDeclarations drawerTree "out".toList drawerDeclarations =
        (after, .ok ["out/A.ts".toList, "out/A.ts".toList, "out/C.ts".toList]) ∧
      after.read "out/A.ts".toList = .ok "three".toList ∧ after.read "out/C.ts".toList = .ok "five".toList) ∧
    ∃ after, writeDeclarations drawerTree "out".toList jammedDeclarations = (after, .error .isDirectory) ∧
      ∃ before d later, jammedDeclarations = before ++ d :: later ∧ isUsable d = true ∧
        after.write (filePath "out".toList d.1) d.2 = .error .isDirectory ∧ Holds "out".toList before drawerTree after := by
  constructor
  · obtain ⟨-, after, result, ran, succeeded, -⟩ :=
      usable_declarations_are_written drawerTree "out".toList drawerDeclarations
    have ok : .ok ["out/A.ts".toList, "out/A.ts".toList, "out/C.ts".toList] = result := congrArg Prod.snd ran
    obtain ⟨-, holds⟩ := succeeded _ ok.symm
    obtain ⟨-, -, -, -, first⟩ := holds.written "A".toList "three".toList rfl
    obtain ⟨-, -, -, -, second⟩ := holds.written "C".toList "five".toList rfl
    exact ⟨after, by rw [ran, ok], first, second⟩
  · obtain ⟨-, after, result, ran, -, failed⟩ :=
      usable_declarations_are_written drawerTree "out".toList jammedDeclarations
    have error : .error .isDirectory = result := congrArg Prod.snd ran
    have opened : (drawerTree.makeDirectories "out".toList).2 = .ok () := rfl
    refine ⟨after, by rw [ran, error], (failed _ error.symm).resolve_left ?_⟩
    rintro ⟨unopened, -⟩
    rw [opened] at unopened
    cases unopened

end Sink

end ApiTypes
