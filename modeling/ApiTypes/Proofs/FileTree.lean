import ApiTypes.FileTree
import ApiTypes.Proofs.Ordered
import ApiTypes.Proofs.Text
/-!
Trees of files: where a path leads, and what becomes of a tree into which directories and files are put. Nothing is ever
taken away, so a path that has led to a directory goes on to do so, and of the files that are put under one name the last
one stays.
-/
namespace ApiTypes

theorem bind_ok {ε α β : Type} {x : Except ε α} {f : α → Except ε β} {b : β} (ran : x >>= f = .ok b) :
    ∃ a, x = .ok a ∧ f a = .ok b := by
  cases x with
  | error e => simp [bind, Except.bind] at ran
  | ok a => exact ⟨a, rfl, ran⟩

theorem map_error_ok {ε ε' α : Type} {x : Except ε α} {f : ε → ε'} {a : α} (ran : x.mapError f = .ok a) :
    x = .ok a := by
  cases x with
  | error e => simp [Except.mapError] at ran
  | ok b => exact congrArg Except.ok (Except.ok.inj ran)

namespace FileTree

/-! ### Where paths lead -/

theorem step_name {tree : FileTree} {here place : Place} {name : Text} (isName : isDots name = false)
    (went : tree.step here name = .ok place) : place = here ++ [name] := by
  simp only [isDots, Bool.or_eq_false_iff] at isName
  simp only [step, isName, Bool.or_self, Bool.false_eq_true, if_false] at went
  split at went
  · simp at went
  · split at went
    · simp at went
    · split at went
      · simp at went
      · exact (Except.ok.inj went).symm

theorem steps_names {tree : FileTree} {here place : Place} {names : List Text} (isNames : ∀ name ∈ names, isDots name = false)
    (went : names.foldlM tree.step here = .ok place) : place = here ++ names := by
  induction names generalizing here with
  | nil =>
    rw [List.append_nil]
    exact (Except.ok.inj went).symm
  | cons name names ih =>
    rw [List.foldlM_cons] at went
    obtain ⟨next, first, later⟩ := bind_ok went
    rw [ih (fun n mem => isNames n (by simp [mem])) later, step_name (isNames name (by simp)) first, List.append_assoc,
      List.singleton_append]

theorem locate_steps {tree : FileTree} {path : Text} {place : Place} (found : tree.locate path = .ok place) :
    (Text.splitAt '/' path).foldlM tree.step (tree.start path) = .ok place := by
  obtain ⟨-, -, went⟩ := bind_ok found
  exact went

theorem read_located {tree : FileTree} {path t : Text} (read : tree.read path = .ok t) :
    ∃ place octets, tree.locate path = .ok place ∧ tree.find? place = some (.file octets) ∧
      Text.Utf8.decode? octets = some t := by
  obtain ⟨octets, got, text⟩ := bind_ok read
  obtain ⟨place, located, entry⟩ := bind_ok got
  split at entry
  · rename_i octets found
    cases entry
    split at text
    · rename_i decoded
      cases text
      exact ⟨place, octets, located, found, decoded⟩
    · simp at text
  · simp at entry
  · simp at entry

/-- The directory that a path leads to. The empty path leads to the one that relative paths start from. -/
def Leads (tree : FileTree) (path : Text) (place : Place) : Prop :=
  (if path = [] then place = tree.home else tree.locate path = .ok place) ∧ tree.isDirectoryAt place = true

theorem Leads.unique {tree : FileTree} {path : Text} {place other : Place} (leads : tree.Leads path place)
    (also : tree.Leads path other) : place = other := by
  have first := leads.1
  have second := also.1
  split at first
  · rename_i empty
    rw [if_pos empty] at second
    exact first.trans second.symm
  · rename_i nonempty
    rw [if_neg nonempty, first] at second
    exact Except.ok.inj second

/-! ### Entries -/

theorem find_put {place : Place} (inside : place ≠ []) (tree : FileTree) (entry : Entry) (other : Place) :
    (tree.put place entry).find? other = if place = other then some entry else tree.find? other := by
  by_cases root : other = []
  · subst root
    simp [find?, inside]
  · have nonempty : other.isEmpty = false := by simpa using root
    simp only [find?, nonempty, Bool.false_eq_true, if_false, put, Ordered.get_put, beq_iff_eq]

theorem find_free {tree : FileTree} {place : Place} (free : tree.find? place = none) : place ≠ [] := by
  rintro rfl
  simp [find?] at free

structure Keeps (before after : FileTree) : Prop where
  home : after.home = before.home
  directory : ∀ place, before.isDirectoryAt place = true → after.isDirectoryAt place = true
  present : ∀ place, before.find? place ≠ none → after.find? place ≠ none

theorem Keeps.refl (tree : FileTree) : Keeps tree tree := ⟨rfl, fun _ => id, fun _ => id⟩

theorem Keeps.trans {first second third : FileTree} (one : Keeps first second) (two : Keeps second third) :
    Keeps first third where
  home := two.home.trans one.home
  directory place isDirectory := two.directory place (one.directory place isDirectory)
  present place there := two.present place (one.present place there)

theorem keeps_put {tree : FileTree} {place : Place} {entry : Entry} (inside : place ≠ [])
    (kept : tree.isDirectoryAt place = true → entry = .directory) : Keeps tree (tree.put place entry) where
  home := rfl
  directory other isDirectory := by
    rw [isDirectoryAt, find_put inside]
    split
    · rename_i same
      subst same
      rw [kept isDirectory]
      rfl
    · exact isDirectory
  present other there := by
    rw [find_put inside]
    split
    · simp
    · exact there

theorem Keeps.step {before after : FileTree} (keeps : Keeps before after) {here place : Place} {name : Text}
    (went : before.step here name = .ok place) : after.step here name = .ok place := by
  unfold FileTree.step at went ⊢
  split at went
  · simp at went
  · rename_i isDirectory
    rw [if_neg (by simpa using keeps.directory here (by simpa using isDirectory))]
    -- Of the checks that follow only the last one looks at the tree.
    split at went
    · rename_i stays
      rwa [if_pos stays]
    · rename_i moves
      rw [if_neg moves]
      split at went
      · rename_i up
        rwa [if_pos up]
      · rename_i down
        rw [if_neg down]
        split at went
        · simp at went
        · rename_i fits
          rw [if_neg fits]
          split at went
          · simp at went
          · rename_i there
            rw [if_neg (by simpa using keeps.present (here ++ [name]) (by simpa using there))]
            exact went

theorem Keeps.steps {before after : FileTree} (keeps : Keeps before after) {here place : Place} {names : List Text}
    (went : names.foldlM before.step here = .ok place) : names.foldlM after.step here = .ok place := by
  induction names generalizing here with
  | nil => exact went
  | cons name names ih =>
    rw [List.foldlM_cons] at went ⊢
    obtain ⟨next, first, later⟩ := bind_ok went
    rw [keeps.step first]
    exact ih later

theorem Keeps.leads {before after : FileTree} (keeps : Keeps before after) {path : Text} {place : Place}
    (leads : before.Leads path place) : after.Leads path place := by
  obtain ⟨reached, isDirectory⟩ := leads
  refine ⟨?_, keeps.directory place isDirectory⟩
  split at reached
  · rename_i empty
    rw [if_pos empty, keeps.home]
    exact reached
  · rename_i nonempty
    rw [if_neg nonempty]
    obtain ⟨checked, valid, went⟩ := bind_ok reached
    have start : after.start path = before.start path := by rw [start, start, keeps.home]
    rw [locate, valid, start]
    exact keeps.steps went

/-! ### What is put into a tree -/

/-- What can become of a tree whose output goes to `directory`, one entry after the other. Directories are made where nothing
stood. The files are listed with their names and contents; each takes the place of an earlier one, but not of a directory. -/
inductive Makes (directory : Text) : FileTree → List (Text × Text) → FileTree → Prop
  | nothing (tree : FileTree) : Makes directory tree [] tree
  | folder {tree after : FileTree} {place : Place} {files : List (Text × Text)} (free : tree.find? place = none)
      (later : Makes directory (tree.put place .directory) files after) : Makes directory tree files after
  | file {tree after : FileTree} {parent : Place} {name content : Text} {files : List (Text × Text)}
      (leads : tree.Leads directory parent) (unused : tree.isDirectoryAt (parent ++ [name]) = false)
      (later : Makes directory (tree.put (parent ++ [name]) (.file (Text.Utf8.encode content))) files after) :
      Makes directory tree ((name, content) :: files) after

theorem Makes.trans {directory : Text} {first second third : FileTree} {files more : List (Text × Text)}
    (one : Makes directory first files second) (two : Makes directory second more third) :
    Makes directory first (files ++ more) third := by
  induction one with
  | nothing => exact two
  | folder free _ ih => exact .folder free (ih two)
  | file leads unused _ ih => exact .file leads unused (ih two)

theorem keeps_folder {tree : FileTree} {place : Place} (free : tree.find? place = none) :
    Keeps tree (tree.put place .directory) := keeps_put (find_free free) fun _ => rfl

theorem keeps_file {tree : FileTree} {parent : Place} {name : Text} (octets : List Nat)
    (unused : tree.isDirectoryAt (parent ++ [name]) = false) : Keeps tree (tree.put (parent ++ [name]) (.file octets)) := by
  refine keeps_put (by simp) ?_
  intro isDirectory
  rw [unused] at isDirectory
  simp at isDirectory

theorem Makes.keeps {directory : Text} {tree after : FileTree} {files : List (Text × Text)}
    (makes : Makes directory tree files after) : Keeps tree after := by
  induction makes with
  | nothing tree => exact Keeps.refl tree
  | folder free _ ih => exact (keeps_folder free).trans ih
  | file _ unused _ ih => exact (keeps_file _ unused).trans ih

theorem Makes.leads {directory : Text} {tree after : FileTree} {files : List (Text × Text)}
    (makes : Makes directory tree files after) (some : files ≠ []) : ∃ parent, after.Leads directory parent := by
  induction makes with
  | nothing => exact absurd rfl some
  | folder _ _ ih => exact ih some
  | file leads unused later _ => exact ⟨_, ((keeps_file _ unused).trans later.keeps).leads leads⟩

/-- At every place there is in the end the last file that was put there; or no file was put there, and the entry is what
it was before, if it is not a new directory. -/
theorem Makes.entry {directory : Text} {tree after : FileTree} {files : List (Text × Text)}
    (makes : Makes directory tree files after) (place : Place) :
    (∃ parent name content, after.Leads directory parent ∧ place = parent ++ [name] ∧
      Ordered.get? name files.reverse = some content ∧ after.find? place = some (.file (Text.Utf8.encode content))) ∨
    ((∀ parent name, after.Leads directory parent → place = parent ++ [name] → name ∉ Ordered.keys files) ∧
      (after.find? place = tree.find? place ∨ tree.find? place = none ∧ after.find? place = some .directory)) := by
  induction makes with
  | nothing => exact Or.inr ⟨by simp [Ordered.keys], Or.inl rfl⟩
  | @folder tree after new files free later ih =>
    rcases ih with written | ⟨untouched, kept⟩
    · exact Or.inl written
    · rw [find_put (find_free free)] at kept
      refine Or.inr ⟨untouched, ?_⟩
      by_cases same : new = place
      · subst same
        rw [if_pos rfl] at kept
        exact Or.inr ⟨free, kept.resolve_right (by simp)⟩
      · rwa [if_neg same] at kept
  | @file tree after parent name content files leads unused later ih =>
    rw [List.reverse_cons]
    rcases ih with ⟨parent', name', content', leads', there, last, found⟩ | ⟨untouched, kept⟩
    · refine Or.inl ⟨parent', name', content', leads', there, ?_, found⟩
      rw [Ordered.get_append, last]
      rfl
    · have leadsLater : after.Leads directory parent := ((keeps_file _ unused).trans later.keeps).leads leads
      rw [find_put (by simp)] at kept
      by_cases same : parent ++ [name] = place
      · have new : name ∉ Ordered.keys files.reverse := by
          have absent := untouched parent name leadsLater same.symm
          simpa [Ordered.keys] using absent
        rw [if_pos same] at kept
        refine Or.inl ⟨parent, name, content, leadsLater, same.symm, ?_, kept.resolve_right (by simp)⟩
        rw [Ordered.get_append, Ordered.get_absent new]
        simp [Ordered.get?]
      · rw [if_neg same] at kept
        refine Or.inr ⟨?_, kept⟩
        intro parent' name' leads' there mem
        rcases List.mem_cons.mp mem with own | more
        · subst own
          exact same (by rw [there, leads'.unique leadsLater])
        · exact untouched parent' name' leads' there more

/-! ### Making directories -/

theorem make_directory_makes {tree made : FileTree} {path : Text} (ran : tree.makeDirectory path = .ok made)
    (directory : Text) : Makes directory tree [] made := by
  obtain ⟨⟨parent, name⟩, -, put⟩ := bind_ok ran
  simp only at put
  split at put
  · simp at put
  · split at put
    · simp at put
    · split at put
      · simp at put
      · rename_i free
        cases put
        exact .folder (by simpa using free) (.nothing _)

theorem ensure_directory_makes {tree made : FileTree} {path : Text} (ran : tree.ensureDirectory path = .ok made)
    (directory : Text) : Makes directory tree [] made := by
  unfold ensureDirectory at ran
  split at ran
  · rename_i made' new
    cases ran
    exact make_directory_makes new directory
  · split at ran
    · cases ran
      exact .nothing _
    · simp at ran

/- A directory that is made after those above it, if these could be made. -/
theorem ensure_below_makes {directory : Text} {tree : FileTree} (path : Text) (above : FileTree × Except OsError Unit) :
    Makes directory tree [] above.1 → Makes directory tree []
      (match above with
        | (above, .error e) => (above, .error e)
        | (above, .ok ()) =>
          match above.ensureDirectory path with
          | .ok made => (made, .ok ())
          | .error e => (above, .error e) : FileTree × Except OsError Unit).1 := by
  intro made
  split
  · exact made
  · split
    · rename_i last
      exact made.trans (ensure_directory_makes last directory)
    · exact made

theorem make_above_makes (directory lead : Text) (tree : FileTree) (ups : List Text) :
    Makes directory tree [] (makeAbove lead tree ups).1 := by
  induction ups with
  | nil => exact .nothing tree
  | cons name ups ih =>
    simp only [makeAbove]
    split
    · rename_i ran
      exact ensure_directory_makes ran directory
    · exact ensure_below_makes _ _ ih
    · exact .nothing tree

theorem make_directories_makes (directory : Text) (tree : FileTree) (path : Text) :
    Makes directory tree [] (tree.makeDirectories path).1 := by
  unfold makeDirectories
  split
  · exact .nothing tree
  · split
    · rename_i ran
      exact ensure_directory_makes ran directory
    · exact ensure_below_makes path _ (make_above_makes directory _ tree _)
    · exact .nothing tree

/-! ### Writing into a directory -/

theorem check_path_lead {t u : Text} (checked : checkPath (t ++ u) = .ok ()) (nonempty : t ≠ []) :
    checkPath t = .ok () := by
  unfold checkPath at checked ⊢
  split at checked
  · simp at checked
  · rename_i clean
    split at checked
    · simp at checked
    · split at checked
      · simp at checked
      · rename_i short
        have cleanLead : ¬ t.contains '\x00' = true := by
          simp only [List.contains_eq_mem, List.mem_append, decide_eq_true_eq, not_or] at clean ⊢
          exact clean.1
        have shortLead : ¬ maxPath ≤ Text.Utf8.size t := by
          simp only [Text.Utf8.size, Text.Utf8.encode, List.flatMap_append, List.length_append] at short ⊢
          omega
        rw [if_neg cleanLead, if_neg (by simpa using nonempty), if_neg shortLead]

theorem split_join {directory name : Text} (nonempty : directory ≠ []) (single : '/' ∉ name) :
    ∃ names, Text.splitAt '/' (joinName directory name) = names ++ [name] ∧
      (Text.splitAt '/' directory = names ∨ Text.splitAt '/' directory = names ++ [[]]) := by
  by_cases slash : directory.getLast? = some '/'
  · obtain ⟨front, rfl⟩ := List.getLast?_eq_some_iff.mp slash
    have joined : joinName (front ++ ['/']) name = front ++ '/' :: name := by simp [joinName]
    refine ⟨Text.splitAt '/' front, ?_, Or.inr ?_⟩
    · rw [joined, Text.split_at_mark, Text.split_at_single single]
    · rw [Text.split_at_mark]
      rfl
  · have joined : joinName directory name = directory ++ '/' :: name := by simp [joinName, nonempty, slash]
    refine ⟨Text.splitAt '/' directory, ?_, Or.inl rfl⟩
    rw [joined, Text.split_at_mark, Text.split_at_single single]

theorem join_name_lead (directory name : Text) : ∃ rest, joinName directory name = directory ++ rest := by
  unfold joinName
  split
  · exact ⟨name, rfl⟩
  · exact ⟨'/' :: name, rfl⟩

theorem locate_parent_join {tree : FileTree} {directory name last : Text} {parent : Place} (single : '/' ∉ name)
    (found : tree.locateParent (joinName directory name) = .ok (parent, last)) :
    last = name ∧ tree.Leads directory parent := by
  obtain ⟨done, checked, rest⟩ := bind_ok found
  obtain ⟨there, went, kept⟩ := bind_ok rest
  split at kept
  · simp at kept
  · rename_i isDirectory
    simp only [Bool.not_eq_true', Bool.not_eq_false] at isDirectory
    simp only [Except.ok.injEq, Prod.mk.injEq] at kept
    obtain ⟨rfl, rfl⟩ := kept
    by_cases empty : directory = []
    · subst empty
      have joined : joinName [] name = name := rfl
      have atHome : tree.start name = tree.home := by
        rw [start, hasRoot, if_neg]
        intro root
        exact single (List.mem_of_mem_head? (by simpa using root))
      rw [joined, Text.split_at_single single] at went ⊢
      refine ⟨rfl, ?_, isDirectory⟩
      rw [if_pos rfl, ← atHome]
      exact (Except.ok.inj went).symm
    · obtain ⟨names, split, own⟩ := split_join empty single
      obtain ⟨more, lead⟩ := join_name_lead directory name
      have sameStart : tree.start (joinName directory name) = tree.start directory := by
        cases directory with
        | nil => exact absurd rfl empty
        | cons c directory =>
          rw [lead]
          rfl
      have valid : checkPath directory = .ok () := check_path_lead (lead ▸ checked) empty
      rw [split, sameStart, List.dropLast_concat] at went
      refine ⟨by rw [split]; simp, ?_, isDirectory⟩
      rw [if_neg empty, locate, valid]
      change (Text.splitAt '/' directory).foldlM tree.step (tree.start directory) = .ok there
      rcases own with same | same
      · rw [same]
        exact went
      · have stays : tree.step there [] = .ok there := by simp [step, isDirectory]
        rw [same, List.foldlM_append, went]
        change (tree.step there [] >>= fun place => pure place) = .ok there
        rw [stays]
        rfl

theorem write_makes {tree after : FileTree} {directory name content : Text} (single : '/' ∉ name)
    (ran : tree.write (joinName directory name) content = .ok after) : Makes directory tree [(name, content)] after := by
  obtain ⟨⟨parent, last⟩, found, put⟩ := bind_ok ran
  obtain ⟨rfl, leads⟩ := locate_parent_join single found
  simp only at put
  split at put
  · simp at put
  · split at put
    · simp at put
    · split at put
      · simp at put
      · rename_i unused
        cases put
        exact .file leads (by simpa using unused) (.nothing _)

end FileTree

end ApiTypes
