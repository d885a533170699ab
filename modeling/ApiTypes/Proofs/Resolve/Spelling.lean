import Mathlib.Data.List.Dedup
import Mathlib.Data.List.Perm.Subperm
import Mathlib.Data.List.Permutation
import ApiTypes.Proofs.FileTree
import ApiTypes.Proofs.Resolve.Faults
import ApiTypes.Proofs.Resolve.ReferenceGraph
import ApiTypes.Proofs.Url.Files
/-!
Which references are open at a moment of a run that starts from a file. They are told apart by the URLs of their documents.
Where paths are spelled plainly, with names and dots, a file has one URL only, so that the open references are told apart by
the files that they lead to, and there are never more of them than there are places that references designate.
-/
namespace ApiTypes

/-! ### Files -/

namespace FileTree

/- A path that starts at the root and goes on by names leads to where the names say. -/
theorem locate_names {tree : FileTree} {names : List Text} {place : Place} (nonempty : names ≠ [])
    (slash : ∀ name ∈ names, '/' ∉ name) (isNames : ∀ name ∈ names, isDots name = false)
    (found : tree.locate (Url.fromRoot names) = .ok place) : place = names := by
  have went := locate_steps found
  have atRoot : tree.start (Url.fromRoot names) = [] := by
    cases names with
    | nil => exact absurd rfl nonempty
    | cons name rest => rfl
  have stays : tree.step [] [] = .ok [] := rfl
  rw [Url.from_root_split slash, atRoot, List.foldlM_cons, stays] at went
  exact steps_names isNames went

/- A path that ends in a slash leads to a directory. -/
theorem locate_directory {tree : FileTree} {names : List Text} {place : Place} (slash : ∀ name ∈ names, '/' ∉ name)
    (found : tree.locate (Url.fromRoot (names ++ [[]])) = .ok place) : tree.isDirectoryAt place = true := by
  have went := locate_steps found
  have within : ∀ name ∈ names ++ [[]], '/' ∉ name :=
    List.forall_mem_append.mpr ⟨slash, List.forall_mem_singleton.mpr (by simp)⟩
  rw [Url.from_root_split within, ← List.cons_append, List.foldlM_append] at went
  obtain ⟨here, -, last⟩ := bind_ok went
  obtain ⟨there, stepped, same⟩ := bind_ok last
  cases same
  unfold step at stepped
  split at stepped
  · simp at stepped
  · rename_i isDirectory
    cases stepped
    simpa using isDirectory

end FileTree

namespace World

theorem read_document_located {world : World} {path : Text} {doc : Json} (read : world.readDocument path = .ok doc) :
    ∃ place octets, world.files.locate path = .ok place ∧ world.files.find? place = some (.file octets) := by
  obtain ⟨content, got, -⟩ := bind_ok read
  obtain ⟨place, octets, located, found, -⟩ := FileTree.read_located (map_error_ok got)
  exact ⟨place, octets, located, found⟩

theorem load_file_at {world : World} {path target : Text} (named : (Url.fileAt path).filePath? = some (Text.Utf8.encode target)) :
    world.load (Url.fileAt path) = world.readDocument target := by
  have isFile : ((Url.fileAt path).scheme == "file".toList) = true := rfl
  rw [load, if_pos isFile, named]
  simp only [readDocumentAt, Text.Utf8.decode_encode]

theorem read_json {world : World} {path t : Text} {place : Place} {doc : Json} (located : world.files.locate path = .ok place)
    (entry : world.files.find? place = some (.file (Text.Utf8.encode t))) (named : isJsonPath path = true)
    (parsed : Json.read? t = some doc) : world.readDocument path = .ok doc := by
  have octets : world.files.readOctets path = .ok (Text.Utf8.encode t) := by
    rw [FileTree.readOctets, located]
    simp only [bind, Except.bind, entry]
  have content : world.files.read path = .ok t := by
    rw [FileTree.read, octets]
    simp only [bind, Except.bind, Text.Utf8.decode_encode]
  rw [readDocument, content]
  change readText path t = .ok doc
  rw [readText, if_pos named, parsed]

/-- The file that the document at a URL is read from, in a run that starts from a path. What is at that path is taken as
read under its URL. -/
def fileRead (world : World) (p : Text) (u : Url) : Option Place :=
  if u.text = (world.urlOfFile p).text then (world.files.locate p).toOption
  else if u.scheme == "file".toList then do
    let octets ← u.filePath?
    let path ← Text.Utf8.decode? octets
    (world.files.locate path).toOption
  else none

theorem file_read_start {world : World} {p : Text} {place : Place} (located : world.files.locate p = .ok place) :
    world.fileRead p (Url.ofFile place) = some place := by
  have own : world.urlOfFile p = Url.ofFile place := by rw [urlOfFile, located]
  rw [fileRead, own, if_pos rfl, located]
  rfl

theorem file_read_other {world : World} {p path target : Text} {place : Place}
    (other : (Url.fileAt path).text ≠ (world.urlOfFile p).text)
    (named : (Url.fileAt path).filePath? = some (Text.Utf8.encode target))
    (located : world.files.locate target = .ok place) : world.fileRead p (Url.fileAt path) = some place := by
  have isFile : ((Url.fileAt path).scheme == "file".toList) = true := rfl
  rw [fileRead, if_neg other, if_pos isFile, named]
  simp only [bind, Option.bind, Text.Utf8.decode_encode, located]
  rfl

end World

namespace Resolve

open Url (fileAt ofFile pathOf fromRoot directoryOf isFileName isPlainPath)

/-! ### Plain spelling -/

def fileOf (world : World) (p : Text) (scope : Scope) : Option ApiTypes.Place := scope.base.bind (world.fileRead p)

def scopesIn (world : World) (root : Scope) : List Scope :=
  root :: world.files.entries.filterMap fun entry =>
    (world.readDocument (fromRoot entry.1)).toOption.map fun doc => ⟨doc, some (ofFile entry.1)⟩

def targetUrl? (scope : Scope) (ref : Text) : Option Url :=
  match (Reference.ofText ref).kind with
  | .inside => scope.base
  | _ => (documentUrl scope ref (.ofText ref)).toOption

def designations (world : World) (p : Text) (root : Scope) : List (Option ApiTypes.Place × Text) :=
  (scopesIn world root).flatMap fun scope => (refsIn scope.root).map fun ref =>
    ((targetUrl? scope ref).bind (world.fileRead p), (Reference.ofText ref).fragment)

/-- The path of the file to start from is one of names, and every reference to a document is spelled with names and dots. -/
structure PlainlySpelled (world : World) (p : Text) (root : Scope) : Prop where
  names : ∀ place, world.files.locate p = .ok place → ∀ name ∈ place, isFileName name = true
  references : ∀ scope ∈ scopesIn world root, ∀ ref ∈ refsIn scope.root,
    (Reference.ofText ref).document = [] ∨ isPlainPath (Reference.ofText ref).document = true

structure Sited (world : World) (p : Text) (root : Scope) (names : List Text) (doc : Json) : Prop where
  nonempty : names ≠ []
  isNames : ∀ name ∈ names, isFileName name = true
  read : world.fileRead p (ofFile names) = some names
  listed : ⟨doc, some (ofFile names)⟩ ∈ scopesIn world root

structure AllSited (world : World) (p : Text) (root : Scope) (s : Session) : Prop where
  all : ∀ u doc, documentOf s u = some doc → ∃ names, u.text = (ofFile names).text ∧ Sited world p root names doc
  own : documentOf s (world.urlOfFile p) ≠ none

variable {world : World} {p : Text} {root : Scope}

theorem file_names_parts {names : List Text} (isNames : ∀ name ∈ names, isFileName name = true) :
    (∀ name ∈ names, FileTree.isDots name = false) ∧ (∀ name ∈ names, '/' ∉ name) ∧ (∀ name ∈ names, ':' ∉ name) ∧
      ∀ name ∈ names, '|' ∉ name := by
  have parts := fun name mem => Url.file_name_parts (isNames name mem)
  exact ⟨fun name mem => (parts name mem).1, fun name mem => (parts name mem).2.1, fun name mem => (parts name mem).2.2.1,
    fun name mem => (parts name mem).2.2.2⟩

theorem load_names {names : List Text} (nonempty : names ≠ []) (isNames : ∀ name ∈ names, isFileName name = true) :
    world.load (ofFile names) = world.readDocument (fromRoot names) := by
  obtain ⟨-, -, colon, bar⟩ := file_names_parts isNames
  rw [Url.of_file_at nonempty, World.load_file_at (Url.file_path_of_names nonempty colon bar)]

/- A document that is loaded from the URL of a file is in the file tree. -/
theorem loaded_sited {names : List Text} {doc : Json} (nonempty : names ≠ [])
    (isNames : ∀ name ∈ names, isFileName name = true) (other : (ofFile names).text ≠ (world.urlOfFile p).text)
    (loaded : world.load (ofFile names) = .ok doc) : Sited world p root names doc := by
  obtain ⟨notDots, slash, colon, bar⟩ := file_names_parts isNames
  have named := Url.file_path_of_names nonempty colon bar
  have read : world.readDocument (fromRoot names) = .ok doc := by rw [← loaded, load_names nonempty isNames]
  obtain ⟨place, octets, located, entry⟩ := World.read_document_located read
  have same := FileTree.locate_names nonempty slash notDots located
  subst same
  refine ⟨nonempty, isNames, ?_, ?_⟩
  · rw [Url.of_file_at nonempty] at other ⊢
    exact World.file_read_other other named located
  · have inTree : (place, Entry.file octets) ∈ world.files.entries := by
      rw [FileTree.find?, if_neg (by simpa using nonempty)] at entry
      exact Ordered.get_mem entry
    apply List.mem_cons_of_mem
    rw [List.mem_filterMap]
    exact ⟨_, inTree, by simp [read, Except.toOption]⟩

/- Nothing is loaded from the URL of a directory. -/
theorem directory_not_loaded {names : List Text} {doc : Json} (isNames : ∀ name ∈ names, isFileName name = true) :
    world.load (fileAt (directoryOf names)) ≠ .ok doc := by
  intro loaded
  obtain ⟨-, slash, colon, bar⟩ := file_names_parts isNames
  have more : ∀ c, (∀ name ∈ names, c ∉ name) → ∀ name ∈ names ++ [[]], c ∉ name := fun c absent =>
    List.forall_mem_append.mpr ⟨absent, List.forall_mem_singleton.mpr (by simp)⟩
  have named := Url.file_path_of_names (by simp) (more ':' colon) (more '|' bar)
  rw [Url.directory_of_path, World.load_file_at named] at loaded
  obtain ⟨place, octets, located, entry⟩ := World.read_document_located loaded
  have isDirectory := FileTree.locate_directory slash located
  rw [FileTree.isDirectoryAt, entry] at isDirectory
  simp at isDirectory

theorem start_sited {opened : Session} (opening : openSource world.environment (.path p) = (.ok root, opened))
    (names : ∀ place, world.files.locate p = .ok place → ∀ name ∈ place, isFileName name = true) :
    AllSited world p root opened ∧ ∃ names doc, root = ⟨doc, some (ofFile names)⟩ ∧ Sited world p root names doc := by
  rcases open_source_cases opening with ⟨v, source, -⟩ | ⟨u, doc, isRoot, isOpened, ⟨p', source, url, read⟩ | ⟨raw, source, -⟩⟩
  · simp at source
  · cases source
    obtain ⟨place, octets, located, entry⟩ := World.read_document_located read
    have own : u = ofFile place := by
      rw [← url]
      change world.urlOfFile p = ofFile place
      rw [World.urlOfFile, located]
    subst own
    have nonempty : place ≠ [] := by
      rintro rfl
      simp [FileTree.find?] at entry
    have sited : Sited world p root place doc :=
      ⟨nonempty, names place located, World.file_read_start located, by simp [scopesIn, isRoot]⟩
    refine ⟨⟨?_, ?_⟩, place, doc, isRoot, sited⟩
    · intro u' doc' has
      rw [isOpened] at has
      obtain ⟨text, rfl⟩ := one_read has
      exact ⟨place, text.symm, sited⟩
    · rw [isOpened, document_of_cons, if_pos]
      · simp
      · rw [World.urlOfFile, located]
  · simp at source

/- The URL of a directory is not that of a file. -/
theorem directory_not_sited {names names' : List Text} {doc : Json} (sited : Sited world p root names' doc) :
    (fileAt (directoryOf names)).text ≠ (ofFile names').text := by
  intro same
  rw [Url.directory_of_path, Url.of_file_at sited.nonempty] at same
  have list := Url.file_at_injective (by simp) sited.nonempty same
  have empty := sited.isNames [] (by simp [← list])
  revert empty
  decide

theorem fetched_sited {u : Url} {names : List Text} {doc : Json} {s s' : Session} (all : AllSited world p root s)
    (isNames : ∀ name ∈ names, isFileName name = true)
    (url : u = fileAt (directoryOf names) ∨ names ≠ [] ∧ u = ofFile names)
    (fetched : loadOnce world.load u s = (.ok doc, s')) :
    AllSited world p root s' ∧ u = ofFile names ∧ Sited world p root names doc := by
  rcases load_once_cases world.load u s with ⟨doc', has, eq⟩ | ⟨doc', new, loaded, eq⟩ | ⟨e, -, -, eq⟩
  · rw [eq] at fetched
    cases fetched
    obtain ⟨names', text, sited⟩ := all.all u doc has
    rcases url with rfl | ⟨nonempty, rfl⟩
    · exact absurd text (directory_not_sited sited)
    · rw [Url.of_file_at nonempty, Url.of_file_at sited.nonempty] at text
      have same := Url.file_at_injective nonempty sited.nonempty text
      subst same
      exact ⟨all, rfl, sited⟩
  · rw [eq] at fetched
    cases fetched
    rcases url with rfl | ⟨nonempty, rfl⟩
    · exact absurd loaded (directory_not_loaded isNames)
    · have other : (ofFile names).text ≠ (world.urlOfFile p).text := by
        intro same
        apply all.own
        rw [documentOf, ← same]
        exact new
      have sited : Sited world p root names doc := loaded_sited nonempty isNames other loaded
      refine ⟨⟨?_, ?_⟩, rfl, sited⟩
      · intro u' doc' has
        rw [document_of_cons] at has
        split at has
        · rename_i text
          cases has
          exact ⟨names, text.symm, sited⟩
        · exact all.all u' doc' has
      · rw [document_of_cons, if_neg other]
        exact all.own
  · rw [eq] at fetched
    simp at fetched

theorem plain_target (plain : PlainlySpelled world p root) {names : List Text} {doc : Json} {ref : Text} {target : Scope}
    {s s' : Session} (sited : Sited world p root names doc) (mem : ref ∈ refsIn doc) (all : AllSited world p root s)
    (found : targetScope (loadOnce world.load) ⟨doc, some (ofFile names)⟩ ref (.ofText ref) s = (.ok target, s')) :
    AllSited world p root s' ∧
      ∃ names' doc', target = ⟨doc', some (ofFile names')⟩ ∧ Sited world p root names' doc' := by
  rcases plain.references _ sited.listed ref mem with empty | path
  · have kind : (Reference.ofText ref).kind = .inside := by simp [Reference.kind, empty]
    simp only [targetScope, kind] at found
    cases found
    exact ⟨all, names, doc, rfl, sited⟩
  · have kind := Url.plain_path_relative path
    obtain ⟨u, doc', url, fetched, rfl⟩ := target_scope_outside (by simp [kind]) found
    obtain ⟨names', isNames', joined⟩ := Url.join_plain_path sited.nonempty sited.isNames path
    have isUrl : (ofFile names).join? (Reference.ofText ref).document = some u := by
      simp only [documentUrl, kind] at url
      cases read : (ofFile names).join? (Reference.ofText ref).document with
      | none => simp [read] at url
      | some u' =>
        simp only [read, Option.elim_some, Except.ok.injEq] at url
        rw [url]
    rw [isUrl, Option.some.injEq, Option.some.injEq] at joined
    obtain ⟨all', rfl, sited'⟩ := fetched_sited all isNames' joined fetched
    exact ⟨all', names', doc', rfl, sited'⟩

/-! ### Open references -/

/-- At a moment, the open references are told apart by what `view` shows of their documents and by their fragments: no two
are the same, and of the references that are met just those are cut that come back to one of them. -/
structure ToldApart {α : Type} (fetch : Fetch) (view : Scope → α) (opens : List Vertex) (m : Moment Session) : Prop where
  distinct : (opens.map fun a => (view a.scope, a.fragment)).Nodup
  returns : ∀ ref target s', ref? m.value = some ref →
    targetScope fetch m.scope ref (.ofText ref) m.memory = (.ok target, s') →
    (view target, (Reference.ofText ref).fragment) ∈ opens.map (fun a => (view a.scope, a.fragment)) →
    expand fetch m.scope m.stack m.value m.memory = some (.ok (marker ref), s')
  elsewhere : ∀ ref target s', ref? m.value = some ref →
    targetScope fetch m.scope ref (.ofText ref) m.memory = (.ok target, s') →
    (view target, (Reference.ofText ref).fragment) ∉ opens.map (fun a => (view a.scope, a.fragment)) →
    entered target m.stack ref (.ofText ref) ≠ .ok none

/-- A value is met in a document of which `good` holds, while references are open of which `known` holds. -/
structure Underway (good : Scope → Prop) (known : Vertex → Prop) (scope : Scope) (stack : List Key) (v : Json) : Prop where
  isGood : good scope
  inside : refsIn v ⊆ refsIn scope.root
  nodup : stack.Nodup
  opens : ∃ opens : List Vertex, stack = opens.map Vertex.identity ∧ ∀ a ∈ opens, known a

theorem underway_preserved {load : Url → Except LoadError Json} {good : Scope → Prop} {known : Vertex → Prop}
    {held : Session → Prop}
    (goes : ∀ scope ref target s s', good scope → ref ∈ refsIn scope.root → held s →
      targetScope (loadOnce load) scope ref (.ofText ref) s = (.ok target, s') →
      held s' ∧ good target ∧ known ⟨target, (Reference.ofText ref).fragment⟩) :
    Preserved (loadOnce load) (Underway good known) held fun _ => True := by
  constructor
  case both => exact fun _ _ => trivial
  case stops => exact fun _ _ _ _ _ _ _ _ _ _ _ => trivial
  case item =>
    rintro scope stack items w ⟨isGood, inside, nodup, opens⟩ mem
    rw [refsIn] at inside
    exact ⟨isGood, List.Subset.trans (refs_of_item mem) inside, nodup, opens⟩
  case field =>
    rintro scope stack fields name w - ⟨isGood, inside, nodup, opens⟩ mem
    have within : refsIn w ⊆ refsIn (.obj fields) := List.Subset.trans (refs_of_field mem) (refs_of_object fields)
    exact ⟨isGood, List.Subset.trans within inside, nodup, opens⟩
  case goes =>
    rintro scope stack v ref target s s' ⟨isGood, inside, nodup, opens, isStack, all⟩ reference before found
    obtain ⟨after, isGood', isKnown⟩ := goes scope ref target s s' isGood (inside (own_ref_in reference)) before found
    refine ⟨after, fun w entering => ?_⟩
    obtain ⟨new, there⟩ := entered_value entering
    refine ⟨isGood', refs_of_target there, List.nodup_cons.mpr ⟨new, nodup⟩,
      ⟨target, (Reference.ofText ref).fragment⟩ :: opens, ?_, ?_⟩
    · rw [isStack]
      rfl
    · intro a mem
      rcases List.mem_cons.mp mem with rfl | later
      · exact isKnown
      · exact all a later

/-- References whose identities tell their documents and fragments apart are told apart while they are open. -/
theorem told_apart {α : Type} {fetch : Fetch} {view : Scope → α} {known : Vertex → Prop} {opens : List Vertex}
    {m : Moment Session} (stack : m.stack = opens.map Vertex.identity) (nodup : m.stack.Nodup) (all : ∀ a ∈ opens, known a)
    (same : ∀ a b, known a → known b →
      ((view a.scope, a.fragment) = (view b.scope, b.fragment) ↔ a.identity = b.identity))
    (next : ∀ ref target s', ref? m.value = some ref →
      targetScope fetch m.scope ref (.ofText ref) m.memory = (.ok target, s') →
      known ⟨target, (Reference.ofText ref).fragment⟩) : ToldApart fetch view opens m where
  distinct := by
    rw [stack, List.Nodup, List.pairwise_map] at nodup
    rw [List.Nodup, List.pairwise_map]
    apply nodup.imp_of_mem
    intro a b mem mem' apart seen
    exact apart ((same a b (all a mem) (all b mem')).mp seen)
  returns := by
    intro ref target s' reference found isOpen
    obtain ⟨a, mem, seen⟩ := List.mem_map.mp isOpen
    have isSame := (same a _ (all a mem) (next ref target s' reference found)).mp seen
    apply expand_cycle reference found
    have onStack : m.stack.contains (identity target (.ofText ref)) = true := by
      rw [stack, List.contains_iff_mem, List.mem_map]
      exact ⟨a, mem, isSame⟩
    rw [entered, if_pos onStack]
  elsewhere := by
    intro ref target s' reference found notOpen entering
    have onStack := entered_none entering
    rw [stack] at onStack
    obtain ⟨a, mem, isSame⟩ := List.mem_map.mp onStack
    have seen := (same a ⟨target, _⟩ (all a mem) (next ref target s' reference found)).mpr isSame
    exact notOpen (List.mem_map.mpr ⟨a, mem, seen⟩)

/-! ### Files and their URLs -/

def OfFile (world : World) (p : Text) (root scope : Scope) : Prop :=
  ∃ names doc, scope = ⟨doc, some (ofFile names)⟩ ∧ Sited world p root names doc

theorem identity_iff {a b : Vertex} (unmarked : '#' ∉ baseText a.scope) (unmarked' : '#' ∉ baseText b.scope) :
    (baseText a.scope, a.fragment) = (baseText b.scope, b.fragment) ↔ a.identity = b.identity := by
  rw [Vertex.identity, Vertex.identity, key_eq_iff, Prod.mk.injEq]
  constructor
  · rintro ⟨text, fragment⟩
    rw [text, fragment]
  · exact Text.append_mark_inj unmarked unmarked'

/- A file has one URL. -/
theorem file_of_iff {a b : Scope} (ofFile : OfFile world p root a) (ofFile' : OfFile world p root b) :
    fileOf world p a = fileOf world p b ↔ baseText a = baseText b := by
  obtain ⟨names, doc, rfl, sited⟩ := ofFile
  obtain ⟨names', doc', rfl, sited'⟩ := ofFile'
  simp only [fileOf, Option.bind_some, sited.read, sited'.read, Option.some.injEq, baseText, Option.map_some, Option.getD_some]
  constructor
  · rintro rfl
    rfl
  · intro same
    rw [Url.of_file_at sited.nonempty, Url.of_file_at sited'.nonempty] at same
    exact Url.file_at_injective sited.nonempty sited'.nonempty same

theorem target_url {load : Url → Except LoadError Json} {scope target : Scope} {ref : Text} {s s' : Session}
    (found : targetScope (loadOnce load) scope ref (.ofText ref) s = (.ok target, s')) :
    targetUrl? scope ref = target.base := by
  rcases designated_iff.mp (target_scope_designates found) with ⟨inside, rfl⟩ | ⟨outside, u, doc, url, -, rfl⟩
  · rw [targetUrl?, inside]
  · unfold targetUrl?
    split
    · rename_i inside
      exact absurd inside outside
    · rw [url]
      rfl

def Proper (world : World) (p : Text) (root scope : Scope) : Prop :=
  '#' ∉ baseText scope ∧ (PlainlySpelled world p root → OfFile world p root scope)

def Opened (world : World) (p : Text) (root : Scope) (a : Vertex) : Prop :=
  Proper world p root a.scope ∧
    (PlainlySpelled world p root → (fileOf world p a.scope, a.fragment) ∈ designations world p root)

theorem proper_target {scope target : Scope} {ref : Text} {s s' : Session} (proper : Proper world p root scope)
    (mem : ref ∈ refsIn scope.root) (held : PlainlySpelled world p root → AllSited world p root s)
    (found : targetScope (loadOnce world.load) scope ref (.ofText ref) s = (.ok target, s')) :
    (PlainlySpelled world p root → AllSited world p root s') ∧ Proper world p root target ∧
      Opened world p root ⟨target, (Reference.ofText ref).fragment⟩ := by
  obtain ⟨unmarked, ofFile⟩ := proper
  have unmarked' := designated_unmarked (target_scope_designates found) unmarked
  have led : PlainlySpelled world p root → AllSited world p root s' ∧ OfFile world p root target := by
    intro plain
    obtain ⟨names, doc, rfl, sited⟩ := ofFile plain
    exact plain_target plain sited mem (held plain) found
  have proper' : Proper world p root target := ⟨unmarked', fun plain => (led plain).2⟩
  refine ⟨fun plain => (led plain).1, proper', proper', fun plain => ?_⟩
  obtain ⟨names, doc, rfl, sited⟩ := ofFile plain
  have designated : (fileOf world p target, (Reference.ofText ref).fragment) =
      ((targetUrl? ⟨doc, some (Url.ofFile names)⟩ ref).bind (world.fileRead p), (Reference.ofText ref).fragment) := by
    rw [target_url found, fileOf]
  rw [designated, designations, List.mem_flatMap]
  exact ⟨_, sited.listed, List.mem_map_of_mem mem⟩

theorem proper_start {opened : Session} (opening : openSource world.environment (.path p) = (.ok root, opened)) :
    Proper world p root root ∧ (PlainlySpelled world p root → AllSited world p root opened) := by
  refine ⟨⟨?_, fun plain => (start_sited opening plain.names).2⟩, fun plain => (start_sited opening plain.names).1⟩
  rcases open_source_cases opening with ⟨v, source, -⟩ | ⟨u, doc, rfl, -, ⟨p', source, url, -⟩ | ⟨raw, source, -⟩⟩
  · simp at source
  · subst url
    change '#' ∉ (world.urlOfFile p').text
    unfold World.urlOfFile
    split
    · exact Url.of_file_unmarked _
    · exact Url.of_file_unmarked _
  · simp at source

/-- The references that are open at a moment of a run that starts from a file are told apart by the URLs of their documents.
With plain spelling they are told apart by the files that are read, and there are no more of them than references designate
places in files. -/
theorem open_references_are_told_apart {opened : Session}
    (opening : openSource world.environment (.path p) = (.ok root, opened)) {m : Moment Session}
    (reached : Reached (loadOnce world.load) ⟨root, [], root.root, opened⟩ m) :
    ∃ opens : List Vertex, m.stack = opens.map Vertex.identity ∧
      ToldApart (loadOnce world.load) baseText opens m ∧
      (PlainlySpelled world p root →
        ToldApart (loadOnce world.load) (fileOf world p) opens m ∧
        m.stack.length ≤ (designations world p root).dedup.length) := by
  obtain ⟨proper, held⟩ := proper_start opening
  have preserved : Preserved (loadOnce world.load) (Underway (Proper world p root) (Opened world p root))
      (fun s => PlainlySpelled world p root → AllSited world p root s) fun _ => True :=
    underway_preserved fun _ _ _ _ _ isProper mem before found => proper_target isProper mem before found
  obtain ⟨⟨isProper, inside, nodup, opens, stack, all⟩, after⟩ :=
    preserved.reached reached ⟨proper, List.Subset.refl _, List.nodup_nil, [], rfl, by simp⟩ held
  have next : ∀ ref target s', ref? m.value = some ref →
      targetScope (loadOnce world.load) m.scope ref (.ofText ref) m.memory = (.ok target, s') →
      Opened world p root ⟨target, (Reference.ofText ref).fragment⟩ := fun ref target s' reference found =>
    (proper_target isProper (inside (own_ref_in reference)) after found).2.2
  refine ⟨opens, stack, told_apart stack nodup all (fun a b known known' => identity_iff known.1.1 known'.1.1) next, ?_⟩
  intro plain
  have byFile : ToldApart (loadOnce world.load) (fileOf world p) opens m := by
    apply told_apart stack nodup all _ next
    intro a b known known'
    rw [← identity_iff known.1.1 known'.1.1, Prod.mk.injEq, Prod.mk.injEq, file_of_iff (known.1.2 plain) (known'.1.2 plain)]
  refine ⟨byFile, ?_⟩
  have listed : (opens.map fun a => (fileOf world p a.scope, a.fragment)) ⊆ (designations world p root).dedup := by
    intro pair mem
    obtain ⟨a, isOpen, rfl⟩ := List.mem_map.mp mem
    exact List.mem_dedup.mpr ((all a isOpen).2 plain)
  have bounded := (byFile.distinct.subperm listed).length_le
  rwa [List.length_map, ← List.length_map (f := Vertex.identity), ← stack] at bounded

theorem open_path {place : ApiTypes.Place} {doc : Json} (located : world.files.locate p = .ok place)
    (read : world.readDocument p = .ok doc) :
    openSource world.environment (.path p) = (.ok ⟨doc, some (ofFile place)⟩, [(key (ofFile place).text, doc)]) := by
  have own : world.environment.urlOf p = ofFile place := by
    change world.urlOfFile p = ofFile place
    rw [World.urlOfFile, located]
  have opened := @open_file world.environment p doc read
  rw [opened, own]

theorem target_of_url {load : Url → Except LoadError Json} {scope : Scope} {ref : Text} {u : Url} {doc : Json} {s s' : Session}
    (outside : (Reference.ofText ref).kind ≠ .inside) (url : documentUrl scope ref (.ofText ref) = .ok u)
    (fetched : loadOnce load u s = (.ok doc, s')) :
    targetScope (loadOnce load) scope ref (.ofText ref) s = (.ok ⟨doc, some u⟩, s') := by
  unfold targetScope
  split
  · rename_i inside
    exact absurd inside outside
  · rw [url]
    simp only [fetched]
    rfl

def filesAlone (files : List (Text × Text)) : World :=
  ⟨FileTree.ofFiles [] (files.map fun f => (f.1, Text.Utf8.encode f.2)), .unreachable⟩

def crossRef : Text := "./s/../s/b.json#/y".toList

def backRef : Text := ".././a.json#/x".toList

def crossText : Text := "\x7b\"x\":\x7b\"$ref\":\"./s/../s/b.json#/y\"\x7d\x7d".toList

def backText : Text := "\x7b\"y\":\x7b\"$ref\":\".././a.json#/x\"\x7d\x7d".toList

def crossWorld : World := filesAlone [("a.json".toList, crossText), ("s/b.json".toList, backText)]

def crossStart : Scope := ⟨.obj [("x".toList, marker crossRef)], some (ofFile ["a.json".toList])⟩

def crossOther : Scope := ⟨.obj [("y".toList, marker backRef)], some (ofFile ["s".toList, "b.json".toList])⟩

def crossOpened : Session := [(key (ofFile ["a.json".toList]).text, crossStart.root)]

def crossMoment : Moment Session where
  scope := crossStart
  stack := [Vertex.identity ⟨crossStart, "/x".toList⟩, Vertex.identity ⟨crossOther, "/y".toList⟩]
  value := marker crossRef
  memory := (key (ofFile ["s".toList, "b.json".toList]).text, crossOther.root) :: crossOpened

theorem cross_text_read : Json.read? crossText = some crossStart.root := by cbv

theorem back_text_read : Json.read? backText = some crossOther.root := by cbv

theorem cross_located : crossWorld.files.locate "a.json".toList = .ok ["a.json".toList] := rfl

theorem cross_opens : openSource crossWorld.environment (.path "a.json".toList) = (.ok crossStart, crossOpened) :=
  open_path cross_located (World.read_json cross_located rfl (by decide) cross_text_read)

theorem cross_leads : targetScope (loadOnce crossWorld.load) crossStart crossRef (.ofText crossRef) crossOpened =
    (.ok crossOther, crossMoment.memory) := by
  have loaded : crossWorld.load (ofFile ["s".toList, "b.json".toList]) = .ok crossOther.root := by
    rw [load_names (by simp) (by decide)]
    exact World.read_json rfl rfl (by decide) back_text_read
  exact target_of_url (by decide) rfl (load_once_new rfl loaded)

theorem cross_leads_back : targetScope (loadOnce crossWorld.load) crossOther backRef (.ofText backRef) crossMoment.memory =
    (.ok crossStart, crossMoment.memory) := by
  exact target_of_url (by decide) rfl (load_once_kept rfl)

theorem cross_reached :
    Reached (loadOnce crossWorld.load) ⟨crossStart, [], crossStart.root, crossOpened⟩ crossMoment := by
  have first : Next (loadOnce crossWorld.load) ⟨crossStart, [], crossStart.root, crossOpened⟩
      ⟨crossStart, [], marker crossRef, crossOpened⟩ :=
    @Next.field _ _ _ _ [] [] [] "x".toList (marker crossRef) _ _ rfl rfl
  have second : Next (loadOnce crossWorld.load) ⟨crossStart, [], marker crossRef, crossOpened⟩
      ⟨crossOther, [Vertex.identity ⟨crossOther, "/y".toList⟩], marker backRef, crossMoment.memory⟩ :=
    .target rfl cross_leads rfl
  have third : Next (loadOnce crossWorld.load)
      ⟨crossOther, [Vertex.identity ⟨crossOther, "/y".toList⟩], marker backRef, crossMoment.memory⟩ crossMoment :=
    .target rfl cross_leads_back rfl
  exact ((Relation.ReflTransGen.single first).tail second).tail third

theorem cross_plain : PlainlySpelled crossWorld "a.json".toList crossStart := by
  constructor
  · intro place same
    rw [cross_located] at same
    cases same
    decide
  · have scopes : scopesIn crossWorld crossStart = [crossStart, crossStart, crossOther] := by
      have entries : crossWorld.files.entries = [(["a.json".toList], .file (Text.Utf8.encode crossText)),
          (["s".toList], .directory), (["s".toList, "b.json".toList], .file (Text.Utf8.encode backText))] := rfl
      have own : crossWorld.readDocument (fromRoot ["a.json".toList]) = .ok crossStart.root :=
        World.read_json rfl rfl (by decide) cross_text_read
      have none : (crossWorld.readDocument (fromRoot ["s".toList])).toOption = none := rfl
      have other : crossWorld.readDocument (fromRoot ["s".toList, "b.json".toList]) = .ok crossOther.root :=
        World.read_json rfl rfl (by decide) back_text_read
      rw [scopesIn, entries, List.filterMap_cons, List.filterMap_cons, List.filterMap_cons]
      simp only [own, none, other]
      rfl
    have refs : ∀ scope ∈ [crossStart, crossStart, crossOther], ∀ ref ∈ refsIn scope.root,
        (Reference.ofText ref).document = [] ∨ isPlainPath (Reference.ofText ref).document = true := by
      have first : refsIn crossStart.root = [crossRef] := by cbv
      have second : refsIn crossOther.root = [backRef] := by cbv
      simp only [List.mem_cons, List.not_mem_nil, or_false, forall_eq_or_imp, forall_eq, first, second]
      decide
    rw [scopes]
    exact refs

theorem crossed_files_are_told_apart :
    openSource crossWorld.environment (.path "a.json".toList) = (.ok crossStart, crossOpened) ∧
      Reached (loadOnce crossWorld.load) ⟨crossStart, [], crossStart.root, crossOpened⟩ crossMoment ∧
      ∃ opens : List Vertex, crossMoment.stack = opens.map Vertex.identity ∧
        ToldApart (loadOnce crossWorld.load) (fileOf crossWorld "a.json".toList) opens crossMoment ∧
        2 ≤ (designations crossWorld "a.json".toList crossStart).dedup.length := by
  refine ⟨cross_opens, cross_reached, ?_⟩
  obtain ⟨opens, stack, -, plainly⟩ := open_references_are_told_apart cross_opens cross_reached
  exact ⟨opens, stack, plainly cross_plain⟩

/-! ### A file under two URLs -/

def queryRef : Text := "a.json?q#/x".toList

def queryText : Text := "\x7b\"r\":\x7b\"$ref\":\"#/x\"\x7d,\"x\":\x7b\"y\":\x7b\"$ref\":\"a.json?q#/x\"\x7d\x7d\x7d".toList

def queryWorld : World := filesAlone [("a.json".toList, queryText)]

def queryUrl : Url := { ofFile ["a.json".toList] with query := some "q".toList }

def queryDocument : Json :=
  .obj [("r".toList, marker "#/x".toList), ("x".toList, .obj [("y".toList, marker queryRef)])]

def queryOpened : Session := [(key (ofFile ["a.json".toList]).text, queryDocument)]

def ownVertex : Vertex := ⟨⟨queryDocument, some (ofFile ["a.json".toList])⟩, "/x".toList⟩

def queryVertex : Vertex := ⟨⟨queryDocument, some queryUrl⟩, "/x".toList⟩

theorem query_text_read : Json.read? queryText = some queryDocument := by cbv

theorem query_opens : openSource queryWorld.environment (.path "a.json".toList) = (.ok ownVertex.scope, queryOpened) := by
  have located : queryWorld.files.locate "a.json".toList = .ok ["a.json".toList] := rfl
  exact open_path located (World.read_json located rfl (by decide) query_text_read)

theorem query_leads : targetScope (loadOnce queryWorld.load) ownVertex.scope queryRef (.ofText queryRef) queryOpened =
    (.ok queryVertex.scope, (key queryUrl.text, queryDocument) :: queryOpened) := by
  have loaded : queryWorld.load queryUrl = .ok queryDocument := by
    have plain : queryWorld.load queryUrl = queryWorld.load (ofFile ["a.json".toList]) := rfl
    rw [plain, load_names (by simp) (by decide)]
    exact World.read_json rfl rfl (by decide) query_text_read
  exact target_of_url (by decide) rfl (load_once_new rfl loaded)

/-- Under a spelling with a query a file is opened once more while the same place in it is open. -/
theorem file_opened_again_by_query :
    openSource queryWorld.environment (.path "a.json".toList) = (.ok ownVertex.scope, queryOpened) ∧
      ∃ m, Reached (loadOnce queryWorld.load) ⟨ownVertex.scope, [], queryDocument, queryOpened⟩ m ∧
        m.stack = [queryVertex.identity, ownVertex.identity] ∧
        fileOf queryWorld "a.json".toList queryVertex.scope = some ["a.json".toList] ∧
        fileOf queryWorld "a.json".toList ownVertex.scope = some ["a.json".toList] ∧
        queryVertex.fragment = ownVertex.fragment := by
  have first : Next (loadOnce queryWorld.load) ⟨ownVertex.scope, [], queryDocument, queryOpened⟩
      ⟨ownVertex.scope, [], marker "#/x".toList, queryOpened⟩ :=
    @Next.field _ _ _ _ [] [("x".toList, .obj [("y".toList, marker queryRef)])] [] "r".toList _ _ _ rfl rfl
  have second : Next (loadOnce queryWorld.load) ⟨ownVertex.scope, [], marker "#/x".toList, queryOpened⟩
      ⟨ownVertex.scope, [ownVertex.identity], .obj [("y".toList, marker queryRef)], queryOpened⟩ :=
    @Next.target _ _ _ _ _ _ _ "#/x".toList _ _ rfl rfl rfl
  have third : Next (loadOnce queryWorld.load)
      ⟨ownVertex.scope, [ownVertex.identity], .obj [("y".toList, marker queryRef)], queryOpened⟩
      ⟨ownVertex.scope, [ownVertex.identity], marker queryRef, queryOpened⟩ :=
    @Next.field _ _ _ _ [] [] [] "y".toList _ _ _ rfl rfl
  have last : Next (loadOnce queryWorld.load) ⟨ownVertex.scope, [ownVertex.identity], marker queryRef, queryOpened⟩
      ⟨queryVertex.scope, [queryVertex.identity, ownVertex.identity], .obj [("y".toList, marker queryRef)],
        (key queryUrl.text, queryDocument) :: queryOpened⟩ :=
    .target rfl query_leads rfl
  have reached := (((Relation.ReflTransGen.single first).tail second).tail third).tail last
  exact ⟨query_opens, _, reached, rfl, rfl, rfl, rfl⟩

end Resolve

end ApiTypes
