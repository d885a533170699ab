import Mathlib.Data.Set.Finite.List
import ApiTypes.Proofs.FileTree
import ApiTypes.Proofs.Resolve.Termination
import ApiTypes.Proofs.Url.Length
/-!
Resolution in a world of files and replies ends. Infinitely many URLs can be loaded there, since a file is read whatever the
query of its URL is. But a world has finitely many documents, the references in them are of bounded length, and so are the
URLs that they lead to and that can be loaded.
-/
namespace ApiTypes

/-! ### The documents of a world -/

def Entry.text? : Entry → Option Text
  | .directory => none
  | .file octets => Text.Utf8.decode? octets

def Network.bodies : Network → List Text
  | .unreachable => []
  | .replies table => table.map fun reply => reply.2.body

/- What is fetched stands in the reply, or comes from where the reply sends the question on to. -/
theorem Network.fetch_within_step {table : List (Text × Reply)} {hops : Nat} {u : Url} {body : Text}
    (fetched : fetchWithin table hops u = .ok body) :
    body = [] ∨ body ∈ (Network.replies table).bodies ∨
      ∃ fewer next, hops = fewer + 1 ∧ fetchWithin table fewer next = .ok body := by
  unfold fetchWithin at fetched
  split at fetched
  · simp at fetched
  · rename_i reply found
    split at fetched
    · simp at fetched
    · split at fetched
      · exact Or.inl (Except.ok.inj fetched).symm
      · split at fetched
        · cases fetched
          exact Or.inr (Or.inl (List.mem_map.mpr ⟨_, Ordered.get_mem found, rfl⟩))
        · simp at fetched
        · split at fetched
          · exact Or.inr (Or.inr ⟨_, _, rfl, fetched⟩)
          · simp at fetched

theorem Network.fetch_within_body {table : List (Text × Reply)} {hops : Nat} {u : Url} {body : Text}
    (fetched : fetchWithin table hops u = .ok body) : body = [] ∨ body ∈ (Network.replies table).bodies := by
  induction hops generalizing u with
  | zero =>
    rcases fetch_within_step fetched with empty | listed | ⟨fewer, next, none, -⟩
    · exact Or.inl empty
    · exact Or.inr listed
    · omega
  | succ hops ih =>
    rcases fetch_within_step fetched with empty | listed | ⟨fewer, next, same, later⟩
    · exact Or.inl empty
    · exact Or.inr listed
    · cases same
      exact ih later

namespace World

/-- All that can be read as a document somewhere. A reply without content is read as an empty text. -/
def contents (world : World) : List Text :=
  [] :: (world.files.entries.filterMap (·.2.text?) ++ world.network.bodies)

def documents (world : World) : List Json :=
  world.contents.flatMap fun content => (Json.read? content).toList ++ (Document.read content).toOption.toList

variable {world : World} {doc : Json}

theorem read_listed {path content : Text} (read : world.files.read path = .ok content) : content ∈ world.contents := by
  obtain ⟨place, octets, -, found, decoded⟩ := FileTree.read_located read
  have entry : (place, Entry.file octets) ∈ world.files.entries := by
    unfold FileTree.find? at found
    split at found
    · simp at found
    · exact Ordered.get_mem found
  have listed : content ∈ world.files.entries.filterMap (·.2.text?) := List.mem_filterMap.mpr ⟨_, entry, decoded⟩
  exact List.mem_cons_of_mem _ (List.mem_append_left _ listed)

theorem fetched_listed {u : Url} {body : Text} (fetched : world.network.fetch u = .ok body) : body ∈ world.contents := by
  obtain ⟨_, -, asked⟩ := bind_ok fetched
  have replied : body = [] ∨ body ∈ world.network.bodies := by
    cases network : world.network with
    | unreachable =>
      rw [network] at asked
      cases asked
    | replies table =>
      rw [network] at asked
      exact Network.fetch_within_body asked
  rcases replied with rfl | listed
  · exact List.mem_cons_self
  · exact List.mem_cons_of_mem _ (List.mem_append_right _ listed)

theorem content_document {content : Text} (listed : content ∈ world.contents)
    (read : Json.read? content = some doc ∨ Document.read content = .ok doc) : doc ∈ world.documents := by
  refine List.mem_flatMap.mpr ⟨content, listed, ?_⟩
  rcases read with json | plain
  · simp [json]
  · simp [plain, Except.toOption]

theorem read_document {path : Text} (read : world.readDocument path = .ok doc) :
    doc ∈ world.documents ∧ path.length < FileTree.maxPath := by
  obtain ⟨content, found, made⟩ := bind_ok read
  have got := map_error_ok found
  constructor
  · refine content_document (read_listed got) ?_
    unfold readText at made
    split at made
    · split at made
      · rename_i v json
        cases made
        exact Or.inl json
      · simp at made
    · exact Or.inr (map_error_ok made)
  · obtain ⟨place, octets, located, -⟩ := FileTree.read_located got
    obtain ⟨_, checked, -⟩ := bind_ok located
    have size := Text.Utf8.length_le_size path
    simp only [FileTree.checkPath] at checked
    repeat' split at checked
    all_goals first | omega | simp at checked

/-- A loaded document is one of the world's, and the text of its URL is bounded as far as the query and the fragment are. -/
theorem load_document {n : Nat} {u : Url} (loaded : world.load u = .ok doc)
    (filed : u.scheme = Url.fileScheme → Url.Filed n u) :
    doc ∈ world.documents ∧ u.text.length ≤ Network.maxAddress + 2 * n := by
  unfold load at loaded
  split at loaded
  · rename_i file
    rw [beq_iff_eq] at file
    split at loaded
    · rename_i octets named
      unfold readDocumentAt at loaded
      split at loaded
      · rename_i path decoded
        obtain ⟨listed, short⟩ := read_document loaded
        obtain ⟨hostless, pathLength⟩ := Url.file_path_length named
        have octetsLength := Text.Utf8.decode_length decoded
        have textLength := Url.filed_text_length (filed file) file hostless
        simp only [FileTree.maxPath] at short
        refine ⟨listed, ?_⟩
        simp only [Network.maxAddress]
        omega
      · simp at loaded
    · simp at loaded
  · split at loaded
    · obtain ⟨body, found, made⟩ := bind_ok loaded
      have fetched := map_error_ok found
      refine ⟨content_document (fetched_listed fetched) (Or.inr (map_error_ok made)), ?_⟩
      obtain ⟨_, checked, -⟩ := bind_ok fetched
      have size := Text.Utf8.length_le_size u.text
      simp only [Network.checkAddress] at checked
      split at checked
      · simp at checked
      · omega
    · simp at loaded

end World

def Source.written : Source → Text
  | .url raw => raw
  | .path _ | .value _ => []

namespace Resolve

/-! ### Runs -/

theorem short_texts (n : Nat) : ∃ texts : List Text, ∀ t : Text, t.length ≤ n → t ∈ texts := by
  have finite : Finite Char := Finite.of_injective (fun c : Char => c.val.toFin) fun c d same =>
    Char.ext (UInt32.toFin_inj.mp same)
  exact ⟨(List.finite_length_le Char n).toFinset.toList, fun t short => by simpa using short⟩

def Bounded (n : Nat) (u : Url) : Prop := u.scheme = Url.fileScheme → Url.Filed n u

theorem of_file_bounded (n : Nat) (names : List Text) : Bounded n (Url.ofFile names) := fun _ =>
  ⟨⟨none, rfl⟩, by simp [Url.ofFile], by simp [Url.ofFile]⟩

theorem parsed_bounded {n : Nat} {raw : Text} {u : Url} (parsed : Url.parse? raw = some u) (short : 12 * raw.length ≤ n) :
    Bounded n u := fun file =>
  Url.read_filed parsed file (by simp) short

theorem reference_bounded {n : Nat} {scope : Scope} {ref : Text} {u : Url}
    (base : ∀ b, scope.base = some b → Bounded n b) (short : 12 * ref.length ≤ n)
    (url : documentUrl scope ref (.ofText ref) = .ok u) : Bounded n u := by
  intro file
  obtain ⟨base', own, read⟩ := document_url_read url
  have part : (Reference.ofText ref).document.length ≤ ref.length := (Text.cut_at_length '#' ref).1
  exact Url.read_filed read file (fun b same => base b (own b same)) (by omega)

theorem opened_bounded {world : World} {source : Source} {root : Scope} {s : Session} {n : Nat}
    (opened : openSource world.environment source = (.ok root, s)) (short : 12 * source.written.length ≤ n) :
    ∀ base, root.base = some base → Bounded n base := by
  intro base own
  rcases open_source_cases opened with ⟨v, -, rfl, -⟩ | ⟨u, doc, rfl, -, ⟨p, -, isUrl, -⟩ | ⟨raw, rfl, parsed, -⟩⟩
  · simp at own
  · cases own
    rw [← isUrl]
    change Bounded n (world.urlOfFile p)
    unfold World.urlOfFile
    split <;> exact of_file_bounded n _
  · cases own
    exact parsed_bounded parsed short

/-! `endless` stands for a run that has no end, so no step of a run answers it. -/

theorem document_url_ends {scope : Scope} {ref : Text} : documentUrl scope ref (.ofText ref) ≠ .error .endless := by
  unfold documentUrl
  split
  · cases Url.parse? (Reference.ofText ref).document <;> simp
  · rename_i base _ _
    cases base.join? (Reference.ofText ref).document <;> simp
  · simp

theorem target_scope_ends {load : Url → Except LoadError Json} {scope : Scope} {ref : Text} {s s' : Session} {e : Error}
    (failed : targetScope (loadOnce load) scope ref (.ofText ref) s = (.error e, s')) : e ≠ .endless := by
  unfold targetScope at failed
  split at failed
  · simp at failed
  · split at failed
    · rename_i e' url
      rintro rfl
      cases failed
      exact document_url_ends url
    · rename_i u _
      rcases load_once_cases load u s with ⟨doc, -, got⟩ | ⟨doc, -, -, got⟩ | ⟨e', -, -, got⟩
      · simp [got, Except.map] at failed
      · simp [got, Except.map] at failed
      · rw [got] at failed
        cases failed
        simp

theorem map_ends {α β : Type} {f : α → β} {x : Except Error α} (ends : x ≠ .error .endless) :
    x.map f ≠ .error .endless := by
  cases x with
  | ok a => simp [Except.map]
  | error e => simpa [Except.map] using ends

theorem ends_course (load : Url → Except LoadError Json) :
    Course (loadOnce load) (fun _ _ _ _ r => r.1 ≠ .error .endless) (fun _ _ _ _ r => r.1 ≠ .error .endless)
      (fun _ _ _ _ r => r.1 ≠ .error .endless) where
  scalar := by simp
  array := fun _ _ _ _ _ => map_ends
  object := fun _ _ _ _ _ _ => map_ends
  astray := by
    intro scope stack v s ref e s' _ failed same
    exact target_scope_ends failed (Except.error.inj same)
  missing := by
    intro scope stack v s ref target e s' _ _ failed same
    rw [Except.error.inj same] at failed
    unfold entered at failed
    split at failed
    · simp at failed
    · cases found : Pointer.get? (Reference.ofText ref).fragment target.root <;> simp [found] at failed
  cycle := by simp
  target := fun _ _ _ _ _ _ _ _ _ _ _ _ => id
  noItems := by simp
  itemFails := fun _ _ _ _ _ _ _ fails same => fails (congrArg Except.error (Except.error.inj same))
  moreItems := fun _ _ _ _ _ _ _ _ _ => map_ends
  noFields := by simp
  fieldFails := fun _ _ _ _ _ _ _ _ fails same => fails (congrArg Except.error (Except.error.inj same))
  moreFields := fun _ _ _ _ _ _ _ _ _ _ => map_ends

theorem open_source_ends {env : Environment} {source : Source} {e : Error} {s : Session}
    (failed : openSource env source = (.error e, s)) : e ≠ .endless := by
  rintro rfl
  cases source with
  | path p => cases read : env.read p <;> simp [openSource, Memory.openSource, Environment.reader, read] at failed
  | value v => simp [openSource, Memory.openSource] at failed
  | url raw =>
    cases parsed : Url.parse? raw with
    | none => simp [openSource, Memory.openSource, parsed] at failed
    | some u =>
      cases loaded : env.load u with
      | ok doc => simp [open_url parsed loaded] at failed
      | error e =>
        have fetched : Session.memory.fetch env.reader.load u [] = _ := load_once_failed (s := []) rfl loaded
        simp [openSource, Memory.openSource, parsed, fetched, Except.map] at failed

theorem run_ends {env : Environment} {source : Source} {r : Result Json} (ran : run env source = some r) :
    r.1 ≠ .error .endless := by
  cases opened : openSource env source with
  | mk result s =>
    cases result with
    | ok root =>
      rw [run_opened opened] at ran
      exact (ends_course env.load).holds ran
    | error e =>
      rw [run_unopened opened] at ran
      cases ran
      intro same
      exact open_source_ends opened (Except.error.inj same)

/-- In every world the resolution of every source ends, with a tree or with an error. -/
theorem world_resolution_ends (world : World) (source : Source) :
    ∃ result session, run world.environment source = some (result, session) ∧ source.resolve world = result := by
  cases opened : openSource world.environment source with
  | mk result s =>
    cases result with
    | error e =>
      exact ⟨.error e, s, run_unopened opened, by simp [Source.resolve, Source.resolveIn, run_unopened opened]⟩
    | ok root =>
      let refs := refsIn root.root ++ world.documents.flatMap refsIn
      let n := 12 * (source.written :: refs).flatten.length
      obtain ⟨texts, short⟩ := short_texts (Network.maxAddress + 2 * n)
      have fits : ∀ t ∈ source.written :: refs, 12 * t.length ≤ n := fun t mem =>
        Nat.mul_le_mul_left 12 (List.sublist_flatten_of_mem mem).length_le
      refine confined_run_ends (Bounded n) (baseText root :: texts) refs ?closed ?finite ?start
      case closed =>
        intro scope ref u base mem url
        exact reference_bounded base (fits ref (List.mem_cons_of_mem _ mem)) url
      case finite =>
        intro u doc bounded loaded
        obtain ⟨listed, length⟩ := World.load_document loaded bounded
        refine ⟨List.mem_cons_of_mem _ (short _ length), ?_⟩
        intro ref inside
        exact List.mem_append_right _ (List.mem_flatMap.mpr ⟨doc, listed, inside⟩)
      case start =>
        intro root' s' opened'
        rw [opened] at opened'
        cases opened'
        have own : refsIn root.root ⊆ refs := List.subset_append_left _ _
        exact ⟨opened_bounded opened (fits _ List.mem_cons_self), List.mem_cons_self, own, own⟩

theorem world_never_endless (world : World) (source : Source) : source.resolve world ≠ .error .endless := by
  obtain ⟨result, session, ran, same⟩ := world_resolution_ends world source
  rw [same]
  exact run_ends ran

end Resolve

end ApiTypes
