import ApiTypes.Proofs.Ordered
import ApiTypes.Proofs.Resolve.Unfolding
/-!
What a run remembers does not show in what it gives. Two ways to get documents that agree on every URL lead to the same
expansion, whatever each of them remembers. So a run gives what it would give if it read a document each time that a
reference leads there, and yet it reads no document twice.
-/
namespace ApiTypes.Resolve

variable {σ τ : Type}

/-! ### Two memories -/

/-- Two ways to get documents give the same for every URL that matters, and their memories stay related. -/
structure Alike (good : Url → Prop) (related : σ → τ → Prop) (f : Fetch σ) (g : Fetch τ) : Prop where
  result : ∀ u s t, good u → related s t → (f u s).1 = (g u t).1
  memory : ∀ u s t, good u → related s t → related (f u s).2 (g u t).2
  /-- References lead from URLs that matter to such ones. -/
  closed : ∀ scope ref u, (∀ base, scope.base = some base → good base) →
    documentUrl scope ref (.ofText ref) = .ok u → good u

namespace Alike

variable {good : Url → Prop} {related : σ → τ → Prop} {f : Fetch σ} {g : Fetch τ}

theorem flip (alike : Alike good related f g) : Alike good (fun t s => related s t) g f where
  result u t s isGood rel := (alike.result u s t isGood rel).symm
  memory u t s isGood rel := alike.memory u s t isGood rel
  closed := alike.closed

def GoodScope (good : Url → Prop) (scope : Scope) : Prop := ∀ base, scope.base = some base → good base

theorem target_scope (alike : Alike good related f g) {scope : Scope} (isGood : GoodScope good scope) {ref : Text}
    {s s' : σ} {t : τ} (rel : related s t) {result : Except Error Scope}
    (found : targetScope f scope ref (.ofText ref) s = (result, s')) :
    ∃ t', targetScope g scope ref (.ofText ref) t = (result, t') ∧ related s' t' ∧
      ∀ target, result = .ok target → GoodScope good target := by
  unfold targetScope at found ⊢
  cases kind : (Reference.ofText ref).kind with
  | inside =>
    simp only [kind, Prod.mk.injEq] at found ⊢
    obtain ⟨rfl, rfl⟩ := found
    refine ⟨t, ⟨rfl, rfl⟩, rel, ?_⟩
    intro target same
    cases same
    exact isGood
  | relative | remote =>
    simp only [kind] at found ⊢
    cases url : documentUrl scope ref (.ofText ref) with
    | error e =>
      simp only [url, Prod.mk.injEq] at found ⊢
      obtain ⟨rfl, rfl⟩ := found
      exact ⟨t, ⟨rfl, rfl⟩, rel, fun target same => by simp at same⟩
    | ok u =>
      have goodUrl := alike.closed scope ref u isGood url
      have same := alike.result u s t goodUrl rel
      have after := alike.memory u s t goodUrl rel
      simp only [url, Prod.map, Prod.mk.injEq, id] at found ⊢
      obtain ⟨rfl, rfl⟩ := found
      refine ⟨(g u t).2, ⟨by rw [same], rfl⟩, after, ?_⟩
      intro target made base own
      cases loaded : (f u s).1 with
      | error e => simp [loaded, Except.map] at made
      | ok doc =>
        simp only [loaded, Except.map, Except.ok.injEq] at made
        subst made
        cases own
        exact goodUrl

theorem course (alike : Alike good related f g) : Course f
    (fun scope stack v s r => GoodScope good scope → ∀ t, related s t →
      ∃ t', expand g scope stack v t = some (r.1, t') ∧ related r.2 t')
    (fun scope stack vs s r => GoodScope good scope → ∀ t, related s t →
      ∃ t', walkItems (expand g scope stack) vs t = some (r.1, t') ∧ related r.2 t')
    (fun scope stack fs s r => GoodScope good scope → ∀ t, related s t →
      ∃ t', walkFields (expand g scope stack) fs t = some (r.1, t') ∧ related r.2 t') := by
  constructor
  case scalar =>
    intro scope stack v s scalar _ t rel
    exact ⟨t, expand_scalar g scope stack t scalar, rel⟩
  case array =>
    intro scope stack vs s r inner isGood t rel
    obtain ⟨t', ran, after⟩ := inner isGood t rel
    refine ⟨t', ?_, after⟩
    rw [expand_array, ran]
    rfl
  case object =>
    intro scope stack fs s r plain inner isGood t rel
    obtain ⟨t', ran, after⟩ := inner isGood t rel
    refine ⟨t', ?_, after⟩
    rw [expand_object g scope stack t plain, ran]
    rfl
  case astray =>
    intro scope stack v s ref e s' reference found isGood t rel
    obtain ⟨t', found', after, -⟩ := alike.target_scope isGood rel found
    exact ⟨t', expand_astray stack reference found', after⟩
  case missing =>
    intro scope stack v s ref target e s' reference found entering isGood t rel
    obtain ⟨t', found', after, -⟩ := alike.target_scope isGood rel found
    exact ⟨t', expand_missing reference found' entering, after⟩
  case cycle =>
    intro scope stack v s ref target s' reference found entering isGood t rel
    obtain ⟨t', found', after, -⟩ := alike.target_scope isGood rel found
    exact ⟨t', expand_cycle reference found' entering, after⟩
  case target =>
    intro scope stack v s ref target w s' r reference found entering inner isGood t rel
    obtain ⟨t', found', after, goodTarget⟩ := alike.target_scope isGood rel found
    obtain ⟨t'', ran, later⟩ := inner (goodTarget target rfl) t' after
    exact ⟨t'', (expand_target reference found' entering).trans ran, later⟩
  case noItems =>
    intro scope stack s _ t rel
    exact ⟨t, rfl, rel⟩
  case itemFails =>
    intro scope stack v vs s e s' first isGood t rel
    obtain ⟨t', ran, after⟩ := first isGood t rel
    exact ⟨t', walk_items_fails vs ran, after⟩
  case moreItems =>
    intro scope stack v vs s w s' r first later isGood t rel
    obtain ⟨t', ran, between⟩ := first isGood t rel
    obtain ⟨t'', rest, after⟩ := later isGood t' between
    refine ⟨t'', ?_, after⟩
    rw [walk_items_cons vs ran, rest]
    rfl
  case noFields =>
    intro scope stack s _ t rel
    exact ⟨t, rfl, rel⟩
  case fieldFails =>
    intro scope stack name v fs s e s' first isGood t rel
    obtain ⟨t', ran, after⟩ := first isGood t rel
    exact ⟨t', walk_fields_fails name fs ran, after⟩
  case moreFields =>
    intro scope stack name v fs s w s' r first later isGood t rel
    obtain ⟨t', ran, between⟩ := first isGood t rel
    obtain ⟨t'', rest, after⟩ := later isGood t' between
    refine ⟨t'', ?_, after⟩
    rw [walk_fields_cons name fs ran, rest]
    rfl

/-- If one of the two expansions comes to an end, so does the other, with the same tree or failure. -/
theorem expand_same (alike : Alike good related f g) {scope : Scope} (isGood : GoodScope good scope) {s : σ} {t : τ}
    (rel : related s t) (stack : List Key) (v : Json) :
    (expand f scope stack v s).map Prod.fst = (expand g scope stack v t).map Prod.fst := by
  cases ran : expand f scope stack v s with
  | some r =>
    obtain ⟨t', ran', -⟩ := alike.course.holds ran isGood t rel
    rw [ran']
    rfl
  | none =>
    cases ran' : expand g scope stack v t with
    | none => rfl
    | some r =>
      obtain ⟨s', again, -⟩ := alike.flip.course.holds ran' isGood s rel
      rw [ran] at again
      simp at again

end Alike

/-! ### URLs that a run can come by -/

/-- The URL of a file, or one that is read from a text, alone or relative to such a URL. -/
inductive Named (env : Environment) : Url → Prop where
  | file (p : Text) : Named env (env.urlOf p)
  | parsed {t : Text} {u : Url} : Url.parse? t = some u → Named env u
  | joined {b u : Url} {t : Text} : Named env b → b.join? t = some u → Named env u

/-- What is loaded from a URL is a matter of its text alone. -/
def Fixed (env : Environment) : Prop := ∀ u u', Named env u → Named env u' → u.text = u'.text → env.load u = env.load u'

theorem document_url_named {env : Environment} (scope : Scope) (ref : Text) (u : Url)
    (named : ∀ base, scope.base = some base → Named env base) (url : documentUrl scope ref (.ofText ref) = .ok u) :
    Named env u := by
  obtain ⟨base, own, read⟩ := document_url_read url
  cases base with
  | none => exact .parsed read
  | some b => exact .joined (named b (own b rfl)) read

theorem open_source_named {env : Environment} {source : Source} {root : Scope} {s : Session}
    (opened : openSource env source = (.ok root, s)) : Alike.GoodScope (Named env) root := by
  intro base own
  rcases open_source_cases opened with ⟨v, -, rfl, -⟩ | ⟨u, doc, rfl, -, ⟨p, -, rfl, -⟩ | ⟨raw, -, parsed, -⟩⟩
  · simp at own
  · cases own
    exact .file p
  · cases own
    exact .parsed parsed

/-! ### Without a memory -/

def forgetful : Memory Unit := ⟨fun _ _ => none, fun _ _ held => held⟩

def loadAfresh (load : Url → Except LoadError Json) : Fetch Unit := forgetful.fetch fun u held => (load u, held)

theorem load_afresh (load : Url → Except LoadError Json) (u : Url) :
    loadAfresh load u () = ((load u).mapError .load, ()) := by
  rcases forgetful.fetch_cases (fun u held => (load u, held)) u () with
    ⟨doc, has, -⟩ | ⟨doc, _, -, asked, eq⟩ | ⟨e, _, -, asked, eq⟩
  · simp [forgetful] at has
  · rw [loadAfresh, eq, (Prod.mk.inj asked).1]
    rfl
  · rw [loadAfresh, eq, (Prod.mk.inj asked).1]
    rfl

/-- The document at a URL: that to start from under its own, and elsewhere what is loaded. -/
def serve (env : Environment) (root : Scope) (u : Url) : Except LoadError Json :=
  if root.base.map Url.text = some u.text then .ok root.root else env.load u

structure Faithful (env : Environment) (root : Scope) (s : Session) : Prop where
  all : ∀ u doc, Named env u → documentOf s u = some doc → serve env root u = .ok doc
  own : ∀ u, root.base.map Url.text = some u.text → documentOf s u = some root.root

theorem Faithful.elsewhere {env : Environment} {root : Scope} {s : Session} (faithful : Faithful env root s) {u : Url}
    (new : documentOf s u = none) : serve env root u = env.load u := by
  have other : root.base.map Url.text ≠ some u.text := by
    intro same
    rw [faithful.own u same] at new
    simp at new
  rw [serve, if_neg other]

theorem load_once_faithful {env : Environment} {root : Scope} (fixed : Fixed env) {u : Url} (named : Named env u)
    {s : Session} (faithful : Faithful env root s) : Faithful env root (loadOnce env.load u s).2 := by
  rcases load_once_cases env.load u s with ⟨doc, -, eq⟩ | ⟨doc, new, loaded, eq⟩ | ⟨e, -, -, eq⟩
  · rw [eq]
    exact faithful
  · rw [eq]
    constructor
    · intro u' doc' named' has
      rw [document_of_cons] at has
      split at has
      · rename_i same
        cases has
        have new' : documentOf s u' = none := by rwa [documentOf, ← same]
        rw [faithful.elsewhere new', ← fixed u u' named named' same]
        exact loaded
      · exact faithful.all u' doc' named' has
    · intro u' own
      have other : u.text ≠ u'.text := by
        intro same
        have has := faithful.own u' own
        rw [documentOf, ← same] at has
        rw [documentOf, has] at new
        simp at new
      rw [document_of_cons, if_neg other]
      exact faithful.own u' own
  · rw [eq]
    exact faithful

theorem once_alike_afresh {env : Environment} (root : Scope) (fixed : Fixed env) :
    Alike (Named env) (fun s _ => Faithful env root s) (loadOnce env.load) (loadAfresh (serve env root)) where
  result := by
    intro u s _ named faithful
    rcases load_once_cases env.load u s with ⟨doc, has, eq⟩ | ⟨doc, new, loaded, eq⟩ | ⟨e, new, failed, eq⟩
    · rw [eq, load_afresh, faithful.all u doc named has]
      rfl
    · rw [eq, load_afresh, faithful.elsewhere new, loaded]
      rfl
    · rw [eq, load_afresh, faithful.elsewhere new, failed]
      rfl
  memory := fun _ _ _ named faithful => load_once_faithful fixed named faithful
  closed := document_url_named

theorem open_source_faithful {env : Environment} {source : Source} {root : Scope} {s : Session}
    (opened : openSource env source = (.ok root, s)) : Faithful env root s := by
  rcases open_source_cases opened with ⟨v, -, rfl, rfl⟩ | ⟨u, doc, rfl, rfl, -⟩
  · constructor
    · intro u doc _ has
      simp [nothing_read] at has
    · intro u same
      simp at same
  · constructor
    · intro u' doc' _ has
      obtain ⟨same, rfl⟩ := one_read has
      simp [serve, same]
    · intro u' same
      rw [document_of_cons, if_pos (Option.some.inj same)]

/-- What a run gives is what the documents at their URLs give, without a session. -/
theorem run_served {env : Environment} {source : Source} {root : Scope} {s : Session} (fixed : Fixed env)
    (opened : openSource env source = (.ok root, s)) :
    (run env source).map Prod.fst = (expand (loadAfresh (serve env root)) root [] root.root ()).map Prod.fst := by
  rw [run_opened opened]
  exact (once_alike_afresh root fixed).expand_same (open_source_named opened) (open_source_faithful opened) [] root.root

theorem opened_root_loads {env : Environment} {source : Source} {root : Scope} {s : Session}
    (rooted : ∀ p, source = .path p → env.load (env.urlOf p) = env.read p)
    (opened : openSource env source = (.ok root, s)) :
    ∀ base, root.base = some base → env.load base = .ok root.root := by
  intro base own
  rcases open_source_cases opened with ⟨v, -, rfl, -⟩ | ⟨u, doc, rfl, -, ⟨p, isPath, rfl, read⟩ | ⟨raw, -, -, loaded⟩⟩
  · simp at own
  · cases own
    exact (rooted p isPath).trans read
  · cases own
    exact loaded

theorem served_alike_loaded {env : Environment} {root : Scope} (fixed : Fixed env)
    (named : Alike.GoodScope (Named env) root) (loads : ∀ base, root.base = some base → env.load base = .ok root.root) :
    Alike (Named env) (fun _ _ => True) (loadAfresh (serve env root)) (loadAfresh env.load) where
  result := by
    intro u _ _ isNamed _
    have same : serve env root u = env.load u := by
      unfold serve
      split
      · rename_i own
        obtain ⟨base, isBase, text⟩ := Option.map_eq_some_iff.mp own
        rw [← fixed base u (named base isBase) isNamed text, loads base isBase]
      · rfl
    rw [load_afresh, load_afresh, same]
  memory := fun _ _ _ _ _ => trivial
  closed := document_url_named

theorem open_afresh (env : Environment) (source : Source) :
    forgetful.openSource env.reader () source = ((openSource env source).1, ()) := by
  cases source with
  | path p => cases read : env.read p <;> simp [openSource, Memory.openSource, Environment.reader, read]
  | value v => rfl
  | url raw =>
    cases parsed : Url.parse? raw with
    | none => simp [openSource, Memory.openSource, parsed]
    | some u =>
      cases loaded : env.load u <;>
        simp [openSource, Memory.openSource, Memory.fetch, Session.memory, forgetful, Environment.reader, Ordered.get?,
          parsed, loaded]

/-- A run gives what it would give if it read a document each time that a reference leads there. -/
theorem run_afresh {env : Environment} {source : Source} (fixed : Fixed env)
    (rooted : ∀ p, source = .path p → env.load (env.urlOf p) = env.read p) :
    (run env source).map Prod.fst = (forgetful.run env.reader () source).map Prod.fst := by
  have afresh := open_afresh env source
  cases opened : openSource env source with
  | mk result s =>
    rw [opened] at afresh
    cases result with
    | error e =>
      rw [run_unopened opened, Memory.run_unopened afresh]
      rfl
    | ok root =>
      have named := open_source_named opened
      rw [run_served fixed opened, Memory.run_opened afresh]
      exact (served_alike_loaded fixed named (opened_root_loads rooted opened)).expand_same named trivial [] root.root

/-! ### What is asked for -/

/-- The session of a run, and the texts of the URLs that it has asked for, the last one first. -/
abbrev Noted := Session × List Text

def Noted.memory : Memory Noted :=
  ⟨fun k noted => Session.memory.kept k noted.1, fun k doc noted => (Session.memory.keep k doc noted.1, noted.2)⟩

/-- Writes down the URL of all that is asked for, be there a document or not. A file is asked for under its URL. -/
def Environment.noting (env : Environment) : Reader Noted :=
  ⟨fun p noted => (env.read p, noted.1, (env.urlOf p).text :: noted.2), env.urlOf,
    fun u noted => (env.load u, noted.1, u.text :: noted.2)⟩

def loadNoted (env : Environment) : Fetch Noted := Noted.memory.fetch env.noting.load

theorem load_noted_cases (env : Environment) (u : Url) (noted : Noted) :
    (∃ doc, documentOf noted.1 u = some doc ∧ loadNoted env u noted = (.ok doc, noted)) ∨
    (∃ doc, documentOf noted.1 u = none ∧ env.load u = .ok doc ∧
      loadNoted env u noted = (.ok doc, (key u.text, doc) :: noted.1, u.text :: noted.2)) ∨
    (∃ e, documentOf noted.1 u = none ∧ env.load u = .error e ∧
      loadNoted env u noted = (.error (.load e), noted.1, u.text :: noted.2)) := by
  rcases Noted.memory.fetch_cases env.noting.load u noted with
    ⟨doc, has, eq⟩ | ⟨doc, after, new, asked, eq⟩ | ⟨e, after, new, asked, eq⟩
  · exact Or.inl ⟨doc, has, eq⟩
  · obtain ⟨loaded, rfl⟩ := Prod.mk.inj asked
    exact Or.inr (Or.inl ⟨doc, new, loaded, eq⟩)
  · obtain ⟨failed, rfl⟩ := Prod.mk.inj asked
    exact Or.inr (Or.inr ⟨e, new, failed, eq⟩)

theorem load_noted_once (env : Environment) (u : Url) (noted : Noted) :
    loadOnce env.load u noted.1 = ((loadNoted env u noted).1, (loadNoted env u noted).2.1) := by
  rcases load_noted_cases env u noted with ⟨doc, has, eq⟩ | ⟨doc, new, loaded, eq⟩ | ⟨e, new, failed, eq⟩
  · rw [eq, load_once_kept has]
  · rw [eq, load_once_new new loaded]
  · rw [eq, load_once_failed new failed]

theorem once_alike_noted (env : Environment) :
    Alike (fun _ => True) (fun s noted => s = noted.1) (loadOnce env.load) (loadNoted env) where
  result := by
    rintro u _ noted - rfl
    rw [load_noted_once]
  memory := by
    rintro u _ noted - rfl
    rw [load_noted_once]
  closed := fun _ _ _ _ _ => trivial

/-- Nothing was asked for twice, and all that was asked for is there. -/
structure Remembered (noted : Noted) : Prop where
  once : noted.2.Nodup
  there : ∀ u : Url, u.text ∈ noted.2 → (documentOf noted.1 u).isSome

theorem nothing_remembered : Remembered ([], []) := ⟨List.nodup_nil, by simp⟩

theorem Remembered.asks_anew {noted : Noted} (before : Remembered noted) {u : Url}
    (new : documentOf noted.1 u = none) : (u.text :: noted.2).Nodup := by
  refine List.nodup_cons.mpr ⟨?_, before.once⟩
  intro again
  have there := before.there u again
  rw [new] at there
  simp at there

/- What is asked for and had is kept under its URL. -/
theorem Remembered.keeps {noted : Noted} (before : Remembered noted) {u : Url} (new : documentOf noted.1 u = none)
    (doc : Json) : Remembered ((key u.text, doc) :: noted.1, u.text :: noted.2) := by
  refine ⟨before.asks_anew new, ?_⟩
  intro u' isAsked
  by_cases same : u.text = u'.text
  · simp [document_of_cons, same]
  · rcases List.mem_cons.mp isAsked with own | old
    · exact absurd own.symm same
    · simpa [document_of_cons, same] using before.there u' old

theorem load_noted_goes {env : Environment} (u : Url) (noted : Noted) (doc : Json) (noted' : Noted)
    (before : Remembered noted) (loaded : loadNoted env u noted = (.ok doc, noted')) : Remembered noted' := by
  rcases load_noted_cases env u noted with ⟨_, -, eq⟩ | ⟨_, new, -, eq⟩ | ⟨_, -, -, eq⟩
  · rw [eq] at loaded
    cases loaded
    exact before
  · rw [eq] at loaded
    cases loaded
    exact before.keeps new _
  · rw [eq] at loaded
    simp at loaded

theorem load_noted_stops {env : Environment} (u : Url) (noted : Noted) (e : Error) (noted' : Noted)
    (before : Remembered noted) (failed : loadNoted env u noted = (.error e, noted')) : noted'.2.Nodup := by
  rcases load_noted_cases env u noted with ⟨_, -, eq⟩ | ⟨_, -, -, eq⟩ | ⟨_, new, -, eq⟩
  · rw [eq] at failed
    simp at failed
  · rw [eq] at failed
    simp at failed
  · rw [eq] at failed
    cases failed
    exact before.asks_anew new

theorem remembered_preserved {env : Environment} :
    Preserved (loadNoted env) (fun _ _ _ => True) Remembered fun noted => noted.2.Nodup :=
  preserved_always load_noted_goes load_noted_stops fun _ before => before.once

theorem open_noted (env : Environment) (source : Source) :
    ∃ noted, Noted.memory.openSource env.noting ([], []) source = ((openSource env source).1, noted) ∧
      noted.1 = (openSource env source).2 ∧ noted.2.Nodup ∧
      ∀ root, (openSource env source).1 = .ok root → Remembered noted := by
  cases source with
  | path p =>
    cases read : env.read p with
    | error e =>
      refine ⟨([], [(env.urlOf p).text]), ?_, ?_, by simp, ?_⟩ <;>
        simp [openSource, Memory.openSource, Environment.reader, Environment.noting, read]
    | ok doc =>
      rw [open_file read]
      refine ⟨_, ?_, rfl, ?_, fun _ _ => nothing_remembered.keeps (nothing_read (env.urlOf p)) doc⟩
      · simp only [Memory.openSource, Environment.noting, read]
        rfl
      · simp
  | value v => exact ⟨_, rfl, rfl, List.nodup_nil, fun _ _ => nothing_remembered⟩
  | url raw =>
    cases parsed : Url.parse? raw with
    | none =>
      refine ⟨([], []), ?_, ?_, by simp, ?_⟩ <;> simp [openSource, Memory.openSource, parsed]
    | some u =>
      have once := load_noted_once env u ([], [])
      have opened : openSource env (.url raw) = (loadOnce env.load u []).map (Except.map fun doc => ⟨doc, some u⟩) id := by
        simp only [openSource, Memory.openSource, parsed]
        rfl
      have noted : Noted.memory.openSource env.noting ([], []) (.url raw) =
          (loadNoted env u ([], [])).map (Except.map fun doc => ⟨doc, some u⟩) id := by
        simp only [Memory.openSource, parsed]
        rfl
      rw [opened, noted, once]
      cases asked : loadNoted env u ([], []) with
      | mk result after =>
        refine ⟨after, rfl, rfl, ?_, ?_⟩
        · cases result with
          | error e => exact load_noted_stops u _ e after nothing_remembered asked
          | ok doc => exact (load_noted_goes u _ doc after nothing_remembered asked).once
        · intro root isRoot
          obtain ⟨doc, isDoc, -⟩ := map_ok isRoot
          subst isDoc
          exact load_noted_goes u _ doc after nothing_remembered asked

theorem run_noted_nodup {env : Environment} {source : Source} {r : Result Json Noted}
    (ran : Noted.memory.run env.noting ([], []) source = some r) : r.2.2.Nodup := by
  obtain ⟨noted, opened, -, once, remembered⟩ := open_noted env source
  cases result : (openSource env source).1 with
  | error e =>
    rw [result] at opened
    rw [Memory.run_unopened opened] at ran
    cases ran
    exact once
  | ok root =>
    rw [result] at opened
    rw [Memory.run_opened opened] at ran
    exact (remembered_preserved.course.holds ran trivial (remembered root result)).1

/-- A run and one that writes down what it asks for go the same way. -/
theorem run_noted_same (env : Environment) (source : Source) :
    (Noted.memory.run env.noting ([], []) source).map (fun r => (r.1, r.2.1)) = run env source := by
  obtain ⟨noted, opened, same, -, -⟩ := open_noted env source
  cases plain : openSource env source with
  | mk result s =>
    rw [plain] at opened same
    subst same
    cases result with
    | error e =>
      rw [Memory.run_unopened opened, run_unopened plain]
      rfl
    | ok root =>
      have alike := once_alike_noted env
      have start : Alike.GoodScope (fun _ => True) root := fun _ _ => trivial
      rw [Memory.run_opened opened, run_opened plain]
      cases ran : expand (loadOnce env.load) root [] root.root noted.1 with
      | some r =>
        obtain ⟨noted', ran', after⟩ := alike.course.holds ran start noted rfl
        change (expand (loadNoted env) root [] root.root noted).map _ = _
        rw [ran']
        simp [← after]
      | none =>
        have none := alike.expand_same start (t := noted) rfl [] root.root
        rw [ran, Option.map_none, eq_comm, Option.map_eq_none_iff] at none
        change (expand (loadNoted env) root [] root.root noted).map _ = _
        rw [none]
        rfl

/-- The cache does not show. Where a URL always gives the same, a run comes to the tree or the failure that it would come
to if nothing were kept and each reference to a document read it. Yet nothing is ever asked for twice: the same run with a
reader that writes down what it is asked for comes to the same, and has no text in its notes twice, neither at its end nor
at any moment before. -/
theorem cache_is_transparent (env : Environment) (source : Source) (fixed : Fixed env)
    (rooted : ∀ p, source = .path p → env.load (env.urlOf p) = env.read p) :
    (run env source).map Prod.fst = (forgetful.run env.reader () source).map Prod.fst ∧
    source.resolveIn env = ((forgetful.run env.reader () source).map Prod.fst).getD (.error .endless) ∧
    (Noted.memory.run env.noting ([], []) source).map (fun r => (r.1, r.2.1)) = run env source ∧
    (∀ r, Noted.memory.run env.noting ([], []) source = some r → r.2.2.Nodup) ∧
    ∀ root noted, Noted.memory.openSource env.noting ([], []) source = (.ok root, noted) →
      ∀ m, Reached (Noted.memory.fetch env.noting.load) ⟨root, [], root.root, noted⟩ m → m.memory.2.Nodup := by
  have same := run_afresh fixed rooted
  refine ⟨same, by rw [Source.resolveIn, same], run_noted_same env source, fun r ran => run_noted_nodup ran, ?_⟩
  intro root noted opening m reached
  obtain ⟨noted', opened, -, -, remembered⟩ := open_noted env source
  rw [opening] at opened
  obtain ⟨isRoot, rfl⟩ := Prod.mk.inj opened
  exact (remembered_preserved.reached reached trivial (remembered root isRoot.symm)).2.once

/-! ### A few documents -/

def documentAt (docs : List (Text × Json)) (t : Text) : Except LoadError Json :=
  (Ordered.get? t docs).elim (.error (.unreadable t .notFound)) .ok

def Environment.ofDocuments (docs : List (Text × Json)) : Environment :=
  ⟨fun p => documentAt docs (Url.ofFile [p]).text, fun p => .ofFile [p], fun u => documentAt docs u.text⟩

theorem of_documents_fixed (docs : List (Text × Json)) : Fixed (.ofDocuments docs) := by
  intro u u' _ _ same
  simp only [Environment.ofDocuments, same]

theorem of_documents_listed {docs : List (Text × Json)} {u : Url} {doc : Json}
    (loaded : (Environment.ofDocuments docs).load u = .ok doc) : (u.text, doc) ∈ docs := by
  simp only [Environment.ofDocuments, documentAt] at loaded
  cases found : Ordered.get? u.text docs with
  | none => simp [found] at loaded
  | some doc' =>
    rw [found] at loaded
    cases loaded
    exact Ordered.get_mem found

def doubleScope : Scope :=
  ⟨.obj [("x".toList, marker "s#/a".toList), ("y".toList, marker "s#/b".toList), ("z".toList, .null)],
    some (.ofFile ["m".toList])⟩

def backScope : Scope :=
  ⟨.obj [("a".toList, .null), ("b".toList, marker "m#/z".toList)], some (.ofFile ["s".toList])⟩

def doubleEnvironment : Environment :=
  .ofDocuments [("file:///m".toList, doubleScope.root), ("file:///s".toList, backScope.root)]

def doubleTree : Json := .obj [("x".toList, .null), ("y".toList, .null), ("z".toList, .null)]

theorem double_run : ∃ session, Noted.memory.run doubleEnvironment.noting ([], []) (.path "m".toList) =
    some (.ok doubleTree, session, ["file:///s".toList, "file:///m".toList]) := by
  let fetch := loadNoted doubleEnvironment
  let opened : Noted := ([(key "file:///m".toList, doubleScope.root)], ["file:///m".toList])
  let both : Noted := ((key "file:///s".toList, backScope.root) :: opened.1, "file:///s".toList :: opened.2)
  have first : targetScope fetch doubleScope "s#/a".toList (.ofText "s#/a".toList) opened = (.ok backScope, both) := rfl
  have second : targetScope fetch doubleScope "s#/b".toList (.ofText "s#/b".toList) both = (.ok backScope, both) := rfl
  have back : targetScope fetch backScope "m#/z".toList (.ofText "m#/z".toList) both = (.ok doubleScope, both) := rfl
  have x : expand fetch doubleScope [] (marker "s#/a".toList) opened = some (.ok .null, both) :=
    (expand_target rfl first rfl).trans (expand_scalar _ _ _ _ rfl)
  have y : expand fetch doubleScope [] (marker "s#/b".toList) both = some (.ok .null, both) :=
    (expand_target rfl second rfl).trans ((expand_target rfl back rfl).trans (expand_scalar _ _ _ _ rfl))
  have z : expand fetch doubleScope [] .null both = some (.ok .null, both) := expand_scalar _ _ _ _ rfl
  refine ⟨both.1, ?_⟩
  change expand fetch doubleScope [] (.obj [("x".toList, marker "s#/a".toList), ("y".toList, marker "s#/b".toList),
    ("z".toList, .null)]) opened = _
  rw [expand_object _ _ _ _ rfl, walk_fields_cons _ _ x, walk_fields_cons _ _ y, walk_fields_cons _ _ z]
  rfl

theorem double_cache_is_transparent :
    Fixed doubleEnvironment ∧ doubleEnvironment.load (doubleEnvironment.urlOf "m".toList) = doubleEnvironment.read "m".toList ∧
    (forgetful.run doubleEnvironment.reader () (.path "m".toList)).map Prod.fst = some (.ok doubleTree) ∧
    Source.resolveIn doubleEnvironment (.path "m".toList) = .ok doubleTree ∧
    ∃ session, Noted.memory.run doubleEnvironment.noting ([], []) (.path "m".toList) =
        some (.ok doubleTree, session, ["file:///s".toList, "file:///m".toList]) ∧
      ["file:///s".toList, "file:///m".toList].Nodup := by
  have fixed : Fixed doubleEnvironment := of_documents_fixed _
  have rooted : ∀ p, Source.path "m".toList = .path p → doubleEnvironment.load (doubleEnvironment.urlOf p) =
      doubleEnvironment.read p := fun _ _ => rfl
  obtain ⟨session, ran⟩ := double_run
  obtain ⟨afresh, resolved, noted, once, -⟩ := cache_is_transparent doubleEnvironment (.path "m".toList) fixed rooted
  have found : run doubleEnvironment (.path "m".toList) = some (.ok doubleTree, session) := by rw [← noted, ran]; rfl
  rw [found] at afresh
  rw [← afresh] at resolved
  exact ⟨fixed, rooted _ rfl, afresh.symm, resolved, session, ran, once _ ran⟩

end ApiTypes.Resolve
