import Mathlib.Logic.Relation
import ApiTypes.Proofs.Resolve.Expansion
import ApiTypes.Proofs.Text
import ApiTypes.Proofs.Url.Fragment
/-!
The documents of a run. A session only grows, and what it has for a URL stays; every document in it is the one to
start from or was loaded from where it stands. Which document a reference designates is a matter of the documents alone.
-/
namespace ApiTypes.Resolve

def documentOf (session : Session) (u : Url) : Option Json := Ordered.get? (key u.text) session

theorem key_eq_iff {t u : Text} : key t = key u ↔ t = u := by
  constructor
  · intro same
    exact congrArg Prod.snd same
  · intro same
    rw [same]

theorem document_of_cons (u₀ u : Url) (doc : Json) (session : Session) :
    documentOf ((key u₀.text, doc) :: session) u = if u₀.text = u.text then some doc else documentOf session u := by
  simp only [documentOf, Ordered.get?, beq_iff_eq, key_eq_iff]

variable {σ : Type}

theorem Memory.fetch_cases (memory : Memory σ) (load : Url → σ → Except LoadError Json × σ) (u : Url) (held : σ) :
    (∃ doc, memory.kept (key u.text) held = some doc ∧ memory.fetch load u held = (.ok doc, held)) ∨
    (∃ doc held', memory.kept (key u.text) held = none ∧ load u held = (.ok doc, held') ∧
      memory.fetch load u held = (.ok doc, memory.keep (key u.text) doc held')) ∨
    (∃ e held', memory.kept (key u.text) held = none ∧ load u held = (.error e, held') ∧
      memory.fetch load u held = (.error (.load e), held')) := by
  unfold fetch
  cases memory.kept (key u.text) held with
  | some doc => exact Or.inl ⟨doc, rfl, rfl⟩
  | none =>
    rcases load u held with ⟨e | doc, held'⟩
    · exact Or.inr (Or.inr ⟨e, held', rfl, rfl, rfl⟩)
    · exact Or.inr (Or.inl ⟨doc, held', rfl, rfl, rfl⟩)

theorem load_once_cases (load : Url → Except LoadError Json) (u : Url) (s : Session) :
    (∃ doc, documentOf s u = some doc ∧ loadOnce load u s = (.ok doc, s)) ∨
    (∃ doc, documentOf s u = none ∧ load u = .ok doc ∧ loadOnce load u s = (.ok doc, (key u.text, doc) :: s)) ∨
    (∃ e, documentOf s u = none ∧ load u = .error e ∧ loadOnce load u s = (.error (.load e), s)) := by
  rcases Session.memory.fetch_cases (fun u s => (load u, s)) u s with
    ⟨doc, has, eq⟩ | ⟨doc, s', new, asked, eq⟩ | ⟨e, s', new, asked, eq⟩
  · exact Or.inl ⟨doc, has, eq⟩
  · obtain ⟨loaded, rfl⟩ := Prod.mk.inj asked
    exact Or.inr (Or.inl ⟨doc, new, loaded, eq⟩)
  · obtain ⟨failed, rfl⟩ := Prod.mk.inj asked
    exact Or.inr (Or.inr ⟨e, new, failed, eq⟩)

theorem load_once_kept {load : Url → Except LoadError Json} {u : Url} {s : Session} {doc : Json}
    (has : documentOf s u = some doc) : loadOnce load u s = (.ok doc, s) := by
  rcases load_once_cases load u s with ⟨doc', has', eq⟩ | ⟨_, new, -⟩ | ⟨_, new, -⟩
  · rw [has] at has'
    cases has'
    exact eq
  · simp [has] at new
  · simp [has] at new

theorem load_once_new {load : Url → Except LoadError Json} {u : Url} {s : Session} {doc : Json}
    (new : documentOf s u = none) (loaded : load u = .ok doc) : loadOnce load u s = (.ok doc, (key u.text, doc) :: s) := by
  rcases load_once_cases load u s with ⟨_, has, -⟩ | ⟨doc', -, loaded', eq⟩ | ⟨_, -, failed, -⟩
  · simp [new] at has
  · rw [loaded] at loaded'
    cases loaded'
    exact eq
  · simp [loaded] at failed

theorem load_once_failed {load : Url → Except LoadError Json} {u : Url} {s : Session} {e : LoadError}
    (new : documentOf s u = none) (failed : load u = .error e) : loadOnce load u s = (.error (.load e), s) := by
  rcases load_once_cases load u s with ⟨_, has, -⟩ | ⟨_, -, loaded, -⟩ | ⟨e', -, failed', eq⟩
  · simp [new] at has
  · simp [failed] at loaded
  · rw [failed] at failed'
    cases failed'
    exact eq

theorem Memory.run_opened {memory : Memory σ} {reader : Reader σ} {held held' : σ} {source : Source} {root : Scope}
    (opened : memory.openSource reader held source = (.ok root, held')) :
    memory.run reader held source = expand (memory.fetch reader.load) root [] root.root held' := by
  simp only [run, opened]

theorem Memory.run_unopened {memory : Memory σ} {reader : Reader σ} {held held' : σ} {source : Source} {e : Error}
    (failed : memory.openSource reader held source = (.error e, held')) :
    memory.run reader held source = some (.error e, held') := by
  simp only [run, failed]

theorem run_opened {env : Environment} {source : Source} {root : Scope} {s : Session}
    (opened : openSource env source = (.ok root, s)) :
    run env source = expand (loadOnce env.load) root [] root.root s :=
  Memory.run_opened opened

theorem run_unopened {env : Environment} {source : Source} {e : Error} {s : Session}
    (failed : openSource env source = (.error e, s)) : run env source = some (.error e, s) :=
  Memory.run_unopened failed

def nowhere : Environment := (⟨⟨[], []⟩, .unreachable⟩ : World).environment

theorem open_file {env : Environment} {p : Text} {doc : Json} (read : env.read p = .ok doc) :
    openSource env (.path p) = (.ok ⟨doc, some (env.urlOf p)⟩, [(key (env.urlOf p).text, doc)]) := by
  simp only [openSource, Memory.openSource, Environment.reader, read]
  rfl

theorem open_url {env : Environment} {raw : Text} {u : Url} {doc : Json} (parsed : Url.parse? raw = some u)
    (loaded : env.load u = .ok doc) : openSource env (.url raw) = (.ok ⟨doc, some u⟩, [(key u.text, doc)]) := by
  have fetched : Session.memory.fetch env.reader.load u [] = _ := load_once_new (s := []) rfl loaded
  simp only [openSource, Memory.openSource, parsed, fetched]
  rfl

/-! ### What holds all along -/

structure Moment (σ : Type) where
  scope : Scope
  stack : List Key
  value : Json
  memory : σ

/-- What an expansion comes to below a moment: an item or a field, once those before it are done, or what a reference
designates. -/
inductive Next (fetch : Fetch σ) : Moment σ → Moment σ → Prop where
  | item {scope : Scope} {stack : List Key} {done rest outs : List Json} {w : Json} {s s' : σ} :
      walkItems (expand fetch scope stack) done s = some (.ok outs, s') →
      Next fetch ⟨scope, stack, .arr (done ++ w :: rest), s⟩ ⟨scope, stack, w, s'⟩
  | field {scope : Scope} {stack : List Key} {done rest outs : Json.Fields} {name : Text} {w : Json} {s s' : σ} :
      ref? (.obj (done ++ (name, w) :: rest)) = none →
      walkFields (expand fetch scope stack) done s = some (.ok outs, s') →
      Next fetch ⟨scope, stack, .obj (done ++ (name, w) :: rest), s⟩ ⟨scope, stack, w, s'⟩
  | target {scope target : Scope} {stack : List Key} {v w : Json} {ref : Text} {s s' : σ} :
      ref? v = some ref → targetScope fetch scope ref (.ofText ref) s = (.ok target, s') →
      entered target stack ref (.ofText ref) = .ok (some w) →
      Next fetch ⟨scope, stack, v, s⟩ ⟨target, identity target (.ofText ref) :: stack, w, s'⟩

def Reached (fetch : Fetch σ) (start m : Moment σ) : Prop := Relation.ReflTransGen (Next fetch) start m

/-- What holds of the values that an expansion comes to, and of what is remembered: `P` as long as documents are got, `Q` also
once one was not. -/
structure Preserved (fetch : Fetch σ) (met : Scope → List Key → Json → Prop) (P Q : σ → Prop) : Prop where
  both : ∀ s, P s → Q s
  item : ∀ scope stack items w, met scope stack (.arr items) → w ∈ items → met scope stack w
  field : ∀ scope stack fields name w, ref? (.obj fields) = none → met scope stack (.obj fields) → (name, w) ∈ fields →
    met scope stack w
  goes : ∀ scope stack v ref target s s', met scope stack v → ref? v = some ref → P s →
    targetScope fetch scope ref (.ofText ref) s = (.ok target, s') →
    P s' ∧ ∀ w, entered target stack ref (.ofText ref) = .ok (some w) →
      met target (identity target (.ofText ref) :: stack) w
  stops : ∀ scope stack v ref e s s', met scope stack v → ref? v = some ref → P s →
    targetScope fetch scope ref (.ofText ref) s = (.error e, s') → Q s'

namespace Preserved

variable {fetch : Fetch σ} {met : Scope → List Key → Json → Prop} {P Q : σ → Prop}

/- Nothing is remembered that comes after the first failure. -/
theorem course (preserved : Preserved fetch met P Q) :
    Course fetch (fun scope stack v s r => met scope stack v → P s → Q r.2 ∧ ∀ out, r.1 = .ok out → P r.2)
      (fun scope stack vs s r => (∀ v ∈ vs, met scope stack v) → P s → Q r.2 ∧ ∀ outs, r.1 = .ok outs → P r.2)
      (fun scope stack fs s r => (∀ f ∈ fs, met scope stack f.2) → P s → Q r.2 ∧ ∀ outs, r.1 = .ok outs → P r.2) := by
  constructor
  case scalar =>
    intro scope stack v s _ _ before
    exact ⟨preserved.both s before, fun _ _ => before⟩
  case array =>
    intro scope stack vs s r inner isMet before
    obtain ⟨after, goesOn⟩ := inner (fun v mem => preserved.item scope stack vs v isMet mem) before
    refine ⟨after, fun out made => ?_⟩
    obtain ⟨outs, made', -⟩ := map_ok made
    exact goesOn outs made'
  case object =>
    intro scope stack fs s r plain inner isMet before
    obtain ⟨after, goesOn⟩ := inner (fun f mem => preserved.field scope stack fs f.1 f.2 plain isMet mem) before
    refine ⟨after, fun out made => ?_⟩
    obtain ⟨outs, made', -⟩ := map_ok made
    exact goesOn outs made'
  case astray =>
    intro scope stack v s ref e s' reference found isMet before
    exact ⟨preserved.stops scope stack v ref e s s' isMet reference before found, fun out made => by simp at made⟩
  case missing =>
    intro scope stack v s ref target e s' reference found _ isMet before
    have after := (preserved.goes scope stack v ref target s s' isMet reference before found).1
    exact ⟨preserved.both s' after, fun _ _ => after⟩
  case cycle =>
    intro scope stack v s ref target s' reference found _ isMet before
    have after := (preserved.goes scope stack v ref target s s' isMet reference before found).1
    exact ⟨preserved.both s' after, fun _ _ => after⟩
  case target =>
    intro scope stack v s ref target w s' r reference found entering inner isMet before
    obtain ⟨after, enters⟩ := preserved.goes scope stack v ref target s s' isMet reference before found
    exact inner (enters w entering) after
  case noItems =>
    intro scope stack s _ before
    exact ⟨preserved.both s before, fun _ _ => before⟩
  case itemFails =>
    intro scope stack v vs s e s' first each before
    exact ⟨(first (each v (by simp)) before).1, fun out made => by simp at made⟩
  case moreItems =>
    intro scope stack v vs s w s' r first later each before
    have between := (first (each v (by simp)) before).2 w rfl
    obtain ⟨after, goesOn⟩ := later (fun v mem => each v (by simp [mem])) between
    refine ⟨after, fun out made => ?_⟩
    obtain ⟨outs, made', -⟩ := map_ok made
    exact goesOn outs made'
  case noFields =>
    intro scope stack s _ before
    exact ⟨preserved.both s before, fun _ _ => before⟩
  case fieldFails =>
    intro scope stack name v fs s e s' first each before
    exact ⟨(first (each (name, v) (by simp)) before).1, fun out made => by simp at made⟩
  case moreFields =>
    intro scope stack name v fs s w s' r first later each before
    have between := (first (each (name, v) (by simp)) before).2 w rfl
    obtain ⟨after, goesOn⟩ := later (fun f mem => each f (by simp [mem])) between
    refine ⟨after, fun out made => ?_⟩
    obtain ⟨outs, made', -⟩ := map_ok made
    exact goesOn outs made'

theorem next (preserved : Preserved fetch met P Q) {m m' : Moment σ} (next : Next fetch m m')
    (isMet : met m.scope m.stack m.value) (before : P m.memory) : met m'.scope m'.stack m'.value ∧ P m'.memory := by
  cases next with
  | @item scope stack done rest outs w _ _ ran =>
    have each : ∀ v ∈ done ++ w :: rest, met scope stack v := fun v mem => preserved.item scope stack _ v isMet mem
    have items := @Course.items_hold _ _ _ _ _ preserved.course scope stack _
      (fun _ _ _ run => preserved.course.holds run) _ _ _ ran
    exact ⟨each w (by simp), (items (fun v mem => each v (by simp [mem])) before).2 outs rfl⟩
  | @field scope stack done rest outs name w _ _ plain ran =>
    have each : ∀ f ∈ done ++ (name, w) :: rest, met scope stack f.2 := fun f mem =>
      preserved.field scope stack _ f.1 f.2 plain isMet mem
    have fields := @Course.fields_hold _ _ _ _ _ preserved.course scope stack _
      (fun _ _ _ run => preserved.course.holds run) _ _ _ ran
    exact ⟨each (name, w) (by simp), (fields (fun f mem => each f (by simp [mem])) before).2 outs rfl⟩
  | target reference found entering =>
    obtain ⟨after, enters⟩ := preserved.goes _ _ _ _ _ _ _ isMet reference before found
    exact ⟨enters _ entering, after⟩

theorem reached (preserved : Preserved fetch met P Q) {start m : Moment σ} (reached : Reached fetch start m)
    (isMet : met start.scope start.stack start.value) (before : P start.memory) :
    met m.scope m.stack m.value ∧ P m.memory := by
  induction reached with
  | refl => exact ⟨isMet, before⟩
  | tail _ next ih => exact preserved.next next ih.1 ih.2

end Preserved

/- At most one document is asked for on the way to a target. -/
theorem target_scope_memory {fetch : Fetch σ} {scope : Scope} {ref : Text} {r : Reference} {result : Except Error Scope}
    {s s' : σ} (found : targetScope fetch scope ref r s = (result, s')) :
    s' = s ∨ ∃ u, documentUrl scope ref r = .ok u ∧ s' = (fetch u s).2 := by
  unfold targetScope at found
  split at found
  · cases found
    exact Or.inl rfl
  · split at found
    · cases found
      exact Or.inl rfl
    · rename_i u url
      cases found
      exact Or.inr ⟨u, url, rfl⟩

theorem target_scope_until {fetch : Fetch σ} {P Q : σ → Prop}
    (goes : ∀ u s doc s', P s → fetch u s = (.ok doc, s') → P s')
    (stops : ∀ u s e s', P s → fetch u s = (.error e, s') → Q s') (both : ∀ s, P s → Q s) {scope : Scope} {ref : Text}
    {r : Reference} {result : Except Error Scope} {s s' : σ} (found : targetScope fetch scope ref r s = (result, s'))
    (before : P s) : Q s' ∧ ∀ target, result = .ok target → P s' := by
  unfold targetScope at found
  split at found
  · cases found
    exact ⟨both s before, fun _ _ => before⟩
  · split at found
    · cases found
      exact ⟨both s before, fun _ _ => before⟩
    · rename_i u _
      cases fetched : fetch u s with
      | mk got s₁ =>
        rw [fetched] at found
        cases got with
        | error e =>
          cases found
          exact ⟨stops u s e s₁ before fetched, fun target same => by simp [Except.map] at same⟩
        | ok doc =>
          cases found
          have after := goes u s doc s₁ before fetched
          exact ⟨both s₁ after, fun _ _ => after⟩

theorem preserved_always {fetch : Fetch σ} {P Q : σ → Prop} (goes : ∀ u s doc s', P s → fetch u s = (.ok doc, s') → P s')
    (stops : ∀ u s e s', P s → fetch u s = (.error e, s') → Q s') (both : ∀ s, P s → Q s) :
    Preserved fetch (fun _ _ _ => True) P Q where
  both := both
  item := fun _ _ _ _ _ _ => trivial
  field := fun _ _ _ _ _ _ _ _ => trivial
  goes := fun _ _ _ _ target _ _ _ _ before found =>
    ⟨(target_scope_until goes stops both found before).2 target rfl, fun _ _ => trivial⟩
  stops := fun _ _ _ _ _ _ _ _ _ before found => (target_scope_until goes stops both found before).1

theorem target_scope_keeps {fetch : Fetch} {P : Session → Prop} (keeps : ∀ u s, P s → P (fetch u s).2) {scope : Scope}
    {ref : Text} {r : Reference} {result : Except Error Scope} {s s' : Session}
    (found : targetScope fetch scope ref r s = (result, s')) (before : P s) : P s' :=
  (target_scope_until (Q := P) (fun u s _ _ holds fetched => by simpa [fetched] using keeps u s holds)
    (fun u s _ _ holds fetched => by simpa [fetched] using keeps u s holds) (fun _ holds => holds) found before).1

theorem expand_keeps {fetch : Fetch} {P : Session → Prop} (keeps : ∀ u s, P s → P (fetch u s).2) {scope : Scope}
    {stack : List Key} {v : Json} {s : Session} {r : Result Json} (run : expand fetch scope stack v s = some r)
    (before : P s) : P r.2 :=
  ((preserved_always (Q := P) (fun u s _ _ holds fetched => by simpa [fetched] using keeps u s holds)
    (fun u s _ _ holds fetched => by simpa [fetched] using keeps u s holds) fun _ holds => holds).course.holds run trivial
      before).1

/-! ### Sessions grow -/

def Extends (s s' : Session) : Prop := ∀ u doc, documentOf s u = some doc → documentOf s' u = some doc

theorem Extends.refl (s : Session) : Extends s s := fun _ _ has => has

theorem Extends.trans {s s' s'' : Session} (first : Extends s s') (second : Extends s' s'') : Extends s s'' :=
  fun u doc has => second u doc (first u doc has)

theorem load_once_extends (load : Url → Except LoadError Json) (u : Url) (s : Session) :
    Extends s (loadOnce load u s).2 := by
  rcases load_once_cases load u s with ⟨doc, -, eq⟩ | ⟨doc, new, -, eq⟩ | ⟨e, -, -, eq⟩
  · rw [eq]
    exact Extends.refl s
  · rw [eq]
    intro u' doc' has
    have other : u.text ≠ u'.text := by
      intro same
      rw [documentOf, same] at new
      rw [documentOf, new] at has
      simp at has
    rw [document_of_cons, if_neg other]
    exact has
  · rw [eq]
    exact Extends.refl s

theorem target_scope_extends {load : Url → Except LoadError Json} {scope : Scope} {ref : Text} {s s' : Session}
    {r : Except Error Scope} (found : targetScope (loadOnce load) scope ref (.ofText ref) s = (r, s')) : Extends s s' :=
  target_scope_keeps (P := Extends s) (fun u s₁ before => before.trans (load_once_extends load u s₁)) found (Extends.refl s)

/-! ### Where documents come from -/

/-- A document stands at a URL: it is loaded from a URL of that text, or is the one to start from and has that URL. -/
def Stands (env : Environment) (root : Scope) (u : Url) (doc : Json) : Prop :=
  (∃ u', u'.text = u.text ∧ env.load u' = .ok doc) ∨ ∃ base, root.base = some base ∧ base.text = u.text ∧ doc = root.root

def Genuine (env : Environment) (root : Scope) (session : Session) : Prop :=
  ∀ u doc, documentOf session u = some doc → Stands env root u doc

/-- The URL that a document was loaded from is good, unless it is the one to start from. -/
def StandsWithin (env : Environment) (root : Scope) (good : Url → Prop) (u : Url) (doc : Json) : Prop :=
  (∃ u', good u' ∧ u'.text = u.text ∧ env.load u' = .ok doc) ∨
    ∃ base, root.base = some base ∧ base.text = u.text ∧ doc = root.root

def GenuineWithin (env : Environment) (root : Scope) (good : Url → Prop) (session : Session) : Prop :=
  ∀ u doc, documentOf session u = some doc → StandsWithin env root good u doc

theorem load_once_within {env : Environment} {root : Scope} {good : Url → Prop} {u : Url} (isGood : good u) {s : Session}
    (genuine : GenuineWithin env root good s) : GenuineWithin env root good (loadOnce env.load u s).2 := by
  rcases load_once_cases env.load u s with ⟨doc, -, eq⟩ | ⟨doc, -, loaded, eq⟩ | ⟨e, -, -, eq⟩
  · rw [eq]
    exact genuine
  · rw [eq]
    intro u' doc' has
    rw [document_of_cons] at has
    split at has
    · rename_i same
      cases has
      exact Or.inl ⟨u, isGood, same, loaded⟩
    · exact genuine u' doc' has
  · rw [eq]
    exact genuine

theorem genuine_iff_within {env : Environment} {root : Scope} {s : Session} :
    Genuine env root s ↔ GenuineWithin env root (fun _ => True) s := by
  simp [Genuine, GenuineWithin, Stands, StandsWithin]

theorem load_once_genuine {env : Environment} {root : Scope} (u : Url) {s : Session} (genuine : Genuine env root s) :
    Genuine env root (loadOnce env.load u s).2 :=
  genuine_iff_within.mpr (load_once_within trivial (genuine_iff_within.mp genuine))

theorem expand_genuine {env : Environment} {root scope : Scope} {stack : List Key} {v : Json} {s : Session}
    {r : Result Json} (run : expand (loadOnce env.load) scope stack v s = some r) (genuine : Genuine env root s) :
    Genuine env root r.2 :=
  expand_keeps (P := Genuine env root) (fun u _ before => load_once_genuine u before) run genuine

/-- How a source is opened. The document to start from is in the session exactly if it has a URL. -/
theorem open_source_cases {env : Environment} {source : Source} {root : Scope} {s : Session}
    (opened : openSource env source = (.ok root, s)) :
    (∃ v, source = .value v ∧ root = ⟨v, none⟩ ∧ s = []) ∨
    ∃ u doc, root = ⟨doc, some u⟩ ∧ s = [(key u.text, doc)] ∧
      ((∃ p, source = .path p ∧ env.urlOf p = u ∧ env.read p = .ok doc) ∨
        ∃ raw, source = .url raw ∧ Url.parse? raw = some u ∧ env.load u = .ok doc) := by
  cases source with
  | path p =>
    cases read : env.read p with
    | ok doc =>
      rw [open_file read] at opened
      cases opened
      exact Or.inr ⟨_, doc, rfl, rfl, Or.inl ⟨p, rfl, rfl, read⟩⟩
    | error e => simp [openSource, Memory.openSource, Environment.reader, read] at opened
  | value v =>
    cases opened
    exact Or.inl ⟨v, rfl, rfl, rfl⟩
  | url raw =>
    cases parsed : Url.parse? raw with
    | none => simp [openSource, Memory.openSource, parsed] at opened
    | some u =>
      cases loaded : env.load u with
      | ok doc =>
        rw [open_url parsed loaded] at opened
        cases opened
        exact Or.inr ⟨u, doc, rfl, rfl, Or.inr ⟨raw, rfl, parsed, loaded⟩⟩
      | error e =>
        have fetched : Session.memory.fetch env.reader.load u [] = _ := load_once_failed (s := []) rfl loaded
        simp [openSource, Memory.openSource, parsed, fetched, Except.map] at opened

theorem nothing_read (u : Url) : documentOf [] u = none := rfl

theorem one_read {u u' : Url} {doc doc' : Json} (has : documentOf [(key u.text, doc)] u' = some doc') :
    u.text = u'.text ∧ doc = doc' := by
  rw [document_of_cons] at has
  split at has
  · rename_i same
    exact ⟨same, Option.some.inj has⟩
  · simp [nothing_read] at has

theorem open_source_within {env : Environment} {source : Source} {root : Scope} {s : Session} {good : Url → Prop}
    (opened : openSource env source = (.ok root, s)) : GenuineWithin env root good s := by
  rcases open_source_cases opened with ⟨v, -, -, rfl⟩ | ⟨u, doc, rfl, rfl, -⟩
  · intro u doc has
    simp [nothing_read] at has
  · intro u' doc' has
    obtain ⟨same, rfl⟩ := one_read has
    exact Or.inr ⟨u, rfl, same, rfl⟩

theorem open_source_genuine {env : Environment} {source : Source} {root : Scope} {s : Session}
    (opened : openSource env source = (.ok root, s)) : Genuine env root s :=
  genuine_iff_within.mpr (open_source_within opened)

/-! ### What a reference designates -/

def designated? (docs : Url → Option Json) (scope : Scope) (ref : Text) : Option Scope :=
  match (Reference.ofText ref).kind with
  | .inside => some scope
  | _ =>
    match documentUrl scope ref (.ofText ref) with
    | .error _ => none
    | .ok u => (docs u).map fun doc => ⟨doc, some u⟩

theorem designated_iff {docs : Url → Option Json} {scope target : Scope} {ref : Text} :
    designated? docs scope ref = some target ↔
      ((Reference.ofText ref).kind = .inside ∧ scope = target) ∨
      ((Reference.ofText ref).kind ≠ .inside ∧ ∃ u doc, documentUrl scope ref (.ofText ref) = .ok u ∧
        docs u = some doc ∧ ⟨doc, some u⟩ = target) := by
  unfold designated?
  cases kind : (Reference.ofText ref).kind with
  | inside => simp
  | relative | remote => cases documentUrl scope ref (.ofText ref) <;> simp

theorem designated_extends {s s' : Session} (more : Extends s s') {scope target : Scope} {ref : Text}
    (found : designated? (documentOf s) scope ref = some target) : designated? (documentOf s') scope ref = some target := by
  rw [designated_iff] at found ⊢
  rcases found with inside | ⟨outside, u, doc, url, has, made⟩
  · exact Or.inl inside
  · exact Or.inr ⟨outside, u, doc, url, more u doc has, made⟩

theorem load_once_has {load : Url → Except LoadError Json} {u : Url} {s s' : Session} {doc : Json}
    (loaded : loadOnce load u s = (.ok doc, s')) : documentOf s' u = some doc := by
  rcases load_once_cases load u s with ⟨doc', has, eq⟩ | ⟨doc', -, -, eq⟩ | ⟨e, -, -, eq⟩
  · rw [eq] at loaded
    cases loaded
    exact has
  · rw [eq] at loaded
    cases loaded
    rw [document_of_cons, if_pos rfl]
  · rw [eq] at loaded
    simp at loaded

theorem target_scope_outside {fetch : Fetch} {scope target : Scope} {ref : Text} {s s' : Session}
    (outside : (Reference.ofText ref).kind ≠ .inside)
    (found : targetScope fetch scope ref (.ofText ref) s = (.ok target, s')) :
    ∃ u doc, documentUrl scope ref (.ofText ref) = .ok u ∧ fetch u s = (.ok doc, s') ∧ ⟨doc, some u⟩ = target := by
  unfold targetScope at found
  cases kind : (Reference.ofText ref).kind with
  | inside => exact absurd kind outside
  | relative | remote =>
    simp only [kind] at found
    cases url : documentUrl scope ref (.ofText ref) with
    | error e => simp [url] at found
    | ok u =>
      simp only [url] at found
      cases fetched : fetch u s with
      | mk result s₁ =>
        rw [fetched] at found
        cases result with
        | error e => simp [Prod.map, Except.map] at found
        | ok doc =>
          cases found
          exact ⟨u, doc, rfl, fetched, rfl⟩

theorem target_scope_designates {load : Url → Except LoadError Json} {scope target : Scope} {ref : Text} {s s' : Session}
    (found : targetScope (loadOnce load) scope ref (.ofText ref) s = (.ok target, s')) :
    designated? (documentOf s') scope ref = some target := by
  rw [designated_iff]
  by_cases kind : (Reference.ofText ref).kind = .inside
  · refine Or.inl ⟨kind, ?_⟩
    simp only [targetScope, kind, Prod.mk.injEq, Except.ok.injEq] at found
    exact found.1
  · obtain ⟨u, doc, url, loaded, made⟩ := target_scope_outside kind found
    exact Or.inr ⟨kind, u, doc, url, load_once_has loaded, made⟩

/-! ### Entering a target -/

theorem entered_none {target : Scope} {stack : List Key} {ref : Text} {r : Reference}
    (entering : entered target stack ref r = .ok none) : identity target r ∈ stack := by
  unfold entered at entering
  split at entering
  · rename_i onStack
    simpa using onStack
  · cases found : Pointer.get? r.fragment target.root with
    | none => simp [found] at entering
    | some v => simp [found] at entering

theorem entered_value {target : Scope} {stack : List Key} {ref : Text} {r : Reference} {w : Json}
    (entering : entered target stack ref r = .ok (some w)) :
    identity target r ∉ stack ∧ Pointer.get? r.fragment target.root = some w := by
  unfold entered at entering
  split at entering
  · simp at entering
  · rename_i new
    refine ⟨by simpa using new, ?_⟩
    cases found : Pointer.get? r.fragment target.root with
    | none => simp [found] at entering
    | some v => simpa [found] using entering

/-! ### URLs without a fragment -/

/- The URL of another document is read from the text of the reference, alone or relative to that of the document. -/
theorem document_url_read {scope : Scope} {ref : Text} {u : Url} (url : documentUrl scope ref (.ofText ref) = .ok u) :
    ∃ base, (∀ b, base = some b → scope.base = some b) ∧ Url.read? base (Reference.ofText ref).document = some u := by
  unfold documentUrl at url
  split at url
  · cases read : Url.parse? (Reference.ofText ref).document with
    | none => simp [read] at url
    | some u' =>
      simp only [read, Option.elim_some, Except.ok.injEq] at url
      exact ⟨none, by simp, url ▸ read⟩
  · rename_i b own _
    cases read : b.join? (Reference.ofText ref).document with
    | none => simp [read] at url
    | some u' =>
      simp only [read, Option.elim_some, Except.ok.injEq] at url
      exact ⟨some b, fun b' same => same ▸ own, url ▸ read⟩
  · simp at url

def baseText (scope : Scope) : Text := (scope.base.map Url.text).getD []

theorem reference_document_unmarked (ref : Text) : '#' ∉ (Reference.ofText ref).document :=
  fun mem => (Text.cut_at_lead mem).2 rfl

theorem document_url_unmarked {scope : Scope} {ref : Text} {u : Url} (plain : '#' ∉ baseText scope)
    (url : documentUrl scope ref (.ofText ref) = .ok u) : '#' ∉ u.text := by
  obtain ⟨base, own, read⟩ := document_url_read url
  refine Url.read_unmarked read ?_ (reference_document_unmarked ref)
  intro b isBase
  simpa [baseText, own b isBase] using plain

theorem designated_unmarked {docs : Url → Option Json} {scope target : Scope} {ref : Text}
    (designates : designated? docs scope ref = some target) (plain : '#' ∉ baseText scope) : '#' ∉ baseText target := by
  rcases designated_iff.mp designates with ⟨-, rfl⟩ | ⟨-, u, doc, url, -, rfl⟩
  · exact plain
  · exact document_url_unmarked plain url

/-- Where no URL has a fragment, an identity tells the URL and the fragment of a reference. -/
theorem identity_parts {a b : Scope} {r r' : Reference} (same : identity a r = identity b r') (plain : '#' ∉ baseText a)
    (plain' : '#' ∉ baseText b) : baseText a = baseText b ∧ r.fragment = r'.fragment :=
  Text.append_mark_inj plain plain' (key_eq_iff.mp same)

end ApiTypes.Resolve
