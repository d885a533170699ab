import ApiTypes.Pointer
import ApiTypes.Reference
import ApiTypes.World
/-!
Resolution: a document and all it refers to become one tree. Every object with a text under `$ref` is
replaced by what the reference designates, itself resolved. Where a reference comes back to one that is
just being expanded, the object is kept as a marker of the cycle.
-/
namespace ApiTypes

inductive Source where
  | path (p : Text)
  | value (v : Json)
  | url (raw : Text)

namespace Resolve

inductive Error where
  | load (e : LoadError)
  | badUrl (raw : Text)
  | badReference (ref : Text)
  | noBase (ref : Text)
  | noTarget (ref : Text)
  /-- References lead to other ones and never come to an end. -/
  | endless
deriving DecidableEq, Repr

/-- Where documents come from: those in files, and those at URLs. -/
structure Environment where
  read : Text → Except LoadError Json
  urlOf : Text → Url
  load : Url → Except LoadError Json

/-- A document under resolution and the URL that its relative references start from. -/
structure Scope where
  root : Json
  base : Option Url

/-- A text and its length, by which most texts can be told apart at once. -/
abbrev Key := Nat × Text

def key (t : Text) : Key := (t.length, t)

/-- The documents read so far under the text of their URL, the last one first. -/
abbrev Session := List (Key × Json)

/-- A value or a failure, and what is remembered after it: the session, unless something else is said. -/
abbrev Result (α : Type) (σ : Type := Session) := Except Error α × σ

abbrev Fetch (σ : Type := Session) := Url → σ → Result Json σ

variable {σ : Type}

/-- How documents are read in a run. A reader may leave in the memory what it was asked for. -/
structure Reader (σ : Type) where
  read : Text → σ → Except LoadError Json × σ
  urlOf : Text → Url
  load : Url → σ → Except LoadError Json × σ

structure Memory (σ : Type) where
  kept : Key → σ → Option Json
  keep : Key → Json → σ → σ

/-- Reads a document on first use, as far as the memory keeps those that were read. -/
def Memory.fetch (memory : Memory σ) (load : Url → σ → Except LoadError Json × σ) : Fetch σ := fun u held =>
  match memory.kept (key u.text) held with
  | some doc => (.ok doc, held)
  | none =>
    match load u held with
    | (.ok doc, held) => (.ok doc, memory.keep (key u.text) doc held)
    | (.error e, held) => (.error (.load e), held)

def documentUrl (scope : Scope) (ref : Text) (r : Reference) : Except Error Url :=
  match r.kind, scope.base with
  | .remote, _ => (Url.parse? r.document).elim (.error (.badReference ref)) .ok
  | _, some base => (base.join? r.document).elim (.error (.badReference ref)) .ok
  | _, none => .error (.noBase ref)

def targetScope (fetch : Fetch σ) (scope : Scope) (ref : Text) (r : Reference) (session : σ) : Result Scope σ :=
  match r.kind with
  | .inside => (.ok scope, session)
  | _ =>
    match documentUrl scope ref r with
    | .error e => (.error e, session)
    | .ok u => (fetch u session).map (Except.map fun doc => ⟨doc, some u⟩) id

/-- References with the same identity expand to the same tree. -/
def identity (scope : Scope) (r : Reference) : Key :=
  key (((scope.base.map Url.text).getD []) ++ '#' :: r.fragment)

def entered (target : Scope) (stack : List Key) (ref : Text) (r : Reference) : Except Error (Option Json) :=
  if stack.contains (identity target r) then .ok none
  else (Pointer.get? r.fragment target.root).elim (.error (.noTarget ref)) fun v => .ok (some v)

def refKey : Text := "$ref".toList

def ref? : Json → Option Text
  | .obj fields => Json.textAt? fields refKey
  | _ => none

def marker (ref : Text) : Json := .obj [(refKey, .str ref)]

/-- What becomes of a value in a document, while the references on the stack are being expanded. There is nothing if
that comes to no end. -/
abbrev Walk (σ : Type := Session) := Scope → List Key → Json → σ → Option (Result Json σ)

def walkItems (walk : Json → σ → Option (Result Json σ)) : List Json → σ → Option (Result (List Json) σ)
  | [], session => some (.ok [], session)
  | v :: rest, session => do
    match ← walk v session with
    | (.error e, session) => return (.error e, session)
    | (.ok v, session) =>
      let (rest, session) ← walkItems walk rest session
      return (rest.map (v :: ·), session)

def walkFields (walk : Json → σ → Option (Result Json σ)) : Json.Fields → σ → Option (Result Json.Fields σ)
  | [], session => some (.ok [], session)
  | (name, v) :: rest, session => do
    match ← walk v session with
    | (.error e, session) => return (.error e, session)
    | (.ok v, session) =>
      let (rest, session) ← walkFields walk rest session
      return (rest.map ((name, v) :: ·), session)

/-- Goes on at what a reference designates, or leaves a marker. -/
def follow (fetch : Fetch σ) (walk : Walk σ) (scope : Scope) (stack : List Key) (ref : Text) (session : σ) :
    Option (Result Json σ) :=
  match targetScope fetch scope ref (.ofText ref) session with
  | (.error e, session) => some (.error e, session)
  | (.ok target, session) =>
    match entered target stack ref (.ofText ref) with
    | .error e => some (.error e, session)
    | .ok none => some (.ok (marker ref), session)
    | .ok (some v) => walk target (identity target (.ofText ref) :: stack) v session

/-- One level of an expansion; `walk` is what is done below it. -/
def Walk.step (fetch : Fetch σ) (walk : Walk σ) : Walk σ := fun scope stack v session =>
  match ref? v, v with
  | some ref, _ => follow fetch walk scope stack ref session
  | none, .obj fields => do
    let (fields, session) ← walkFields (walk scope stack) fields session
    return (fields.map .obj, session)
  | none, .arr items => do
    let (items, session) ← walkItems (walk scope stack) items session
    return (items.map .arr, session)
  | none, v => some (.ok v, session)

/-! What has come to an end with one walk does so with another that ends wherever the first one does. -/

theorem walk_items_grow {walk walk' : Json → σ → Option (Result Json σ)}
    (grows : ∀ v s r, walk v s = some r → walk' v s = some r) {items : List Json} {s : σ} {r : Result (List Json) σ}
    (ended : walkItems walk items s = some r) : walkItems walk' items s = some r := by
  induction items generalizing s r with
  | nil => exact ended
  | cons v rest ih =>
    simp only [walkItems, bind, Option.bind_eq_some_iff] at ended ⊢
    obtain ⟨⟨result, s'⟩, first, later⟩ := ended
    refine ⟨(result, s'), grows v s _ first, ?_⟩
    cases result with
    | error e => exact later
    | ok w =>
      simp only [Option.bind_eq_some_iff] at later ⊢
      obtain ⟨inner, ran, made⟩ := later
      exact ⟨inner, ih ran, made⟩

theorem walk_fields_grow {walk walk' : Json → σ → Option (Result Json σ)}
    (grows : ∀ v s r, walk v s = some r → walk' v s = some r) {fields : Json.Fields} {s : σ} {r : Result Json.Fields σ}
    (ended : walkFields walk fields s = some r) : walkFields walk' fields s = some r := by
  induction fields generalizing s r with
  | nil => exact ended
  | cons field rest ih =>
    obtain ⟨name, v⟩ := field
    simp only [walkFields, bind, Option.bind_eq_some_iff] at ended ⊢
    obtain ⟨⟨result, s'⟩, first, later⟩ := ended
    refine ⟨(result, s'), grows v s _ first, ?_⟩
    cases result with
    | error e => exact later
    | ok w =>
      simp only [Option.bind_eq_some_iff] at later ⊢
      obtain ⟨inner, ran, made⟩ := later
      exact ⟨inner, ih ran, made⟩

theorem step_grows (fetch : Fetch σ) {walk walk' : Walk σ}
    (grows : ∀ scope stack v s r, walk scope stack v s = some r → walk' scope stack v s = some r) (scope : Scope)
    (stack : List Key) (v : Json) (s : σ) (r : Result Json σ) (ended : walk.step fetch scope stack v s = some r) :
    walk'.step fetch scope stack v s = some r := by
  unfold Walk.step at ended ⊢
  split at ended
  · unfold follow at ended ⊢
    split at ended
    · exact ended
    · split at ended
      · exact ended
      · exact ended
      · exact grows _ _ _ _ r ended
  · simp only [bind, Option.bind_eq_some_iff] at ended ⊢
    obtain ⟨inner, ran, made⟩ := ended
    exact ⟨inner, walk_fields_grow (grows scope stack) ran, made⟩
  · simp only [bind, Option.bind_eq_some_iff] at ended ⊢
    obtain ⟨inner, ran, made⟩ := ended
    exact ⟨inner, walk_items_grow (grows scope stack) ran, made⟩
  · exact ended

variable (fetch : Fetch σ) in
def expand : Walk σ := expand.step fetch
partial_fixpoint monotonicity by
  intro walk walk' less scope stack v session
  have grows : ∀ scope stack v s r, walk scope stack v s = some r → walk' scope stack v s = some r := by
    intro scope stack v s r ended
    have at_ := less scope stack v s
    rw [ended] at at_
    generalize walk' scope stack v s = out at at_ ⊢
    cases at_
    rfl
  cases ended : walk.step fetch scope stack v session with
  | none =>
    simp only [ended]
    constructor
  | some r =>
    simp only [ended, step_grows fetch grows scope stack v session r ended]
    constructor

/-- The document to start from. A file is taken as read under its URL. -/
def Memory.openSource (memory : Memory σ) (reader : Reader σ) (held : σ) : Source → Result Scope σ
  | .path p =>
    match reader.read p held with
    | (.ok root, held) => (.ok ⟨root, some (reader.urlOf p)⟩, memory.keep (key (reader.urlOf p).text) root held)
    | (.error e, held) => (.error (.load e), held)
  | .value v => (.ok ⟨v, none⟩, held)
  | .url raw =>
    match Url.parse? raw with
    | none => (.error (.badUrl raw), held)
    | some u => (memory.fetch reader.load u held).map (Except.map fun doc => ⟨doc, some u⟩) id

def Memory.run (memory : Memory σ) (reader : Reader σ) (held : σ) (source : Source) : Option (Result Json σ) :=
  match memory.openSource reader held source with
  | (.error e, held) => some (.error e, held)
  | (.ok scope, held) => expand (memory.fetch reader.load) scope [] scope.root held

/-! A run keeps what it reads in its session, and notes nothing else. -/

def Session.memory : Memory Session := ⟨Ordered.get?, fun k doc session => (k, doc) :: session⟩

def Environment.reader (env : Environment) : Reader σ :=
  ⟨fun p held => (env.read p, held), env.urlOf, fun u held => (env.load u, held)⟩

def loadOnce (load : Url → Except LoadError Json) : Fetch := Session.memory.fetch fun u session => (load u, session)

def openSource (env : Environment) (source : Source) : Result Scope := Session.memory.openSource env.reader [] source

def run (env : Environment) (source : Source) : Option (Result Json) := Session.memory.run env.reader [] source

end Resolve

def World.environment (world : World) : Resolve.Environment := ⟨world.readDocument, world.urlOfFile, world.load⟩

def Source.resolveIn (env : Resolve.Environment) (source : Source) : Except Resolve.Error Json :=
  ((Resolve.run env source).map Prod.fst).getD (.error .endless)

def Source.resolve (world : World) (source : Source) : Except Resolve.Error Json := source.resolveIn world.environment

end ApiTypes
