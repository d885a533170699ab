import Mathlib.Data.Finset.Card
import Mathlib.Logic.Relation
import ApiTypes.Proofs.Ordered
import ApiTypes.Proofs.Resolve.Documents
/-!
Resolution comes to an end wherever only finitely many documents can be loaded. A call of the expansion leads to calls
for the parts of a value, and, at a reference, to a call for what the reference designates, with one more identity on
the stack. There are only finitely many identities, and none is ever on the stack twice.
-/
namespace ApiTypes.Resolve

/-! ### The references of a document -/

mutual

def refsIn : Json → List Text
  | .obj fields => (ref? (.obj fields)).toList ++ refsInFields fields
  | .arr items => refsInItems items
  | _ => []

def refsInItems : List Json → List Text
  | [] => []
  | v :: rest => refsIn v ++ refsInItems rest

def refsInFields : Json.Fields → List Text
  | [] => []
  | (_, v) :: rest => refsIn v ++ refsInFields rest

end

theorem own_ref_in {v : Json} {ref : Text} (reference : ref? v = some ref) : ref ∈ refsIn v := by
  cases v with
  | obj fields => simp [refsIn, reference]
  | _ => simp [ref?] at reference

theorem refs_of_item {items : List Json} {w : Json} (mem : w ∈ items) : refsIn w ⊆ refsInItems items := by
  induction items with
  | nil => simp at mem
  | cons v rest ih =>
    intro ref inside
    rw [refsInItems, List.mem_append]
    rcases List.mem_cons.mp mem with rfl | later
    · exact Or.inl inside
    · exact Or.inr (ih later inside)

theorem refs_of_field {fields : Json.Fields} {name : Text} {w : Json} (mem : (name, w) ∈ fields) :
    refsIn w ⊆ refsInFields fields := by
  induction fields with
  | nil => simp at mem
  | cons field rest ih =>
    obtain ⟨name', v⟩ := field
    intro ref inside
    rw [refsInFields, List.mem_append]
    rcases List.mem_cons.mp mem with first | later
    · cases first
      exact Or.inl inside
    · exact Or.inr (ih later inside)

theorem refs_of_object (fields : Json.Fields) : refsInFields fields ⊆ refsIn (.obj fields) := by
  intro ref inside
  rw [refsIn, List.mem_append]
  exact Or.inr inside

theorem refs_of_child {step : Text} {v w : Json} (child : Pointer.child? step v = some w) : refsIn w ⊆ refsIn v := by
  cases v with
  | obj fields =>
    have mem := Ordered.get_mem child
    exact List.Subset.trans (refs_of_field mem) (refs_of_object fields)
  | arr items =>
    obtain ⟨i, -, at_⟩ := Option.bind_eq_some_iff.mp child
    exact refs_of_item (List.mem_of_getElem? at_)
  | _ => simp [Pointer.child?] at child

theorem refs_of_walk {steps : List Text} {v w : Json} (walk : Pointer.walk? steps v = some w) :
    refsIn w ⊆ refsIn v := by
  induction steps generalizing v with
  | nil =>
    cases walk
    exact List.Subset.refl _
  | cons step steps ih =>
    obtain ⟨u, child, later⟩ := Option.bind_eq_some_iff.mp walk
    exact List.Subset.trans (ih later) (refs_of_child child)

theorem refs_of_target {fragment : Text} {root v : Json} (found : Pointer.get? fragment root = some v) :
    refsIn v ⊆ refsIn root :=
  refs_of_walk found

/-! ### Where an expansion ends -/

section Ends

variable {σ : Type} {fetch : Fetch σ}

def Moment.Ends (fetch : Fetch σ) (m : Moment σ) : Prop := ∃ r, expand fetch m.scope m.stack m.value m.memory = some r

/- Each item is expanded with what is remembered after those before it. -/
theorem items_end {scope : Scope} {stack : List Key} {items : List Json} {s : σ}
    (each : ∀ done w rest outs s', items = done ++ w :: rest →
      walkItems (expand fetch scope stack) done s = some (.ok outs, s') → Moment.Ends fetch ⟨scope, stack, w, s'⟩) :
    ∃ r, walkItems (expand fetch scope stack) items s = some r := by
  induction items generalizing s with
  | nil => exact ⟨_, rfl⟩
  | cons v rest ih =>
    obtain ⟨⟨result, s'⟩, first⟩ := each [] v rest [] s rfl rfl
    cases result with
    | error e => exact ⟨_, walk_items_fails rest first⟩
    | ok w =>
      have later : ∃ r, walkItems (expand fetch scope stack) rest s' = some r := by
        apply ih
        intro done v' rest' outs s'' split ran
        refine each (v :: done) v' rest' (w :: outs) s'' (by rw [split, List.cons_append]) ?_
        rw [walk_items_cons done first, ran]
        rfl
      obtain ⟨r, ran⟩ := later
      rw [walk_items_cons rest first, ran]
      exact ⟨_, rfl⟩

theorem fields_end {scope : Scope} {stack : List Key} {fields : Json.Fields} {s : σ}
    (each : ∀ done name w rest outs s', fields = done ++ (name, w) :: rest →
      walkFields (expand fetch scope stack) done s = some (.ok outs, s') → Moment.Ends fetch ⟨scope, stack, w, s'⟩) :
    ∃ r, walkFields (expand fetch scope stack) fields s = some r := by
  induction fields generalizing s with
  | nil => exact ⟨_, rfl⟩
  | cons field rest ih =>
    obtain ⟨name, v⟩ := field
    obtain ⟨⟨result, s'⟩, first⟩ := each [] name v rest [] s rfl rfl
    cases result with
    | error e => exact ⟨_, walk_fields_fails name rest first⟩
    | ok w =>
      have later : ∃ r, walkFields (expand fetch scope stack) rest s' = some r := by
        apply ih
        intro done name' v' rest' outs s'' split ran
        refine each ((name, v) :: done) name' v' rest' ((name, w) :: outs) s'' (by rw [split, List.cons_append]) ?_
        rw [walk_fields_cons name done first, ran]
        rfl
      obtain ⟨r, ran⟩ := later
      rw [walk_fields_cons name rest first, ran]
      exact ⟨_, rfl⟩

/- A reference that is followed leads to one moment, and all else that can become of it ends at once. -/
theorem reference_ends {m : Moment σ} {ref : Text} (reference : ref? m.value = some ref)
    (each : ∀ m', Next fetch m m' → m'.Ends fetch) : m.Ends fetch := by
  obtain ⟨scope, stack, v, s⟩ := m
  cases found : targetScope fetch scope ref (.ofText ref) s with
  | mk result s' =>
    cases result with
    | error e => exact ⟨_, expand_astray stack reference found⟩
    | ok target =>
      cases entering : entered target stack ref (.ofText ref) with
      | error e => exact ⟨_, expand_missing reference found entering⟩
      | ok next =>
        cases next with
        | none => exact ⟨_, expand_cycle reference found entering⟩
        | some w =>
          obtain ⟨r, ran⟩ := each _ (.target reference found entering)
          exact ⟨r, (expand_target reference found entering).trans ran⟩

theorem ends_of_next {m : Moment σ} (each : ∀ m', Next fetch m m' → m'.Ends fetch) : m.Ends fetch := by
  cases reference : ref? m.value with
  | some ref => exact reference_ends reference each
  | none =>
    obtain ⟨scope, stack, v, s⟩ := m
    cases v with
    | arr items =>
      have ended : ∃ r, walkItems (expand fetch scope stack) items s = some r :=
        items_end fun done w rest outs s' split ran => each ⟨scope, stack, w, s'⟩ (split ▸ .item ran)
      obtain ⟨r, ran⟩ := ended
      simp only [Moment.Ends, expand_array, ran, Option.map_some]
      exact ⟨_, rfl⟩
    | obj fields =>
      have ended : ∃ r, walkFields (expand fetch scope stack) fields s = some r :=
        fields_end fun done name w rest outs s' split ran =>
          each ⟨scope, stack, w, s'⟩ (by subst split; exact .field reference ran)
      obtain ⟨r, ran⟩ := ended
      simp only [Moment.Ends, expand_object _ _ _ _ reference, ran, Option.map_some]
      exact ⟨_, rfl⟩
    | _ => exact ⟨_, expand_scalar _ _ _ _ rfl⟩

end Ends

/-! ### Calls -/

structure Call where
  scope : Scope
  stack : List Key
  value : Json

def Moment.call {σ : Type} (m : Moment σ) : Call := ⟨m.scope, m.stack, m.value⟩

def Designates (stands : Url → Json → Prop) (scope : Scope) (ref : Text) (target : Scope) : Prop :=
  ∃ docs, (∀ u doc, docs u = some doc → stands u doc) ∧ designated? docs scope ref = some target

/-- The calls that a call leads to, wherever the documents come from. -/
inductive CallsAmong (stands : Url → Json → Prop) : Call → Call → Prop where
  | item {scope : Scope} {stack : List Key} {items : List Json} {w : Json} :
      w ∈ items → CallsAmong stands ⟨scope, stack, .arr items⟩ ⟨scope, stack, w⟩
  | field {scope : Scope} {stack : List Key} {fields : Json.Fields} {name : Text} {w : Json} :
      ref? (.obj fields) = none → (name, w) ∈ fields →
      CallsAmong stands ⟨scope, stack, .obj fields⟩ ⟨scope, stack, w⟩
  | target {scope target : Scope} {stack : List Key} {v w : Json} {ref : Text} :
      ref? v = some ref → Designates stands scope ref target → identity target (.ofText ref) ∉ stack →
      Pointer.get? (Reference.ofText ref).fragment target.root = some w →
      CallsAmong stands ⟨scope, stack, v⟩ ⟨target, identity target (.ofText ref) :: stack, w⟩

abbrev Calls (env : Environment) (root : Scope) : Call → Call → Prop := CallsAmong (Stands env root)

/- A moment leads to the next one as the calls do, if the session has nothing but what stands somewhere. -/
theorem next_call {stands : Url → Json → Prop} {load : Url → Except LoadError Json} {m m' : Moment Session}
    (next : Next (loadOnce load) m m') (standing : ∀ u doc, documentOf m'.memory u = some doc → stands u doc) :
    CallsAmong stands m.call m'.call := by
  cases next with
  | item _ => exact .item (by simp)
  | @field _ _ done rest _ name w _ _ plain _ =>
    have mem : (name, w) ∈ done ++ (name, w) :: rest := by simp
    exact .field plain mem
  | target reference found entering =>
    obtain ⟨new, there⟩ := entered_value entering
    exact .target reference ⟨_, standing, target_scope_designates found⟩ new there

/-! ### Identities -/

def identitiesOf (texts refs : List Text) : Finset Key :=
  (texts.flatMap fun base => refs.map fun ref => key (base ++ '#' :: (Reference.ofText ref).fragment)).toFinset

/-- The texts of the URLs that a document may have, if no others than those in `loadable` can be loaded. -/
def bases (root : Scope) (loadable : List Url) : List Text := baseText root :: loadable.map Url.text

def documents (env : Environment) (root : Scope) (loadable : List Url) : List Json :=
  root.root :: loadable.filterMap fun u => (env.load u).toOption

def references (env : Environment) (root : Scope) (loadable : List Url) : List Text :=
  (documents env root loadable).flatMap refsIn

def identities (env : Environment) (root : Scope) (loadable : List Url) : Finset Key :=
  identitiesOf (bases root loadable) (references env root loadable)

mutual

def size : Json → Nat
  | .obj fields => fieldsSize fields + 1
  | .arr items => itemsSize items + 1
  | _ => 1

def itemsSize : List Json → Nat
  | [] => 0
  | v :: rest => size v + itemsSize rest

def fieldsSize : Json.Fields → Nat
  | [] => 0
  | (_, v) :: rest => size v + fieldsSize rest

end

theorem item_size {items : List Json} {w : Json} (mem : w ∈ items) : size w ≤ itemsSize items := by
  induction items with
  | nil => simp at mem
  | cons v rest ih =>
    rw [itemsSize]
    rcases List.mem_cons.mp mem with rfl | later
    · omega
    · have := ih later
      omega

theorem field_size {fields : Json.Fields} {name : Text} {w : Json} (mem : (name, w) ∈ fields) :
    size w ≤ fieldsSize fields := by
  induction fields with
  | nil => simp at mem
  | cons field rest ih =>
    obtain ⟨name', v⟩ := field
    rw [fieldsSize]
    rcases List.mem_cons.mp mem with first | later
    · cases first
      omega
    · have := ih later
      omega

/-- The number of identities that are not yet on the stack, then the size of the value. -/
def Call.measure (ids : Finset Key) (c : Call) : Nat × Nat := ((ids \ c.stack.toFinset).card, size c.value)

/-! ### Within finitely many documents -/

/-- References lead from URLs that are good to such ones, and the documents there have finitely many URLs and references. -/
structure Confined (good : Url → Prop) (stands : Url → Json → Prop) (texts refs : List Text) : Prop where
  closed : ∀ scope ref u, (∀ base, scope.base = some base → good base) → ref ∈ refs →
    documentUrl scope ref (.ofText ref) = .ok u → good u
  finite : ∀ u doc, good u → stands u doc → u.text ∈ texts ∧ refsIn doc ⊆ refs

structure Known (good : Url → Prop) (texts refs : List Text) (c : Call) : Prop where
  url : ∀ base, c.scope.base = some base → good base
  base : baseText c.scope ∈ texts
  document : refsIn c.scope.root ⊆ refs
  value : refsIn c.value ⊆ refs

section Confined

variable {good : Url → Prop} {stands : Url → Json → Prop} {texts refs : List Text}

theorem designates_known (confined : Confined good stands texts refs) {scope target : Scope} {ref : Text}
    (designates : Designates stands scope ref target) (mem : ref ∈ refs)
    (known : Known good texts refs ⟨scope, [], scope.root⟩) : Known good texts refs ⟨target, [], target.root⟩ := by
  obtain ⟨docs, standing, found⟩ := designates
  rcases designated_iff.mp found with ⟨-, rfl⟩ | ⟨-, u, doc, url, has, rfl⟩
  · exact known
  · have isGood := confined.closed scope ref u known.url mem url
    obtain ⟨base, inside⟩ := confined.finite u doc isGood (standing u doc has)
    refine ⟨?_, base, inside, inside⟩
    rintro _ ⟨⟩
    exact isGood

theorem calls_known (confined : Confined good stands texts refs) {c c' : Call} (known : Known good texts refs c)
    (call : CallsAmong stands c c') : Known good texts refs c' := by
  obtain ⟨url, base, document, value⟩ := known
  cases call with
  | item mem => exact ⟨url, base, document, List.Subset.trans (refs_of_item mem) value⟩
  | field _ mem =>
    exact ⟨url, base, document, List.Subset.trans (List.Subset.trans (refs_of_field mem) (refs_of_object _)) value⟩
  | target reference designates _ there =>
    have mem := value (own_ref_in reference)
    obtain ⟨url', base', document', -⟩ := designates_known confined designates mem ⟨url, base, document, document⟩
    exact ⟨url', base', document', List.Subset.trans (refs_of_target there) document'⟩

theorem identity_listed {target : Scope} {ref : Text} (base : baseText target ∈ texts) (mem : ref ∈ refs) :
    identity target (.ofText ref) ∈ identitiesOf texts refs := by
  rw [identitiesOf, List.mem_toFinset, List.mem_flatMap]
  exact ⟨baseText target, base, List.mem_map.mpr ⟨ref, mem, rfl⟩⟩

theorem fewer_left {ids : Finset Key} {id : Key} {stack : List Key} (listed : id ∈ ids) (new : id ∉ stack) :
    (ids \ (id :: stack).toFinset).card < (ids \ stack.toFinset).card := by
  apply Finset.card_lt_card
  rw [Finset.ssubset_iff_of_subset]
  · exact ⟨id, by simp [listed, new], by simp⟩
  · intro other mem
    simp only [List.toFinset_cons, Finset.mem_sdiff, Finset.mem_insert, not_or] at mem
    rw [Finset.mem_sdiff]
    exact ⟨mem.1, mem.2.2⟩

/-- Every call that a known call leads to is smaller. -/
theorem calls_decrease (confined : Confined good stands texts refs) {c c' : Call} (known : Known good texts refs c)
    (call : CallsAmong stands c c') :
    Prod.Lex (· < ·) (· < ·) (c'.measure (identitiesOf texts refs)) (c.measure (identitiesOf texts refs)) := by
  cases call with
  | item mem =>
    have smaller := item_size mem
    apply Prod.Lex.right
    simp only [size]
    omega
  | field _ mem =>
    have smaller := field_size mem
    apply Prod.Lex.right
    simp only [size]
    omega
  | target reference designates new _ =>
    have mem := known.value (own_ref_in reference)
    have next := designates_known confined designates mem ⟨known.url, known.base, known.document, known.document⟩
    exact Prod.Lex.left _ _ (fewer_left (identity_listed next.base mem) new)

variable {env : Environment} {root : Scope}

theorem within_preserved (confined : Confined good (StandsWithin env root good) texts refs) :
    Preserved (loadOnce env.load) (fun scope stack v => Known good texts refs ⟨scope, stack, v⟩)
      (GenuineWithin env root good) fun _ => True where
  both := fun _ _ => trivial
  item := fun _ _ _ _ known mem => calls_known confined known (.item mem)
  field := fun _ _ _ _ _ plain known mem => calls_known confined known (.field plain mem)
  goes := by
    intro scope stack v ref target s s' known reference genuine found
    have after : GenuineWithin env root good s' := by
      rcases target_scope_memory found with rfl | ⟨u, url, rfl⟩
      · exact genuine
      · exact load_once_within (confined.closed scope ref u known.url (known.value (own_ref_in reference)) url) genuine
    refine ⟨after, fun w entering => ?_⟩
    obtain ⟨new, there⟩ := entered_value entering
    exact calls_known confined known (.target reference ⟨_, after, target_scope_designates found⟩ new there)
  stops := fun _ _ _ _ _ _ _ _ _ _ _ => trivial

/- The recursion goes the way of the moments, and the measure is what makes it one. -/
theorem known_moment_ends (confined : Confined good (StandsWithin env root good) texts refs) (m : Moment Session)
    (known : Known good texts refs m.call) (genuine : GenuineWithin env root good m.memory) :
    m.Ends (loadOnce env.load) :=
  ends_of_next fun m' next =>
    have after := (within_preserved confined).next next known genuine
    known_moment_ends confined m' after.1 after.2
termination_by m.call.measure (identitiesOf texts refs)
decreasing_by exact calls_decrease confined known (next_call next after.2)

/-- A run ends if there are finitely many documents that references lead to from the one to start from. Which URLs are
good is for the caller to say; it may leave out those that no reference leads to, whether or not they can be loaded. -/
theorem confined_run_ends (good : Url → Prop) (texts : List Text) (refs : List Text) {source : Source}
    (closed : ∀ scope ref u, (∀ base, scope.base = some base → good base) → ref ∈ refs →
      documentUrl scope ref (.ofText ref) = .ok u → good u)
    (finite : ∀ u doc, good u → env.load u = .ok doc → u.text ∈ texts ∧ refsIn doc ⊆ refs)
    (start : ∀ root s, openSource env source = (.ok root, s) → Known good texts refs ⟨root, [], root.root⟩) :
    ∃ result session, run env source = some (result, session) ∧ source.resolveIn env = result := by
  have ended : ∃ r, run env source = some r := by
    cases opened : openSource env source with
    | mk result s =>
      cases result with
      | error e => exact ⟨_, run_unopened opened⟩
      | ok root =>
        have known := start root s opened
        have confined : Confined good (StandsWithin env root good) texts refs := by
          refine ⟨closed, ?_⟩
          rintro u doc - (⟨u', isGood, same, loaded⟩ | ⟨base, own, same, rfl⟩)
          · exact same ▸ finite u' doc isGood loaded
          · exact ⟨by simpa [baseText, own, same] using known.base, known.document⟩
        rw [run_opened opened]
        exact known_moment_ends confined ⟨root, [], root.root, s⟩ known (open_source_within opened)
  obtain ⟨⟨result, session⟩, ran⟩ := ended
  exact ⟨result, session, ran, by simp [Source.resolveIn, ran]⟩

end Confined

section Loadable

variable {env : Environment} {root : Scope} {loadable : List Url}

theorem refs_of_document {doc : Json} (mem : doc ∈ documents env root loadable) :
    refsIn doc ⊆ references env root loadable := by
  intro ref inside
  exact List.mem_flatMap.mpr ⟨doc, mem, inside⟩

theorem loaded_known (finite : ∀ u doc, env.load u = .ok doc → u ∈ loadable) {u : Url} {doc : Json}
    (loaded : env.load u = .ok doc) : u.text ∈ bases root loadable ∧ refsIn doc ⊆ references env root loadable := by
  have mem := finite u doc loaded
  refine ⟨List.mem_cons_of_mem _ (List.mem_map_of_mem mem), refs_of_document (List.mem_cons_of_mem _ ?_)⟩
  exact List.mem_filterMap.mpr ⟨u, mem, by rw [loaded]; rfl⟩

theorem start_known : Known (fun _ => True) (bases root loadable) (references env root loadable) ⟨root, [], root.root⟩ := by
  have refs : refsIn root.root ⊆ references env root loadable := refs_of_document (by simp [documents])
  exact ⟨fun _ _ => trivial, by simp [bases], refs, refs⟩

theorem loadable_confined (finite : ∀ u doc, env.load u = .ok doc → u ∈ loadable) :
    Confined (fun _ => True) (Stands env root) (bases root loadable) (references env root loadable) := by
  refine ⟨fun _ _ _ _ _ _ => trivial, ?_⟩
  rintro u doc - (⟨u', same, loaded⟩ | ⟨base, own, same, rfl⟩)
  · exact same ▸ loaded_known finite loaded
  · exact ⟨by simp [bases, baseText, own, same], start_known.document⟩

theorem reached_known (finite : ∀ u doc, env.load u = .ok doc → u ∈ loadable) {c : Call}
    (reached : Relation.ReflTransGen (Calls env root) ⟨root, [], root.root⟩ c) :
    Known (fun _ => True) (bases root loadable) (references env root loadable) c := by
  induction reached with
  | refl => exact start_known
  | tail _ call ih => exact calls_known (loadable_confined finite) ih call

end Loadable

/-- Wherever only finitely many documents can be loaded, the resolution of every source ends, with a tree or with an
error. In all that is called on the way the number of identities that are not yet on the stack falls, or it stays and
the value gets smaller. -/
theorem resolution_ends (env : Environment) (source : Source) (loadable : List Url)
    (finite : ∀ u doc, env.load u = .ok doc → u ∈ loadable) :
    (∃ result session, run env source = some (result, session) ∧ source.resolveIn env = result) ∧
    ∀ root session, openSource env source = (.ok root, session) →
      ∀ c c', Relation.ReflTransGen (Calls env root) ⟨root, [], root.root⟩ c → Calls env root c c' →
        Prod.Lex (· < ·) (· < ·) (c'.measure (identities env root loadable))
          (c.measure (identities env root loadable)) := by
  constructor
  · cases opened : openSource env source with
    | mk result session =>
      cases result with
      | error e => exact ⟨.error e, session, run_unopened opened, by simp [Source.resolveIn, run_unopened opened]⟩
      | ok root =>
        refine confined_run_ends (fun _ => True) (bases root loadable) (references env root loadable)
          (fun _ _ _ _ _ _ => trivial) (fun u doc _ => loaded_known finite) ?_
        intro root' s' opened'
        rw [opened] at opened'
        cases opened'
        exact start_known
  · intro root session _ c c' reached call
    exact calls_decrease (loadable_confined finite) (reached_known finite reached) call

def ringUrl : Url := ⟨"http".toList, some ⟨[], [], some (.domain "h".toList), none⟩, "/r".toList, none, none⟩

def ringDocument : Json :=
  .obj [("a".toList, .obj [(refKey, .str "r#/b".toList)]),
    ("b".toList, .arr [.obj [(refKey, .str "#/a".toList)], .obj [(refKey, .str "#".toList)]])]

def ringEnvironment : Environment :=
  { read := fun _ => .ok ringDocument
    urlOf := fun _ => ringUrl
    load := fun u => if u = ringUrl then .ok ringDocument else .error (.notLocal u.text) }

theorem ring_resolution_ends :
    (∀ u doc, ringEnvironment.load u = .ok doc → u ∈ [ringUrl]) ∧
    (∃ result session, run ringEnvironment (.path "r".toList) = some (result, session) ∧
      Source.resolveIn ringEnvironment (.path "r".toList) = result) ∧
    ∀ c c', Relation.ReflTransGen (Calls ringEnvironment ⟨ringDocument, some ringUrl⟩)
        ⟨⟨ringDocument, some ringUrl⟩, [], ringDocument⟩ c → Calls ringEnvironment ⟨ringDocument, some ringUrl⟩ c c' →
      Prod.Lex (· < ·) (· < ·) (c'.measure (identities ringEnvironment ⟨ringDocument, some ringUrl⟩ [ringUrl]))
        (c.measure (identities ringEnvironment ⟨ringDocument, some ringUrl⟩ [ringUrl])) := by
  have finite : ∀ u doc, ringEnvironment.load u = .ok doc → u ∈ [ringUrl] := by
    intro u doc loaded
    simp only [ringEnvironment] at loaded
    split at loaded
    · rename_i same
      simp [same]
    · simp at loaded
  obtain ⟨ended, decrease⟩ := resolution_ends ringEnvironment (.path "r".toList) [ringUrl] finite
  exact ⟨finite, ended, decrease ⟨ringDocument, some ringUrl⟩ _ rfl⟩

end ApiTypes.Resolve
