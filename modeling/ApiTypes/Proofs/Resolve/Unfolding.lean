import ApiTypes.Proofs.Resolve.Documents
/-!
The resolved tree against the documents it comes from. Reading a document along a path, and going on at the target
whenever a reference is met, unfolds it lazily and maybe without end. The resolved tree has the same nodes along the
same paths, up to the markers, and a marker stands only where the reading comes back to a reference that it is inside
of.
-/
namespace ApiTypes.Resolve

/-! ### Reading along a path -/

inductive Selector where
  | key (k : Text)
  | index (i : Nat)
deriving DecidableEq, Repr

def select? : Selector → Json → Option Json
  | .key k, .obj fields => Ordered.get? k fields
  | .index i, .arr items => items[i]?
  | _, _ => none

def nodeAt? : List Selector → Json → Option Json
  | [], v => some v
  | s :: path, v => (select? s v).bind (nodeAt? path)

inductive Node where
  | scalar (v : Json)
  | array (length : Nat)
  | object (keys : List Text)

def Node.of : Json → Node
  | .arr items => .array items.length
  | .obj fields => .object (fields.map Prod.fst)
  | v => .scalar v

structure Place where
  scope : Scope
  value : Json

def Place.target? (docs : Url → Option Json) (p : Place) (ref : Text) : Option Place :=
  (designated? docs p.scope ref).bind fun scope =>
    (Pointer.get? (Reference.ofText ref).fragment scope.root).map fun v => ⟨scope, v⟩

/-- Reading along a path meets a place at its end, maybe one that is itself a reference. The trail has the identities of
the references that the reading has gone through, the last one first. -/
inductive Meets (docs : Url → Option Json) : Place → List Key → List Selector → Place → List Key → Prop where
  | here (p : Place) (trail : List Key) : Meets docs p trail [] p trail
  | through {p q r : Place} {trail trail' : List Key} {path : List Selector} {ref : Text} :
      ref? p.value = some ref → p.target? docs ref = some q →
      Meets docs q (identity q.scope (.ofText ref) :: trail) path r trail' → Meets docs p trail path r trail'
  | child {p r : Place} {trail trail' : List Key} {s : Selector} {path : List Selector} {v : Json} :
      ref? p.value = none → select? s p.value = some v → Meets docs ⟨p.scope, v⟩ trail path r trail' →
      Meets docs p trail (s :: path) r trail'

/-- The lazy unfolding has a place at the end of a path: all references are gone through. -/
def Reads (docs : Url → Option Json) (p : Place) (path : List Selector) (q : Place) : Prop :=
  ∃ trail, Meets docs p [] path q trail ∧ ref? q.value = none

/-- At the end of a path the reading meets a reference that it has already gone through. -/
def ClosesCycle (docs : Url → Option Json) (p : Place) (path : List Selector) (ref : Text) : Prop :=
  ∃ q trail target, Meets docs p [] path q trail ∧ ref? q.value = some ref ∧
    designated? docs q.scope ref = some target ∧ identity target (.ofText ref) ∈ trail

theorem meets_unique {docs : Url → Option Json} {p q q' : Place} {trail t t' : List Key} {path : List Selector}
    (first : Meets docs p trail path q t) (settled : ref? q.value = none) (second : Meets docs p trail path q' t')
    (settled' : ref? q'.value = none) : q' = q := by
  induction first with
  | here p trail =>
    cases second with
    | here => rfl
    | through reference _ _ =>
      rw [settled] at reference
      simp at reference
  | through reference target _ ih =>
    cases second with
    | here =>
      rw [settled'] at reference
      simp at reference
    | through reference' target' later' =>
      rw [reference] at reference'
      cases reference'
      rw [target] at target'
      cases target'
      exact ih settled later'
    | child plain _ _ =>
      rw [plain] at reference
      simp at reference
  | child plain selected _ ih =>
    cases second with
    | through reference _ _ =>
      rw [plain] at reference
      simp at reference
    | child _ selected' later' =>
      rw [selected] at selected'
      cases selected'
      exact ih settled later'

theorem reads_unique {docs : Url → Option Json} {p q q' : Place} {path : List Selector} (first : Reads docs p path q)
    (second : Reads docs p path q') : q' = q := by
  obtain ⟨_, meets, settled⟩ := first
  obtain ⟨_, meets', settled'⟩ := second
  exact meets_unique meets settled meets' settled'

/-! ### The tree that is made -/

/-- What a value becomes under a stack of open references, where `docs` says which document is at a URL. -/
inductive Unfolds (docs : Url → Option Json) : Scope → List Key → Json → Json → Prop where
  | scalar {scope : Scope} {stack : List Key} {v : Json} : isScalar v = true → Unfolds docs scope stack v v
  | array {scope : Scope} {stack : List Key} {items outs : List Json} :
      items.length = outs.length →
      (∀ (i : Nat) v out, items[i]? = some v → outs[i]? = some out → Unfolds docs scope stack v out) →
      Unfolds docs scope stack (.arr items) (.arr outs)
  | object {scope : Scope} {stack : List Key} {fields outs : Json.Fields} :
      ref? (.obj fields) = none → fields.map Prod.fst = outs.map Prod.fst →
      (∀ (i : Nat) field out, fields[i]? = some field → outs[i]? = some out → Unfolds docs scope stack field.2 out.2) →
      Unfolds docs scope stack (.obj fields) (.obj outs)
  | cycle {scope target : Scope} {stack : List Key} {v : Json} {ref : Text} :
      ref? v = some ref → designated? docs scope ref = some target → identity target (.ofText ref) ∈ stack →
      Unfolds docs scope stack v (marker ref)
  | target {scope target : Scope} {stack : List Key} {v w out : Json} {ref : Text} :
      ref? v = some ref → designated? docs scope ref = some target → identity target (.ofText ref) ∉ stack →
      Pointer.get? (Reference.ofText ref).fragment target.root = some w →
      Unfolds docs target (identity target (.ofText ref) :: stack) w out → Unfolds docs scope stack v out

theorem scalar_select {v : Json} (scalar : isScalar v = true) (s : Selector) : select? s v = none := by
  cases v <;> cases s <;> simp_all [isScalar, select?]

/- Fields with the same names in the same order are found at the same position. -/
theorem get_alongside {k : Text} {fields outs : Json.Fields} {w : Json} (names : fields.map Prod.fst = outs.map Prod.fst)
    (found : Ordered.get? k outs = some w) :
    ∃ (i : Nat) (v : Json), Ordered.get? k fields = some v ∧ fields[i]? = some (k, v) ∧ outs[i]? = some (k, w) := by
  induction outs generalizing fields with
  | nil => simp [Ordered.get?] at found
  | cons out outs ih =>
    obtain ⟨name, w'⟩ := out
    cases fields with
    | nil => simp at names
    | cons field fields =>
      obtain ⟨name', v⟩ := field
      simp only [List.map_cons, List.cons.injEq] at names
      obtain ⟨rfl, names⟩ := names
      simp only [Ordered.get?] at found ⊢
      split at found
      · rename_i same
        cases found
        rw [if_pos same]
        exact ⟨0, v, rfl, by simp [beq_iff_eq.mp same], by simp [beq_iff_eq.mp same]⟩
      · rename_i other
        rw [if_neg other]
        obtain ⟨i, v', has, at₁, at₂⟩ := ih names found
        exact ⟨i + 1, v', has, by simpa using at₁, by simpa using at₂⟩

/-- What an outcome of the tree has to show for a path: the node that the reading comes to, or a marker on the way. -/
def Truncates (docs : Url → Option Json) (p : Place) (stack : List Key) (out : Json) (path : List Selector)
    (node : Json) : Prop :=
  (∃ q trail, Meets docs p stack path q trail ∧ ref? q.value = none ∧ Node.of q.value = Node.of node) ∨
  ∃ before ref, before <+: path ∧ nodeAt? before out = some (marker ref) ∧
    ∃ q trail target, Meets docs p stack before q trail ∧ ref? q.value = some ref ∧
      designated? docs q.scope ref = some target ∧ identity target (.ofText ref) ∈ trail

theorem Truncates.child {docs : Url → Option Json} {p : Place} {stack : List Key} {out w v node : Json} {s : Selector}
    {path : List Selector} (plain : ref? p.value = none) (source : select? s p.value = some v)
    (made : select? s out = some w) (below : Truncates docs ⟨p.scope, v⟩ stack w path node) :
    Truncates docs p stack out (s :: path) node := by
  rcases below with ⟨q, trail, meets, settled, same⟩ | ⟨before, ref, lead, marked, q, trail, target, meets, closes⟩
  · exact Or.inl ⟨q, trail, .child plain source meets, settled, same⟩
  · refine Or.inr ⟨s :: before, ref, List.cons_prefix_cons.mpr ⟨rfl, lead⟩, ?_, q, trail, target,
      .child plain source meets, closes⟩
    simp only [nodeAt?, made, Option.bind_some, marked]

theorem Truncates.through {docs : Url → Option Json} {p q : Place} {stack : List Key} {out node : Json} {ref : Text}
    {path : List Selector} (reference : ref? p.value = some ref) (target : p.target? docs ref = some q)
    (beyond : Truncates docs q (identity q.scope (.ofText ref) :: stack) out path node) :
    Truncates docs p stack out path node := by
  rcases beyond with ⟨r, trail, meets, shown⟩ | ⟨before, ref', lead, marked, r, trail, target', meets, closes⟩
  · exact Or.inl ⟨r, trail, .through reference target meets, shown⟩
  · exact Or.inr ⟨before, ref', lead, marked, r, trail, target', .through reference target meets, closes⟩

theorem settled_node {docs : Url → Option Json} {scope : Scope} {stack : List Key} {v out : Json}
    (unfolds : Unfolds docs scope stack v out) (settled : ref? v = none) : Node.of v = Node.of out := by
  cases unfolds with
  | scalar _ => rfl
  | array length _ => simp [Node.of, length]
  | object _ names _ => simp [Node.of, names]
  | cycle reference _ _ =>
    rw [settled] at reference
    simp at reference
  | target reference _ _ _ _ =>
    rw [settled] at reference
    simp at reference

/-- What holds of the ends of paths holds along all paths, if it goes over from what is below a place and from what is
beyond a reference. -/
theorem unfolds_along {docs : Url → Option Json} {P : Place → List Key → Json → List Selector → Json → Prop}
    (here : ∀ scope stack v out, Unfolds docs scope stack v out → ref? v = none → P ⟨scope, v⟩ stack out [] out)
    (marked : ∀ scope target stack v ref path node, ref? v = some ref → designated? docs scope ref = some target →
      identity target (.ofText ref) ∈ stack → nodeAt? path (marker ref) = some node →
      P ⟨scope, v⟩ stack (marker ref) path node)
    (child : ∀ p stack out w v node s path, ref? p.value = none → select? s p.value = some v → select? s out = some w →
      P ⟨p.scope, v⟩ stack w path node → P p stack out (s :: path) node)
    (through : ∀ p q stack out node ref path, ref? p.value = some ref → p.target? docs ref = some q →
      P q (identity q.scope (.ofText ref) :: stack) out path node → P p stack out path node)
    {scope : Scope} {stack : List Key} {v out : Json} (unfolds : Unfolds docs scope stack v out)
    {path : List Selector} {node : Json} (found : nodeAt? path out = some node) : P ⟨scope, v⟩ stack out path node := by
  induction unfolds generalizing path with
  | scalar scalar =>
    cases path with
    | nil =>
      cases found
      exact here _ _ _ _ (.scalar scalar) (scalar_no_ref scalar)
    | cons s path =>
      rw [nodeAt?, scalar_select scalar] at found
      simp at found
  | @array scope stack items outs length each ih =>
    cases path with
    | nil =>
      cases found
      exact here _ _ _ _ (.array length each) rfl
    | cons s path =>
      obtain ⟨w, made, later⟩ := Option.bind_eq_some_iff.mp found
      cases s with
      | key k => simp [select?] at made
      | index i =>
        have inside : i < items.length := by
          rw [length]
          exact (List.getElem?_eq_some_iff.mp made).1
        have source : items[i]? = some items[i] := List.getElem?_eq_getElem inside
        exact child ⟨scope, .arr items⟩ _ _ _ _ _ _ _ rfl source made (ih i _ w source made later)
  | @object scope stack fields outs plain names each ih =>
    cases path with
    | nil =>
      cases found
      exact here _ _ _ _ (.object plain names each) plain
    | cons s path =>
      obtain ⟨w, made, later⟩ := Option.bind_eq_some_iff.mp found
      cases s with
      | key k =>
        -- A name may occur twice; both sides then take the first of its fields.
        obtain ⟨i, v, source, at₁, at₂⟩ := get_alongside names made
        exact child ⟨scope, .obj fields⟩ _ _ _ _ _ _ _ plain source made (ih i (k, v) (k, w) at₁ at₂ later)
      | index i => simp [select?] at made
  | cycle reference designates onStack => exact marked _ _ _ _ _ _ _ reference designates onStack found
  | @target scope target stack v w out ref reference designates _ there _ ih =>
    have leads : Place.target? docs ⟨scope, v⟩ ref = some ⟨target, w⟩ := by
      simp [Place.target?, designates, there]
    exact through ⟨scope, v⟩ _ _ _ _ _ _ reference leads (ih found)

theorem unfolds_truncates {docs : Url → Option Json} {scope : Scope} {stack : List Key} {v out : Json}
    (unfolds : Unfolds docs scope stack v out) {path : List Selector} {node : Json}
    (found : nodeAt? path out = some node) : Truncates docs ⟨scope, v⟩ stack out path node := by
  refine unfolds_along ?here ?marked ?child ?through unfolds found
  case here =>
    intro scope stack v out unfolds settled
    exact Or.inl ⟨_, _, .here _ _, settled, settled_node unfolds settled⟩
  case marked =>
    intro scope target stack v ref path node reference designates onStack _
    exact Or.inr ⟨[], _, List.nil_prefix, rfl, _, _, _, .here _ _, reference, designates, onStack⟩
  case child =>
    intro p stack out w v node s path plain source made below
    exact Truncates.child plain source made below
  case through =>
    intro p q stack out node ref path reference target beyond
    exact Truncates.through reference target beyond

/-! ### The run -/

/- The documents are those of any session from the end of the expansion on, since what is read later does not change
   what a reference has designated. -/
def UnfoldsAfter (scope : Scope) (stack : List Key) (v : Json) (s : Session) (r : Result Json) : Prop :=
  ∀ final, Extends r.2 final → Extends s final ∧ ∀ out, r.1 = .ok out → Unfolds (documentOf final) scope stack v out

def ItemsUnfoldAfter (scope : Scope) (stack : List Key) (vs : List Json) (s : Session) (r : Result (List Json)) : Prop :=
  ∀ final, Extends r.2 final → Extends s final ∧ ∀ outs, r.1 = .ok outs →
    vs.length = outs.length ∧
      ∀ (i : Nat) v out, vs[i]? = some v → outs[i]? = some out → Unfolds (documentOf final) scope stack v out

def FieldsUnfoldAfter (scope : Scope) (stack : List Key) (fs : Json.Fields) (s : Session) (r : Result Json.Fields) :
    Prop :=
  ∀ final, Extends r.2 final → Extends s final ∧ ∀ outs, r.1 = .ok outs →
    fs.map Prod.fst = outs.map Prod.fst ∧
      ∀ (i : Nat) field out, fs[i]? = some field → outs[i]? = some out →
        Unfolds (documentOf final) scope stack field.2 out.2

theorem more_items_unfold {scope : Scope} {stack : List Key} {v w : Json} {vs : List Json} {s s' : Session}
    {r : Result (List Json)} (first : UnfoldsAfter scope stack v s (.ok w, s')) (later : ItemsUnfoldAfter scope stack vs s' r) :
    ItemsUnfoldAfter scope stack (v :: vs) s (r.1.map (w :: ·), r.2) := by
  intro final more
  obtain ⟨more', items⟩ := later final more
  obtain ⟨more'', value⟩ := first final more'
  refine ⟨more'', fun outs made => ?_⟩
  obtain ⟨rest, restMade, rfl⟩ := map_ok made
  obtain ⟨length, each⟩ := items rest restMade
  refine ⟨by simp [length], fun i => ?_⟩
  cases i with
  | zero =>
    intro v' out source made'
    simp only [List.getElem?_cons_zero, Option.some.injEq] at source made'
    subst v' out
    exact value w rfl
  | succ i =>
    intro v' out source made'
    simp only [List.getElem?_cons_succ] at source made'
    exact each i v' out source made'

theorem more_fields_unfold {scope : Scope} {stack : List Key} {name : Text} {v w : Json} {fs : Json.Fields} {s s' : Session}
    {r : Result Json.Fields} (first : UnfoldsAfter scope stack v s (.ok w, s'))
    (later : FieldsUnfoldAfter scope stack fs s' r) :
    FieldsUnfoldAfter scope stack ((name, v) :: fs) s (r.1.map ((name, w) :: ·), r.2) := by
  intro final more
  obtain ⟨more', fields⟩ := later final more
  obtain ⟨more'', value⟩ := first final more'
  refine ⟨more'', fun outs made => ?_⟩
  obtain ⟨rest, restMade, rfl⟩ := map_ok made
  obtain ⟨names, each⟩ := fields rest restMade
  refine ⟨by simp [names], fun i => ?_⟩
  cases i with
  | zero =>
    intro field out source made'
    simp only [List.getElem?_cons_zero, Option.some.injEq] at source made'
    subst field out
    exact value w rfl
  | succ i =>
    intro field out source made'
    simp only [List.getElem?_cons_succ] at source made'
    exact each i field out source made'

theorem unfolding_course (load : Url → Except LoadError Json) :
    Course (loadOnce load) UnfoldsAfter ItemsUnfoldAfter FieldsUnfoldAfter := by
  constructor
  case scalar =>
    intro scope stack v s scalar final more
    refine ⟨more, fun out made => ?_⟩
    cases made
    exact .scalar scalar
  case array =>
    intro scope stack vs s r inner final more
    obtain ⟨more', items⟩ := inner final more
    refine ⟨more', fun out made => ?_⟩
    obtain ⟨outs, outsMade, rfl⟩ := map_ok made
    obtain ⟨length, each⟩ := items outs outsMade
    exact .array length each
  case object =>
    intro scope stack fs s r plain inner final more
    obtain ⟨more', fields⟩ := inner final more
    refine ⟨more', fun out made => ?_⟩
    obtain ⟨outs, outsMade, rfl⟩ := map_ok made
    obtain ⟨names, each⟩ := fields outs outsMade
    exact .object plain names each
  case astray =>
    intro scope stack v s ref e s' _ found final more
    exact ⟨(target_scope_extends found).trans more, fun out made => by simp at made⟩
  case missing =>
    intro scope stack v s ref target e s' _ found _ final more
    exact ⟨(target_scope_extends found).trans more, fun out made => by simp at made⟩
  case cycle =>
    intro scope stack v s ref target s' reference found entering final more
    refine ⟨(target_scope_extends found).trans more, fun out made => ?_⟩
    cases made
    exact .cycle reference (designated_extends more (target_scope_designates found)) (entered_none entering)
  case target =>
    intro scope stack v s ref target w s' r reference found entering inner final more
    -- The document was found before the target was expanded, and is still there after it.
    obtain ⟨more', value⟩ := inner final more
    obtain ⟨new, there⟩ := entered_value entering
    refine ⟨(target_scope_extends found).trans more', fun out made => ?_⟩
    exact .target reference (designated_extends more' (target_scope_designates found)) new there (value out made)
  case noItems =>
    intro scope stack s final more
    refine ⟨more, fun outs made => ?_⟩
    cases made
    exact ⟨rfl, by simp⟩
  case itemFails =>
    intro scope stack v vs s e s' first final more
    exact ⟨(first final more).1, fun outs made => by simp at made⟩
  case moreItems =>
    intro scope stack v vs s w s' r first later
    exact more_items_unfold first later
  case noFields =>
    intro scope stack s final more
    refine ⟨more, fun outs made => ?_⟩
    cases made
    exact ⟨rfl, by simp⟩
  case fieldFails =>
    intro scope stack name v fs s e s' first final more
    exact ⟨(first final more).1, fun outs made => by simp at made⟩
  case moreFields =>
    intro scope stack name v fs s w s' r first later
    exact more_fields_unfold first later

theorem resolved_run {env : Environment} {source : Source} {out : Json} (resolved : source.resolveIn env = .ok out) :
    ∃ root opened session, openSource env source = (.ok root, opened) ∧
      expand (loadOnce env.load) root [] root.root opened = some (.ok out, session) := by
  unfold Source.resolveIn at resolved
  cases ran : run env source with
  | none => simp [ran] at resolved
  | some r =>
    obtain ⟨result, session⟩ := r
    simp only [ran, Option.map_some, Option.getD_some] at resolved
    subst result
    cases opening : openSource env source with
    | mk result opened =>
      cases result with
      | error e => simp [run_unopened opening] at ran
      | ok root =>
        rw [run_opened opening] at ran
        exact ⟨root, opened, session, rfl, ran⟩

/-- A resolved tree has, along every path, the node that the documents have along that path when every reference is
replaced by its target, or the path goes through a marker, where the reading comes back to a reference that it has gone
through. The documents are what stands at their URLs, and the reading comes to one place only. -/
theorem resolved_tree_truncates_unfolding (env : Environment) (source : Source) (out : Json)
    (resolved : source.resolveIn env = .ok out) :
    ∃ root opened docs, openSource env source = (.ok root, opened) ∧
      (∀ u doc, docs u = some doc → Stands env root u doc) ∧
      ∀ path node, nodeAt? path out = some node →
        (∃ place, (∀ q, Reads docs ⟨root, root.root⟩ path q ↔ q = place) ∧ Node.of place.value = Node.of node) ∨
        ∃ before ref, before <+: path ∧ nodeAt? before out = some (marker ref) ∧
          ClosesCycle docs ⟨root, root.root⟩ before ref := by
  obtain ⟨root, opened, session, opening, ran⟩ := resolved_run resolved
  have genuine : Genuine env root session := expand_genuine ran (open_source_genuine opening)
  have unfolds : Unfolds (documentOf session) root [] root.root out :=
    ((unfolding_course env.load).holds ran session (Extends.refl session)).2 out rfl
  refine ⟨root, opened, documentOf session, opening, genuine, fun path node found => ?_⟩
  rcases unfolds_truncates unfolds found with ⟨place, trail, meets, settled, same⟩ |
    ⟨before, ref, lead, marked, q, trail, target, closes⟩
  · have reads : Reads (documentOf session) ⟨root, root.root⟩ path place := ⟨trail, meets, settled⟩
    refine Or.inl ⟨place, fun q => ⟨fun other => reads_unique reads other, fun same => same ▸ reads⟩, same⟩
  · exact Or.inr ⟨before, ref, lead, marked, q, trail, target, closes⟩

def siteUrl (path : Text) : Url := ⟨"http".toList, some ⟨[], [], some (.domain "h".toList), none⟩, path, none, none⟩

def entryScope : Scope := ⟨.obj [("x".toList, marker "s#/a".toList)], some (siteUrl "/m".toList)⟩

def nestScope : Scope :=
  ⟨.obj [("a".toList, marker "#/b".toList), ("b".toList, .arr [.null, marker "#/b".toList])], some (siteUrl "/s".toList)⟩

def nestEnvironment : Environment :=
  { read := fun _ => .ok entryScope.root
    urlOf := fun _ => siteUrl "/m".toList
    load := fun u => if u = siteUrl "/s".toList then .ok nestScope.root else .error (.notLocal u.text) }

def nestTree : Json := .obj [("x".toList, .arr [.null, marker "#/b".toList])]

theorem nest_list_expands (s : Session) {stack : List Key}
    (onStack : stack.contains (identity nestScope (.ofText "#/b".toList)) = true) :
    expand (loadOnce nestEnvironment.load) nestScope stack (.arr [.null, marker "#/b".toList]) s =
      some (.ok (.arr [.null, marker "#/b".toList]), s) := by
  have last : expand (loadOnce nestEnvironment.load) nestScope stack (marker "#/b".toList) s =
      some (.ok (marker "#/b".toList), s) :=
    expand_cycle rfl rfl (by rw [entered, if_pos onStack])
  rw [expand_array, walk_items_cons _ (expand_scalar _ _ _ _ rfl), walk_items_cons _ last]
  rfl

/- The reference in the first document is followed into the second and the one found there within it, until the list
   comes back to itself. -/
theorem nest_resolves : Source.resolveIn nestEnvironment (.path "m".toList) = .ok nestTree := by
  let opened : Session := [(key (siteUrl "/m".toList).text, entryScope.root)]
  let both : Session := (key (siteUrl "/s".toList).text, nestScope.root) :: opened
  have across : targetScope (loadOnce nestEnvironment.load) entryScope "s#/a".toList (.ofText "s#/a".toList) opened =
      (.ok nestScope, both) := rfl
  have within : targetScope (loadOnce nestEnvironment.load) nestScope "#/b".toList (.ofText "#/b".toList) both =
      (.ok nestScope, both) := rfl
  have field : expand (loadOnce nestEnvironment.load) entryScope [] (marker "s#/a".toList) opened =
      some (.ok (.arr [.null, marker "#/b".toList]), both) :=
    (expand_target rfl across rfl).trans ((expand_target rfl within rfl).trans (nest_list_expands both rfl))
  have ran : run nestEnvironment (.path "m".toList) = some (.ok nestTree, both) := by
    change expand (loadOnce nestEnvironment.load) entryScope [] (.obj [("x".toList, marker "s#/a".toList)]) opened = _
    rw [expand_object _ _ _ _ rfl, walk_fields_cons _ _ field]
    rfl
  rw [Source.resolveIn, ran]
  rfl

theorem nest_truncates_unfolding :
    Source.resolveIn nestEnvironment (.path "m".toList) = .ok nestTree ∧
    ∃ root opened docs, openSource nestEnvironment (.path "m".toList) = (.ok root, opened) ∧
      (∀ u doc, docs u = some doc → Stands nestEnvironment root u doc) ∧
      ∀ path node, nodeAt? path nestTree = some node →
        (∃ place, (∀ q, Reads docs ⟨root, root.root⟩ path q ↔ q = place) ∧ Node.of place.value = Node.of node) ∨
        ∃ before ref, before <+: path ∧ nodeAt? before nestTree = some (marker ref) ∧
          ClosesCycle docs ⟨root, root.root⟩ before ref :=
  ⟨nest_resolves, resolved_tree_truncates_unfolding nestEnvironment (.path "m".toList) nestTree nest_resolves⟩

end ApiTypes.Resolve
