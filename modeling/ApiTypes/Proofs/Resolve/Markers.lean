import ApiTypes.Proofs.Pointers
import ApiTypes.Proofs.Resolve.ReferenceGraph
import ApiTypes.Proofs.Text
/-!
References in resolved trees. A reference is left only as a marker inside its own expansion, or is no reference of the
documents at all but an object whose `$ref` was one. Where references lead into no cycle and no such object is reached,
the tree has no references, neither have the schemas that are read from it, and resolving it again changes nothing.
-/
namespace ApiTypes.Resolve

/-! ### Where a marker stands -/

/-- At the end of a path the reading meets a reference, and on the way there it has gone through one with the same
identity. Both lead to the same fragment of documents under the same URL, unless the URL to start from has a fragment. -/
def InsideOwnExpansion (docs : Url → Option Json) (start : Place) (path : List Selector) (ref : Text) : Prop :=
  ∃ before after outer outerRef entry trail q target trail',
    path = before ++ after ∧ Meets docs start [] before outer trail ∧ ref? outer.value = some outerRef ∧
    outer.target? docs outerRef = some entry ∧ Meets docs entry [] after q trail' ∧ ref? q.value = some ref ∧
    designated? docs q.scope ref = some target ∧
    identity target (.ofText ref) = identity entry.scope (.ofText outerRef) ∧
    ('#' ∉ baseText start.scope →
      baseText target = baseText entry.scope ∧ (Reference.ofText ref).fragment = (Reference.ofText outerRef).fragment)

theorem meets_anyhow {docs : Url → Option Json} {p q : Place} {trail trail' : List Key} {path : List Selector}
    (meets : Meets docs p trail path q trail') (other : List Key) : ∃ t, Meets docs p other path q t := by
  induction meets generalizing other with
  | here p _ => exact ⟨other, .here p other⟩
  | through reference target _ ih =>
    obtain ⟨t, later⟩ := ih (_ :: other)
    exact ⟨t, .through reference target later⟩
  | child plain selected _ ih =>
    obtain ⟨t, later⟩ := ih other
    exact ⟨t, .child plain selected later⟩

/-- An identity on the trail is that of a reference which the reading has gone through on its way. -/
theorem trail_origin {docs : Url → Option Json} {p q : Place} {trail trail' : List Key} {path : List Selector} {id : Key}
    (meets : Meets docs p trail path q trail') (mem : id ∈ trail') :
    id ∈ trail ∨ ∃ before after outer outerRef entry t t', path = before ++ after ∧ Meets docs p trail before outer t ∧
      ref? outer.value = some outerRef ∧ outer.target? docs outerRef = some entry ∧
      id = identity entry.scope (.ofText outerRef) ∧ Meets docs entry [] after q t' := by
  induction meets with
  | here p trail => exact Or.inl mem
  | @through p entry _ trail _ path ref reference target later ih =>
    rcases ih mem with old | ⟨before, after, outer, outerRef, inner, t, t', split, meets, rest⟩
    · rcases List.mem_cons.mp old with own | older
      · obtain ⟨t', fresh⟩ := meets_anyhow later []
        exact Or.inr ⟨[], path, p, ref, entry, trail, t', rfl, .here p trail, reference, target, own, fresh⟩
      · exact Or.inl older
    · exact Or.inr ⟨before, after, outer, outerRef, inner, t, t', split, .through reference target meets, rest⟩
  | @child p _ trail _ s path v plain selected _ ih =>
    rcases ih mem with old | ⟨before, after, outer, outerRef, inner, t, t', split, meets, rest⟩
    · exact Or.inl old
    · exact Or.inr ⟨s :: before, after, outer, outerRef, inner, t, t', by rw [split, List.cons_append],
        .child plain selected meets, rest⟩

theorem target_unmarked {docs : Url → Option Json} {p q : Place} {ref : Text} (target : p.target? docs ref = some q)
    (plain : '#' ∉ baseText p.scope) : '#' ∉ baseText q.scope := by
  obtain ⟨scope, designates, there⟩ := Option.bind_eq_some_iff.mp target
  obtain ⟨w, -, rfl⟩ := Option.map_eq_some_iff.mp there
  exact designated_unmarked designates plain

theorem meets_unmarked {docs : Url → Option Json} {p q : Place} {trail trail' : List Key} {path : List Selector}
    (meets : Meets docs p trail path q trail') (plain : '#' ∉ baseText p.scope) : '#' ∉ baseText q.scope := by
  induction meets with
  | here _ _ => exact plain
  | through _ target _ ih => exact ih (target_unmarked target plain)
  | child _ _ _ ih => exact ih plain

theorem inside_own_expansion {docs : Url → Option Json} {start q : Place} {path : List Selector} {trail : List Key}
    {ref : Text} {target : Scope} (meets : Meets docs start [] path q trail) (reference : ref? q.value = some ref)
    (designates : designated? docs q.scope ref = some target) (onTrail : identity target (.ofText ref) ∈ trail) :
    InsideOwnExpansion docs start path ref := by
  rcases trail_origin meets onTrail with none | ⟨before, after, outer, outerRef, entry, t, t', split, way, outside, entering,
    same, inside⟩
  · simp at none
  · refine ⟨before, after, outer, outerRef, entry, t, q, target, t', split, way, outside, entering, inside, reference,
      designates, same, fun plain => identity_parts same ?_ ?_⟩
    · exact designated_unmarked designates (meets_unmarked meets plain)
    · exact target_unmarked entering (meets_unmarked way plain)

/-! ### Where references come from -/

def IsSource (env : Environment) (root : Scope) (doc : Json) : Prop := doc = root.root ∨ ∃ u, Serves env root u doc

structure Sourced (env : Environment) (root : Scope) (p : Place) : Prop where
  document : IsSource env root p.scope.root
  value : refsIn p.value ⊆ refsIn p.scope.root

theorem refs_of_select {s : Selector} {v w : Json} (selected : select? s v = some w) : refsIn w ⊆ refsIn v := by
  cases s with
  | key k =>
    cases v with
    | obj fields => exact List.Subset.trans (refs_of_field (Ordered.get_mem selected)) (refs_of_object fields)
    | _ => simp [select?] at selected
  | index i =>
    cases v with
    | arr items =>
      rw [refsIn]
      exact refs_of_item (List.mem_of_getElem? selected)
    | _ => simp [select?] at selected

section Located

variable {env : Environment} {root : Scope} {docs : Url → Option Json}

theorem target_sourced (serves : ∀ u doc, docs u = some doc → Serves env root u doc) {p q : Place} {ref : Text}
    (sourced : Sourced env root p) (target : p.target? docs ref = some q) : Sourced env root q := by
  obtain ⟨scope, designates, found⟩ := Option.bind_eq_some_iff.mp target
  obtain ⟨w, there, rfl⟩ := Option.map_eq_some_iff.mp found
  refine ⟨?_, refs_of_target there⟩
  rcases designated_iff.mp designates with ⟨-, rfl⟩ | ⟨-, u, doc, -, has, rfl⟩
  · exact sourced.document
  · exact Or.inr ⟨u, serves u doc has⟩

theorem meets_sourced (serves : ∀ u doc, docs u = some doc → Serves env root u doc) {p q : Place}
    {trail trail' : List Key} {path : List Selector} (meets : Meets docs p trail path q trail')
    (sourced : Sourced env root p) : Sourced env root q := by
  induction meets with
  | here => exact sourced
  | through _ target _ ih => exact ih (target_sourced serves sourced target)
  | child _ selected _ ih =>
    exact ih ⟨sourced.document, List.Subset.trans (refs_of_select selected) sourced.value⟩

/-! ### What looks like a reference -/

/-- A node that looks like a reference is a marker that closes a cycle, or it was in disguise. -/
def Located (env : Environment) (root : Scope) (docs : Url → Option Json) (p : Place) (stack : List Key)
    (path : List Selector) (node : Json) (ref : Text) : Prop :=
  (node = marker ref ∧ ∃ q trail target, Meets docs p stack path q trail ∧ ref? q.value = some ref ∧
    designated? docs q.scope ref = some target ∧ identity target (.ofText ref) ∈ trail) ∨
  ∃ q trail, Meets docs p stack path q trail ∧ Node.of q.value = Node.of node ∧ Disguised env root q.scope q.value ref

theorem Located.child {p : Place} {stack : List Key} {v node : Json} {s : Selector} {path : List Selector} {ref : Text}
    (plain : ref? p.value = none) (source : select? s p.value = some v)
    (below : Located env root docs ⟨p.scope, v⟩ stack path node ref) :
    Located env root docs p stack (s :: path) node ref := by
  rcases below with ⟨marked, q, trail, target, meets, closes⟩ | ⟨q, trail, meets, looks⟩
  · exact Or.inl ⟨marked, q, trail, target, .child plain source meets, closes⟩
  · exact Or.inr ⟨q, trail, .child plain source meets, looks⟩

theorem Located.through {p q : Place} {stack : List Key} {node : Json} {path : List Selector} {ref outer : Text}
    (reference : ref? p.value = some outer) (target : p.target? docs outer = some q)
    (beyond : Located env root docs q (identity q.scope (.ofText outer) :: stack) path node ref) :
    Located env root docs p stack path node ref := by
  rcases beyond with ⟨marked, r, trail, target', meets, closes⟩ | ⟨r, trail, meets, looks⟩
  · exact Or.inl ⟨marked, r, trail, target', .through reference target meets, closes⟩
  · exact Or.inr ⟨r, trail, .through reference target meets, looks⟩

/- There is nothing below a marker that could look like a reference. -/
theorem marker_node {ref ref' : Text} {path : List Selector} {node : Json}
    (found : nodeAt? path (marker ref) = some node) (looks : ref? node = some ref') :
    path = [] ∧ ref' = ref ∧ node = marker ref := by
  cases path with
  | nil =>
    cases found
    have own : ref? (marker ref) = some ref := rfl
    rw [own] at looks
    exact ⟨rfl, (Option.some.inj looks).symm, rfl⟩
  | cons s path =>
    obtain ⟨w, selected, later⟩ := Option.bind_eq_some_iff.mp found
    have text : w = .str ref := by
      cases s with
      | key k =>
        have listed := Ordered.get_mem selected
        simp only [List.mem_singleton, Prod.mk.injEq] at listed
        exact listed.2
      | index i => simp [marker, select?] at selected
    subst text
    cases path with
    | nil =>
      cases later
      simp [ref?] at looks
    | cons s path => cases s <;> simp [nodeAt?, select?] at later

/- What looks like a reference at the end of a path, and is none in its document, has to be an object. -/
theorem settled_disguised (serves : ∀ u doc, docs u = some doc → Serves env root u doc) {scope : Scope}
    {stack : List Key} {v out : Json} {ref : Text} (unfolds : Unfolds docs scope stack v out) (settled : ref? v = none)
    (looks : ref? out = some ref) : Disguised env root scope v ref := by
  cases unfolds with
  | scalar _ =>
    rw [settled] at looks
    simp at looks
  | array _ _ => simp [ref?] at looks
  | object _ names each => exact object_disguised serves settled names each looks
  | cycle reference _ _ =>
    rw [settled] at reference
    simp at reference
  | target reference _ _ _ _ =>
    rw [settled] at reference
    simp at reference

theorem unfolds_located (serves : ∀ u doc, docs u = some doc → Serves env root u doc) {scope : Scope} {stack : List Key}
    {v out : Json} (unfolds : Unfolds docs scope stack v out) {path : List Selector} {node : Json} {ref : Text}
    (found : nodeAt? path out = some node) (looks : ref? node = some ref) :
    Located env root docs ⟨scope, v⟩ stack path node ref := by
  revert looks
  refine unfolds_along (P := fun p stack _ path node => ref? node = some ref → Located env root docs p stack path node ref)
    ?here ?marked ?child ?through unfolds found
  case here =>
    intro scope stack v out unfolds settled looks
    exact Or.inr ⟨_, _, .here _ _, settled_node unfolds settled, settled_disguised serves unfolds settled looks⟩
  case marked =>
    intro scope target stack v ref' path node reference designates onStack found looks
    obtain ⟨rfl, rfl, marked⟩ := marker_node found looks
    exact Or.inl ⟨marked, _, _, _, .here _ _, reference, designates, onStack⟩
  case child =>
    intro p stack out w v node s path plain source _ below looks
    exact Located.child plain source (below looks)
  case through =>
    intro p q stack out node outer path reference target beyond looks
    exact Located.through reference target (beyond looks)

end Located

/-! ### Trees without references -/

mutual

theorem expand_unreferenced (fetch : Fetch) (scope : Scope) (stack : List Key) (v : Json) (s : Session)
    (free : refsIn v = []) : expand fetch scope stack v s = some (.ok v, s) := by
  match v with
  | .obj fields =>
    rw [refsIn, List.append_eq_nil_iff] at free
    have plain : ref? (.obj fields) = none := by
      cases own : ref? (.obj fields) with
      | none => rfl
      | some ref => simp [own] at free
    rw [expand_object _ _ _ _ plain, walk_fields_unreferenced fetch scope stack fields s free.2]
    rfl
  | .arr items =>
    rw [refsIn] at free
    rw [expand_array, walk_items_unreferenced fetch scope stack items s free]
    rfl
  | .null | .bool _ | .num _ | .str _ => exact expand_scalar _ _ _ _ rfl

theorem walk_items_unreferenced (fetch : Fetch) (scope : Scope) (stack : List Key) (items : List Json) (s : Session)
    (free : refsInItems items = []) : walkItems (expand fetch scope stack) items s = some (.ok items, s) := by
  match items with
  | [] => rfl
  | v :: rest =>
    rw [refsInItems, List.append_eq_nil_iff] at free
    rw [walk_items_cons rest (expand_unreferenced fetch scope stack v s free.1),
      walk_items_unreferenced fetch scope stack rest s free.2]
    rfl

theorem walk_fields_unreferenced (fetch : Fetch) (scope : Scope) (stack : List Key) (fields : Json.Fields) (s : Session)
    (free : refsInFields fields = []) : walkFields (expand fetch scope stack) fields s = some (.ok fields, s) := by
  match fields with
  | [] => rfl
  | (name, v) :: rest =>
    rw [refsInFields, List.append_eq_nil_iff] at free
    rw [walk_fields_cons name rest (expand_unreferenced fetch scope stack v s free.1),
      walk_fields_unreferenced fetch scope stack rest s free.2]
    rfl

end

theorem value_resolves_to_itself (env : Environment) {v : Json} (free : refsIn v = []) :
    (Source.value v).resolveIn env = .ok v := by
  have ran : run env (.value v) = some (.ok v, []) := expand_unreferenced (loadOnce env.load) ⟨v, none⟩ [] v [] free
  rw [Source.resolveIn, ran]
  rfl

/-- References survive only at cycles. In a resolved tree an object with a text under `$ref` is a marker with a reference
of a document, inside the expansion of a reference of the same identity, or the copy of an object whose `$ref` is itself
a reference to that text. If no references that are reached lead into a cycle and no such object is reached, the tree has
no such objects, what is read from it has no references, and it resolves to itself. -/
theorem references_survive_only_at_cycles (env : Environment) (source : Source) (out : Json)
    (resolved : source.resolveIn env = .ok out) :
    ∃ root opened docs, openSource env source = (.ok root, opened) ∧
      (∀ u doc, docs u = some doc → Serves env root u doc) ∧
      (∀ path node ref, nodeAt? path out = some node → ref? node = some ref →
        (node = marker ref ∧ InsideOwnExpansion docs ⟨root, root.root⟩ path ref ∧
          ∃ doc, IsSource env root doc ∧ ref ∈ refsIn doc) ∨
        ∃ q, Reads docs ⟨root, root.root⟩ path q ∧ Node.of q.value = Node.of node ∧
          Disguised env root q.scope q.value ref) ∧
      (Acyclic env root → Honest env root →
        refsIn out = [] ∧ (∀ api, Api.ofJson out = .ok api → ∀ s ∈ api.schemas, s.pointers = []) ∧
        ∀ env', (Source.value out).resolveIn env' = .ok out) := by
  obtain ⟨root, opened, docs, opening, serves, unfolds⟩ := resolved_unfolds resolved
  refine ⟨root, opened, docs, opening, serves, ?_, ?_⟩
  · intro path node ref found looks
    have start : Sourced env root ⟨root, root.root⟩ := ⟨Or.inl rfl, List.Subset.refl _⟩
    rcases unfolds_located serves unfolds found looks with ⟨marked, q, trail, target, meets, reference, designates, closes⟩ |
      ⟨q, trail, meets, same, disguised⟩
    · have sourced := meets_sourced serves meets start
      exact Or.inl ⟨marked, inside_own_expansion meets reference designates closes, q.scope.root, sourced.document,
        sourced.value (own_ref_in reference)⟩
    · exact Or.inr ⟨q, ⟨trail, meets, disguised.1⟩, same, disguised⟩
  · intro acyclic honest
    have visits : Visits env root [] root root.root (.start root) :=
      ⟨.refl, rfl, Vertex.start_holds root, by simp⟩
    have free := unfolds_unreferenced serves acyclic honest unfolds visits
    refine ⟨free, ?_, fun env' => value_resolves_to_itself env' free⟩
    intro api made s mem
    have within := Api.schemas_pointers made s mem
    rw [free] at within
    exact List.eq_nil_of_subset_nil within

def leafScope : Scope :=
  ⟨.obj [("a".toList, marker "#/b".toList), ("b".toList, .arr [.null])], some (siteUrl "/s".toList)⟩

def leafEnvironment : Environment :=
  { read := fun _ => .ok entryScope.root
    urlOf := fun _ => siteUrl "/m".toList
    load := fun u => if u = siteUrl "/s".toList then .ok leafScope.root else .error (.notLocal u.text) }

def leafTree : Json := .obj [("x".toList, .arr [.null])]

theorem leaf_resolves : Source.resolveIn leafEnvironment (.path "m".toList) = .ok leafTree := by
  let opened : Session := [(key (siteUrl "/m".toList).text, entryScope.root)]
  let both : Session := (key (siteUrl "/s".toList).text, leafScope.root) :: opened
  have across : targetScope (loadOnce leafEnvironment.load) entryScope "s#/a".toList (.ofText "s#/a".toList) opened =
      (.ok leafScope, both) := rfl
  have within : targetScope (loadOnce leafEnvironment.load) leafScope "#/b".toList (.ofText "#/b".toList) both =
      (.ok leafScope, both) := rfl
  have field : expand (loadOnce leafEnvironment.load) entryScope [] (marker "s#/a".toList) opened =
      some (.ok (.arr [.null]), both) :=
    (expand_target rfl across rfl).trans ((expand_target rfl within rfl).trans (expand_unreferenced _ _ _ _ _ rfl))
  have ran : run leafEnvironment (.path "m".toList) = some (.ok leafTree, both) := by
    change expand (loadOnce leafEnvironment.load) entryScope [] (.obj [("x".toList, marker "s#/a".toList)]) opened = _
    rw [expand_object _ _ _ _ rfl, walk_fields_cons _ _ field]
    rfl
  rw [Source.resolveIn, ran]
  rfl

theorem leaf_leads {target : Scope} (leads : Leads leafEnvironment entryScope entryScope "s#/a".toList target) :
    target = leafScope := by
  have address : documentUrl entryScope "s#/a".toList (.ofText "s#/a".toList) = .ok (siteUrl "/s".toList) := rfl
  obtain ⟨u, doc, loaded, rfl⟩ := leads_elsewhere (by decide) address (by decide) leads
  simp only [leafEnvironment] at loaded
  split at loaded
  · cases loaded
    rfl
  · simp at loaded

def leafVertices : List Vertex := [.start entryScope, ⟨leafScope, "/a".toList⟩, ⟨leafScope, "/b".toList⟩]

/- Each vertex has a reference to the next one, and the last has none. -/
theorem leaf_edges {a b : Vertex} (mem : a ∈ leafVertices) (edge : Edge leafEnvironment entryScope a b) :
    (a = .start entryScope ∧ b = ⟨leafScope, "/a".toList⟩) ∨
      (a = ⟨leafScope, "/a".toList⟩ ∧ b = ⟨leafScope, "/b".toList⟩) := by
  simp only [leafVertices, List.mem_cons, List.not_mem_nil, or_false] at mem
  rcases mem with rfl | rfl | rfl
  · obtain ⟨ref, listed, target, leads, rfl⟩ := edge_reference (v := entryScope.root) rfl edge
    have only : (parts entryScope.root).filterMap ref? = ["s#/a".toList] := rfl
    rw [only, List.mem_singleton] at listed
    subst listed
    rw [leaf_leads leads]
    exact Or.inl ⟨rfl, rfl⟩
  · obtain ⟨ref, listed, target, leads, rfl⟩ := edge_reference (v := marker "#/b".toList) rfl edge
    have only : (parts (marker "#/b".toList)).filterMap ref? = ["#/b".toList] := rfl
    rw [only, List.mem_singleton] at listed
    subst listed
    rw [← leads_inside rfl leads]
    exact Or.inr ⟨rfl, rfl⟩
  · exact absurd edge (no_edge (v := .arr [.null]) rfl rfl)

theorem leaf_step (a b : Vertex) (mem : a ∈ leafVertices) (edge : Edge leafEnvironment entryScope a b) :
    b ∈ leafVertices := by
  rcases leaf_edges mem edge with ⟨-, rfl⟩ | ⟨-, rfl⟩ <;> simp [leafVertices]

theorem leaf_acyclic : Acyclic leafEnvironment entryScope := by
  let rank (id : Key) : Nat :=
    if id = Vertex.identity ⟨leafScope, "/b".toList⟩ then 2
    else if id = Vertex.identity ⟨leafScope, "/a".toList⟩ then 1
    else 0
  refine acyclic_of_rank (· ∈ leafVertices) rank (by simp [leafVertices]) leaf_step ?_
  intro a b mem edge
  rcases leaf_edges mem edge with ⟨rfl, rfl⟩ | ⟨rfl, rfl⟩ <;> decide

theorem leaf_honest : Honest leafEnvironment entryScope := by
  refine honest_of_texts (· ∈ leafVertices) (by simp [leafVertices]) leaf_step ?_
  intro a mem v there
  simp only [leafVertices, List.mem_cons, List.not_mem_nil, or_false] at mem
  rcases mem with rfl | rfl | rfl <;> cases there <;> rfl

theorem leaf_references_survive_nowhere :
    Source.resolveIn leafEnvironment (.path "m".toList) = .ok leafTree ∧
    openSource leafEnvironment (.path "m".toList) = (.ok entryScope, [(key (siteUrl "/m".toList).text, entryScope.root)]) ∧
    Acyclic leafEnvironment entryScope ∧ Honest leafEnvironment entryScope ∧
    refsIn leafTree = [] ∧ (∀ api, Api.ofJson leafTree = .ok api → ∀ s ∈ api.schemas, s.pointers = []) ∧
    ∀ env', (Source.value leafTree).resolveIn env' = .ok leafTree := by
  obtain ⟨root, opened, docs, opening, -, -, free⟩ :=
    references_survive_only_at_cycles leafEnvironment (.path "m".toList) leafTree leaf_resolves
  cases opening
  exact ⟨leaf_resolves, rfl, leaf_acyclic, leaf_honest, free leaf_acyclic leaf_honest⟩

/-! ### An object in disguise -/

/-- What stands under `$ref` refers to a text, and there is something beside it. -/
def maskedObject : Json := .obj [(refKey, marker "#/s".toList), ("type".toList, .str "string".toList)]

def maskedScope : Scope :=
  ⟨.obj [("s".toList, .str "hello".toList), ("definitions".toList, .obj [("X".toList, maskedObject)])], none⟩

def unmaskedObject : Json := .obj [(refKey, .str "hello".toList), ("type".toList, .str "string".toList)]

def unmaskedTree : Json :=
  .obj [("s".toList, .str "hello".toList), ("definitions".toList, .obj [("X".toList, unmaskedObject)])]

theorem masked_resolves (env : Environment) : (Source.value maskedScope.root).resolveIn env = .ok unmaskedTree := by
  have within : targetScope (loadOnce env.load) maskedScope "#/s".toList (.ofText "#/s".toList) [] =
      (.ok maskedScope, []) := rfl
  have inner : expand (loadOnce env.load) maskedScope [] (marker "#/s".toList) [] =
      some (.ok (.str "hello".toList), []) :=
    (expand_target rfl within rfl).trans (expand_scalar _ _ _ _ rfl)
  have object : expand (loadOnce env.load) maskedScope [] maskedObject [] = some (.ok unmaskedObject, []) := by
    rw [maskedObject, expand_object _ _ _ _ rfl, walk_fields_cons _ _ inner,
      walk_fields_cons _ _ (expand_scalar _ _ _ _ rfl)]
    rfl
  have definitions : expand (loadOnce env.load) maskedScope [] (.obj [("X".toList, maskedObject)]) [] =
      some (.ok (.obj [("X".toList, unmaskedObject)]), []) := by
    rw [expand_object _ _ _ _ rfl, walk_fields_cons _ _ object]
    rfl
  have ran : run env (.value maskedScope.root) = some (.ok unmaskedTree, []) := by
    change expand (loadOnce env.load) maskedScope [] (.obj _) [] = _
    rw [expand_object _ _ _ _ rfl, walk_fields_cons _ _ (expand_scalar _ _ _ _ rfl), walk_fields_cons _ _ definitions]
    rfl
  rw [Source.resolveIn, ran]
  rfl

theorem masked_acyclic (env : Environment) : Acyclic env maskedScope := by
  let last : Vertex := ⟨maskedScope, "/s".toList⟩
  let rank (id : Key) : Nat := if id = last.identity then 1 else 0
  have edges : ∀ a b, a ∈ [Vertex.start maskedScope, last] → Edge env maskedScope a b →
      a = .start maskedScope ∧ b = last := by
    intro a b mem edge
    simp only [List.mem_cons, List.not_mem_nil, or_false] at mem
    rcases mem with rfl | rfl
    · obtain ⟨ref, listed, target, leads, rfl⟩ := edge_reference (v := maskedScope.root) rfl edge
      have only : (parts maskedScope.root).filterMap ref? = ["#/s".toList] := rfl
      rw [only, List.mem_singleton] at listed
      subst listed
      rw [← leads_inside rfl leads]
      exact ⟨rfl, rfl⟩
    · exact absurd edge (no_edge (v := .str "hello".toList) rfl rfl)
  refine acyclic_of_rank (· ∈ [Vertex.start maskedScope, last]) rank (by simp) ?_ ?_
  · intro a b mem edge
    rw [(edges a b mem edge).2]
    simp
  · intro a b mem edge
    obtain ⟨rfl, rfl⟩ := edges a b mem edge
    decide

theorem unmasked_fails (env : Environment) :
    (Source.value unmaskedTree).resolveIn env = .error (.noBase "hello".toList) := by
  have fails : expand (loadOnce env.load) ⟨unmaskedTree, none⟩ [] unmaskedObject [] =
      some (.error (.noBase "hello".toList), []) := expand_astray [] rfl rfl
  have definitions : expand (loadOnce env.load) ⟨unmaskedTree, none⟩ [] (.obj [("X".toList, unmaskedObject)]) [] =
      some (.error (.noBase "hello".toList), []) := by
    rw [expand_object _ _ _ _ rfl, walk_fields_fails _ _ fails]
    rfl
  have ran : run env (.value unmaskedTree) = some (.error (.noBase "hello".toList), []) := by
    change expand (loadOnce env.load) ⟨unmaskedTree, none⟩ [] (.obj _) [] = _
    rw [expand_object _ _ _ _ rfl, walk_fields_cons _ _ (expand_scalar _ _ _ _ rfl), walk_fields_fails _ _ definitions]
    rfl
  rw [Source.resolveIn, ran]
  rfl

/-- Although no reference leads into a cycle, a tree may have an object with a text under `$ref` that is neither a marker
nor a reference of the document. A schema that is read from there is a reference, and the tree does not resolve to
itself. -/
theorem references_survive_without_cycles :
    openSource nowhere (.value maskedScope.root) = (.ok maskedScope, []) ∧ Acyclic nowhere maskedScope ∧
    (Source.value maskedScope.root).resolveIn nowhere = .ok unmaskedTree ∧
    nodeAt? [.key "definitions".toList, .key "X".toList] unmaskedTree = some unmaskedObject ∧
    ref? unmaskedObject = some "hello".toList ∧ unmaskedObject ≠ marker "hello".toList ∧
    refsIn maskedScope.root = ["#/s".toList] ∧
    (∃ api, Api.ofJson unmaskedTree = .ok api ∧ api.schemas.flatMap Schema.pointers = ["hello".toList]) ∧
    (Source.value unmaskedTree).resolveIn nowhere = .error (.noBase "hello".toList) := by
  have other : unmaskedObject ≠ marker "hello".toList := by
    intro same
    simp [unmaskedObject, marker] at same
  exact ⟨rfl, masked_acyclic nowhere, masked_resolves nowhere, rfl, rfl, other, rfl, ⟨_, rfl, rfl⟩, unmasked_fails nowhere⟩

end ApiTypes.Resolve
