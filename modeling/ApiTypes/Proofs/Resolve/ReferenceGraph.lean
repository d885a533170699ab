import Mathlib.Logic.Relation
import ApiTypes.Proofs.Resolve.Termination
import ApiTypes.Proofs.Resolve.Unfolding
/-!
The graph of the references that are reached from the document to start from. Its vertices are what references
designate, told apart by the text of a URL and a fragment. Where it has no cycle the expansion never meets a reference that
is open, so that no marker is left.
-/
namespace ApiTypes.Resolve

/-! ### Which document is served -/

/-- The document under the text of a URL: the one to start from under its own, and elsewhere what is loaded. -/
def Serves (env : Environment) (root : Scope) (u : Url) (doc : Json) : Prop :=
  if root.base.map Url.text = some u.text then doc = root.root else ∃ u', u'.text = u.text ∧ env.load u' = .ok doc

structure Served (env : Environment) (root : Scope) (s : Session) : Prop where
  all : ∀ u doc, documentOf s u = some doc → Serves env root u doc
  own : ∀ base, root.base = some base → documentOf s base = some root.root

theorem document_of_text {u u' : Url} (same : u.text = u'.text) (s : Session) : documentOf s u = documentOf s u' := by
  rw [documentOf, documentOf, same]

theorem load_once_served {env : Environment} {root : Scope} (u : Url) {s : Session} (served : Served env root s) :
    Served env root (loadOnce env.load u s).2 := by
  rcases load_once_cases env.load u s with ⟨doc, -, eq⟩ | ⟨doc, new, loaded, eq⟩ | ⟨e, -, -, eq⟩
  · rw [eq]
    exact served
  · rw [eq]
    -- The document to start from is not loaded again.
    have other : ∀ base, root.base = some base → base.text ≠ u.text := by
      intro base own same
      have has := served.own base own
      rw [document_of_text same, new] at has
      simp at has
    constructor
    · intro u' doc' has
      rw [document_of_cons] at has
      split at has
      · rename_i same
        cases has
        unfold Serves
        split
        · rename_i own
          obtain ⟨base, isBase, text⟩ := Option.map_eq_some_iff.mp own
          exact absurd (text.trans same.symm) (other base isBase)
        · exact ⟨u, same, loaded⟩
      · exact served.all u' doc' has
    · intro base own
      rw [document_of_cons, if_neg (Ne.symm (other base own))]
      exact served.own base own
  · rw [eq]
    exact served

theorem open_source_served {env : Environment} {source : Source} {root : Scope} {s : Session}
    (opened : openSource env source = (.ok root, s)) : Served env root s := by
  rcases open_source_cases opened with ⟨v, -, rfl, rfl⟩ | ⟨u, doc, rfl, rfl, -⟩
  · constructor
    · intro u doc has
      simp [nothing_read] at has
    · intro base own
      simp at own
  · constructor
    · intro u' doc' has
      obtain ⟨same, rfl⟩ := one_read has
      simp [Serves, same]
    · intro base own
      cases own
      rw [document_of_cons, if_pos rfl]

theorem resolved_unfolds {env : Environment} {source : Source} {out : Json} (resolved : source.resolveIn env = .ok out) :
    ∃ root opened docs, openSource env source = (.ok root, opened) ∧
      (∀ u doc, docs u = some doc → Serves env root u doc) ∧ Unfolds docs root [] root.root out := by
  obtain ⟨root, opened, session, opening, ran⟩ := resolved_run resolved
  have served : Served env root session :=
    expand_keeps (P := Served env root) (fun u _ before => load_once_served u before) ran (open_source_served opening)
  have unfolds : Unfolds (documentOf session) root [] root.root out :=
    ((unfolding_course env.load).holds ran session (Extends.refl session)).2 out rfl
  exact ⟨root, opened, documentOf session, opening, served.all, unfolds⟩

/-! ### The graph -/

def Leads (env : Environment) (root scope : Scope) (ref : Text) (target : Scope) : Prop :=
  ((Reference.ofText ref).kind = .inside ∧ scope = target) ∨
  ((Reference.ofText ref).kind ≠ .inside ∧
    ∃ u doc, documentUrl scope ref (.ofText ref) = .ok u ∧ Serves env root u doc ∧ ⟨doc, some u⟩ = target)

theorem designated_leads {env : Environment} {root : Scope} {docs : Url → Option Json}
    (serves : ∀ u doc, docs u = some doc → Serves env root u doc) {scope target : Scope} {ref : Text}
    (designates : designated? docs scope ref = some target) : Leads env root scope ref target := by
  rcases designated_iff.mp designates with inside | ⟨outside, u, doc, url, has, made⟩
  · exact Or.inl inside
  · exact Or.inr ⟨outside, u, doc, url, serves u doc has, made⟩

theorem leads_inside {env : Environment} {root scope target : Scope} {ref : Text}
    (inside : (Reference.ofText ref).kind = .inside) (leads : Leads env root scope ref target) : scope = target := by
  rcases leads with ⟨-, same⟩ | ⟨outside, -⟩
  · exact same
  · exact absurd inside outside

theorem leads_elsewhere {env : Environment} {root scope target : Scope} {ref : Text} {u : Url}
    (outside : (Reference.ofText ref).kind ≠ .inside) (address : documentUrl scope ref (.ofText ref) = .ok u)
    (elsewhere : root.base.map Url.text ≠ some u.text) (leads : Leads env root scope ref target) :
    ∃ u' doc, env.load u' = .ok doc ∧ target = ⟨doc, some u⟩ := by
  rcases leads with ⟨inside, -⟩ | ⟨-, u₁, doc, url, serves, rfl⟩
  · exact absurd inside outside
  · rw [address] at url
    cases url
    rw [Serves, if_neg elsewhere] at serves
    obtain ⟨u', -, loaded⟩ := serves
    exact ⟨u', doc, loaded, rfl⟩

mutual

/-- The values that are met in a value, itself among them. Nothing is met inside a reference. -/
def parts : Json → List Json
  | .obj fields =>
    .obj fields :: match ref? (.obj fields) with
      | some _ => []
      | none => fieldParts fields
  | .arr items => .arr items :: itemParts items
  | v => [v]

def itemParts : List Json → List Json
  | [] => []
  | v :: rest => parts v ++ itemParts rest

def fieldParts : Json.Fields → List Json
  | [] => []
  | (_, v) :: rest => parts v ++ fieldParts rest

end

theorem self_part (v : Json) : v ∈ parts v := by
  cases v <;> simp [parts]

theorem item_parts {items : List Json} {w : Json} (mem : w ∈ items) : parts w ⊆ itemParts items := by
  induction items with
  | nil => simp at mem
  | cons v rest ih =>
    intro u inside
    rw [itemParts, List.mem_append]
    rcases List.mem_cons.mp mem with rfl | later
    · exact Or.inl inside
    · exact Or.inr (ih later inside)

theorem field_parts {fields : Json.Fields} {name : Text} {w : Json} (mem : (name, w) ∈ fields) :
    parts w ⊆ fieldParts fields := by
  induction fields with
  | nil => simp at mem
  | cons field rest ih =>
    obtain ⟨name', v⟩ := field
    intro u inside
    rw [fieldParts, List.mem_append]
    rcases List.mem_cons.mp mem with first | later
    · cases first
      exact Or.inl inside
    · exact Or.inr (ih later inside)

mutual

theorem parts_of_part (v : Json) {u : Json} (mem : u ∈ parts v) : parts u ⊆ parts v := by
  match v with
  | .obj fields =>
    intro w inside
    rw [parts, List.mem_cons] at mem
    rcases mem with rfl | below
    · exact inside
    · cases reference : ref? (.obj fields) with
      | some ref => simp [reference] at below
      | none =>
        simp only [reference] at below
        rw [parts, reference]
        exact List.mem_cons_of_mem _ (field_parts_of_part fields below inside)
  | .arr items =>
    intro w inside
    rw [parts, List.mem_cons] at mem
    rcases mem with rfl | below
    · exact inside
    · rw [parts]
      exact List.mem_cons_of_mem _ (item_parts_of_part items below inside)
  | .null | .bool _ | .num _ | .str _ =>
    rw [parts, List.mem_singleton] at mem
    · rw [mem]
      exact List.Subset.refl _
    · simp
    · simp

theorem item_parts_of_part (items : List Json) {u : Json} (mem : u ∈ itemParts items) : parts u ⊆ itemParts items := by
  match items with
  | [] => simp [itemParts] at mem
  | v :: rest =>
    intro w inside
    rw [itemParts, List.mem_append] at mem ⊢
    rcases mem with first | later
    · exact Or.inl (parts_of_part v first inside)
    · exact Or.inr (item_parts_of_part rest later inside)

theorem field_parts_of_part (fields : Json.Fields) {u : Json} (mem : u ∈ fieldParts fields) :
    parts u ⊆ fieldParts fields := by
  match fields with
  | [] => simp [fieldParts] at mem
  | (_, v) :: rest =>
    intro w inside
    rw [fieldParts, List.mem_append] at mem ⊢
    rcases mem with first | later
    · exact Or.inl (parts_of_part v first inside)
    · exact Or.inr (field_parts_of_part rest later inside)

end

theorem item_part {items : List Json} {w : Json} (mem : w ∈ items) : w ∈ parts (.arr items) := by
  rw [parts]
  exact List.mem_cons_of_mem _ (item_parts mem (self_part w))

theorem field_part {fields : Json.Fields} {name : Text} {w : Json} (plain : ref? (.obj fields) = none)
    (mem : (name, w) ∈ fields) : w ∈ parts (.obj fields) := by
  rw [parts, plain]
  exact List.mem_cons_of_mem _ (field_parts mem (self_part w))

structure Vertex where
  scope : Scope
  fragment : Text

namespace Vertex

def identity (a : Vertex) : Key := key (baseText a.scope ++ '#' :: a.fragment)

def value? (a : Vertex) : Option Json := Pointer.get? a.fragment a.scope.root

def start (root : Scope) : Vertex := ⟨root, []⟩

def Holds (a : Vertex) (u : Json) : Prop := ∃ v, a.value? = some v ∧ u ∈ parts v

theorem start_holds (root : Scope) : (start root).Holds root.root := ⟨root.root, rfl, self_part root.root⟩

theorem Holds.part {a : Vertex} {u w : Json} (holds : a.Holds u) (mem : w ∈ parts u) : a.Holds w := by
  obtain ⟨v, there, inside⟩ := holds
  exact ⟨v, there, parts_of_part v inside mem⟩

end Vertex

def Edge (env : Environment) (root : Scope) (a b : Vertex) : Prop :=
  ∃ u ref, a.Holds u ∧ ref? u = some ref ∧ Leads env root a.scope ref b.scope ∧
    b.fragment = (Reference.ofText ref).fragment

def Reachable (env : Environment) (root : Scope) (a : Vertex) : Prop :=
  Relation.ReflTransGen (Edge env root) (.start root) a

/-- From no vertex that is reached do references lead back to its identity. -/
def Acyclic (env : Environment) (root : Scope) : Prop :=
  ∀ a b, Reachable env root a → Relation.TransGen (Edge env root) a b → a.identity ≠ b.identity

theorem edge_reference {env : Environment} {root : Scope} {a b : Vertex} {v : Json} (value : a.value? = some v)
    (edge : Edge env root a b) :
    ∃ ref ∈ (parts v).filterMap ref?, ∃ target, Leads env root a.scope ref target ∧
      b = ⟨target, (Reference.ofText ref).fragment⟩ := by
  obtain ⟨target, fragment⟩ := b
  obtain ⟨u, ref, ⟨w, there, mem⟩, reference, leads, rfl⟩ := edge
  rw [value] at there
  cases there
  exact ⟨ref, List.mem_filterMap.mpr ⟨u, mem, reference⟩, target, leads, rfl⟩

theorem no_edge {env : Environment} {root : Scope} {a b : Vertex} {v : Json} (value : a.value? = some v)
    (none : (parts v).filterMap ref? = []) : ¬ Edge env root a b := by
  intro edge
  obtain ⟨ref, listed, -⟩ := edge_reference value edge
  rw [none] at listed
  simp at listed

section Exploration

variable {env : Environment} {root : Scope} (known : Vertex → Prop)

theorem reachable_known (start : known (.start root)) (step : ∀ a b, known a → Edge env root a b → known b) {a : Vertex}
    (reachable : Reachable env root a) : known a := by
  induction reachable with
  | refl => exact start
  | tail _ edge ih => exact step _ _ ih edge

theorem rank_along (rank : Vertex → Nat) (step : ∀ a b, known a → Edge env root a b → known b)
    (grows : ∀ a b, known a → Edge env root a b → rank a < rank b) {a b : Vertex} (here : known a)
    (path : Relation.TransGen (Edge env root) a b) : rank a < rank b := by
  have along : known b ∧ rank a < rank b := by
    induction path with
    | single edge => exact ⟨step a _ here edge, grows a _ here edge⟩
    | tail _ edge ih => exact ⟨step _ _ ih.1 edge, Nat.lt_trans ih.2 (grows _ _ ih.1 edge)⟩
  exact along.2

/-- A graph is acyclic if something grows along its edges that identities alone decide. -/
theorem acyclic_of_rank (rank : Key → Nat) (start : known (.start root))
    (step : ∀ a b, known a → Edge env root a b → known b)
    (grows : ∀ a b, known a → Edge env root a b → rank a.identity < rank b.identity) : Acyclic env root := by
  intro a b reachable path same
  have more := rank_along known (fun a => rank a.identity) step grows (reachable_known known start step reachable) path
  rw [same] at more
  exact Nat.lt_irrefl _ more

end Exploration

/-! ### Texts in disguise -/

/-- A value is a reference that leads, maybe over others, to a text. -/
inductive Spells (env : Environment) (root : Scope) : Scope → Json → Text → Prop where
  | last {scope target : Scope} {v : Json} {ref t : Text} :
      ref? v = some ref → Leads env root scope ref target →
      Pointer.get? (Reference.ofText ref).fragment target.root = some (.str t) → Spells env root scope v t
  | more {scope target : Scope} {v w : Json} {ref t : Text} :
      ref? v = some ref → Leads env root scope ref target →
      Pointer.get? (Reference.ofText ref).fragment target.root = some w → Spells env root target w t →
      Spells env root scope v t

/-- An object that is no reference, but looks like one once the reference that it has under `$ref` is replaced. -/
def Disguised (env : Environment) (root scope : Scope) (v : Json) (t : Text) : Prop :=
  ref? v = none ∧ ∃ w, v.get? refKey = some w ∧ Spells env root scope w t

def Honest (env : Environment) (root : Scope) : Prop :=
  ∀ a u t, Reachable env root a → a.Holds u → ¬ Disguised env root a.scope u t

def textsOnly (v : Json) : Bool := (parts v).all fun u => (ref? u).isSome || (u.get? refKey).isNone

theorem honest_of_texts {env : Environment} {root : Scope} (known : Vertex → Prop) (start : known (.start root))
    (step : ∀ a b, known a → Edge env root a b → known b)
    (texts : ∀ a, known a → ∀ v, a.value? = some v → textsOnly v = true) : Honest env root := by
  rintro a u t reachable ⟨v, there, mem⟩ ⟨plain, w, found, -⟩
  have only := List.all_eq_true.mp (texts a (reachable_known known start step reachable) v there) u mem
  simp [plain, found] at only

section Unfolding

variable {env : Environment} {root : Scope} {docs : Url → Option Json}

theorem unfolds_spells (serves : ∀ u doc, docs u = some doc → Serves env root u doc) {scope : Scope} {stack : List Key}
    {v : Json} {t : Text} (unfolds : Unfolds docs scope stack v (.str t)) : v = .str t ∨ Spells env root scope v t := by
  generalize made : Json.str t = out at unfolds
  induction unfolds with
  | scalar _ => exact Or.inl rfl
  | array _ _ _ => cases made
  | object _ _ _ _ => cases made
  | cycle _ _ _ => cases made
  | target reference designates _ there _ ih =>
    have leads := designated_leads serves designates
    refine Or.inr ?_
    rcases ih made with same | spells
    · rw [same, ← made] at there
      exact .last reference leads there
    · exact .more reference leads there spells

theorem object_disguised (serves : ∀ u doc, docs u = some doc → Serves env root u doc) {scope : Scope}
    {stack : List Key} {fields outs : Json.Fields} {t : Text} (plain : ref? (.obj fields) = none)
    (names : fields.map Prod.fst = outs.map Prod.fst)
    (each : ∀ (i : Nat) field out, fields[i]? = some field → outs[i]? = some out →
      Unfolds docs scope stack field.2 out.2) (looks : ref? (.obj outs) = some t) :
    Disguised env root scope (.obj fields) t := by
  obtain ⟨w, found, text⟩ := Option.bind_eq_some_iff.mp looks
  have isText : w = .str t := by
    cases w with
    | str s => exact congrArg Json.str (Option.some.inj text)
    | _ => simp [Json.asText?] at text
  subst isText
  obtain ⟨i, v, source, at₁, at₂⟩ := get_alongside names found
  refine ⟨plain, v, source, ?_⟩
  rcases unfolds_spells serves (each i _ _ at₁ at₂) with rfl | spells
  · simp [ref?, Json.textAt?, source, Json.asText?] at plain
  · exact spells

/-! ### No markers -/

/-- An expansion is at a vertex, and what is open are vertices from which that one is reached. -/
structure Visits (env : Environment) (root : Scope) (stack : List Key) (scope : Scope) (u : Json) (a : Vertex) : Prop where
  reachable : Reachable env root a
  scope : a.scope = scope
  holds : a.Holds u
  openOnes : ∀ id ∈ stack, ∃ b, b.identity = id ∧ Reachable env root b ∧ Relation.ReflTransGen (Edge env root) b a

theorem Visits.part {stack : List Key} {scope : Scope} {u w : Json} {a : Vertex} (visits : Visits env root stack scope u a)
    (mem : w ∈ parts u) : Visits env root stack scope w a :=
  { visits with holds := visits.holds.part mem }

theorem Visits.edge {stack : List Key} {scope target : Scope} {u : Json} {ref : Text} {a : Vertex}
    (visits : Visits env root stack scope u a) (reference : ref? u = some ref) (leads : Leads env root scope ref target) :
    Edge env root a ⟨target, (Reference.ofText ref).fragment⟩ :=
  ⟨u, ref, visits.holds, reference, visits.scope ▸ leads, rfl⟩

theorem Visits.target {stack : List Key} {scope target : Scope} {u w : Json} {ref : Text} {a : Vertex}
    (visits : Visits env root stack scope u a) (reference : ref? u = some ref) (leads : Leads env root scope ref target)
    (there : Pointer.get? (Reference.ofText ref).fragment target.root = some w) :
    Visits env root (identity target (.ofText ref) :: stack) target w ⟨target, (Reference.ofText ref).fragment⟩ := by
  have edge := visits.edge reference leads
  have reachable := visits.reachable.tail edge
  refine ⟨reachable, rfl, ⟨w, there, self_part w⟩, ?_⟩
  intro id mem
  rcases List.mem_cons.mp mem with rfl | older
  · exact ⟨_, rfl, reachable, .refl⟩
  · obtain ⟨b, same, reached, path⟩ := visits.openOnes id older
    exact ⟨b, same, reached, path.tail edge⟩

theorem items_unreferenced {items : List Json} (each : ∀ w ∈ items, refsIn w = []) : refsInItems items = [] := by
  induction items with
  | nil => rfl
  | cons v rest ih =>
    rw [refsInItems, each v (by simp), ih fun w mem => each w (by simp [mem])]
    rfl

theorem fields_unreferenced {fields : Json.Fields} (each : ∀ field ∈ fields, refsIn field.2 = []) :
    refsInFields fields = [] := by
  induction fields with
  | nil => rfl
  | cons field rest ih =>
    rw [refsInFields, each field (by simp), ih fun w mem => each w (by simp [mem])]
    rfl

/-- Where the graph has no cycle and nothing is in disguise, an expansion leaves no reference behind. -/
theorem unfolds_unreferenced (serves : ∀ u doc, docs u = some doc → Serves env root u doc) (acyclic : Acyclic env root)
    (honest : Honest env root) {scope : Scope} {stack : List Key} {v out : Json}
    (unfolds : Unfolds docs scope stack v out) {a : Vertex} (visits : Visits env root stack scope v a) :
    refsIn out = [] := by
  induction unfolds generalizing a with
  | @scalar scope stack v scalar => cases v <;> simp_all [isScalar, refsIn]
  | @array scope stack items outs length each ih =>
    rw [refsIn]
    apply items_unreferenced
    intro w mem
    obtain ⟨i, inside, made⟩ := List.getElem_of_mem mem
    have source : items[i]? = some items[i] := List.getElem?_eq_getElem (length ▸ inside)
    exact ih i items[i] w source (by rw [← made]; exact List.getElem?_eq_getElem inside)
      (visits.part (item_part (List.mem_of_getElem? source)))
  | @object scope stack fields outs plain names each ih =>
    have looks : ref? (.obj outs) = none := by
      cases found : ref? (.obj outs) with
      | none => rfl
      | some t =>
        have disguised := object_disguised serves plain names each found
        rw [← visits.scope] at disguised
        exact absurd disguised (honest a _ t visits.reachable visits.holds)
    rw [refsIn, looks]
    apply fields_unreferenced
    intro out mem
    obtain ⟨i, inside, made⟩ := List.getElem_of_mem mem
    have length : fields.length = outs.length := by simpa using congrArg List.length names
    have source : fields[i]? = some fields[i] := List.getElem?_eq_getElem (length ▸ inside)
    exact ih i fields[i] out source (by rw [← made]; exact List.getElem?_eq_getElem inside)
      (visits.part (field_part plain (List.mem_of_getElem? source)))
  | cycle reference designates onStack =>
    -- The reference would close a cycle through a vertex that is open.
    have edge := visits.edge reference (designated_leads serves designates)
    obtain ⟨b, same, reached, path⟩ := visits.openOnes _ onStack
    exact absurd same (acyclic b _ reached (Relation.TransGen.tail' path edge))
  | target reference designates _ there _ ih =>
    exact ih (visits.target reference (designated_leads serves designates) there)

end Unfolding

end ApiTypes.Resolve
