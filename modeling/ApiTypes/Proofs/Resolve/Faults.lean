import ApiTypes.Error
import ApiTypes.Proofs.PointerLookup
import ApiTypes.Proofs.Resolve.Memory
import ApiTypes.Proofs.Resolve.Termination
import ApiTypes.Proofs.Text
import ApiTypes.Proofs.Url.Fragment
/-!
Resolution fails exactly on broken references. The references that are met on the way through a document, and through what
they designate, are listed in their order. The first one that is broken decides how resolution fails, and where there is
none it succeeds. A reference that is cut is not looked at; it is sound nevertheless, unless the URL to start from has a
fragment itself.
-/
namespace ApiTypes.Resolve

/-! ### References that are met -/

/-- A reference that is met in a document, while those on the stack are being expanded. -/
structure Visit where
  scope : Scope
  stack : List Key
  ref : Text

def had (docs : Url → Except LoadError Json) (u : Url) : Option Json := (docs u).toOption

namespace Visit

variable (docs : Url → Except LoadError Json)

/-- The document that a reference designates can be had, and the pointer exists in it. -/
def Arrives (m : Visit) (target : Scope) (w : Json) : Prop :=
  designated? (had docs) m.scope m.ref = some target ∧ Pointer.get? (Reference.ofText m.ref).fragment target.root = some w

def Sound (m : Visit) : Prop := ∃ target w, m.Arrives docs target w

/-- The same, but the pointer is read as a path to follow and not as the code looks it up. -/
def Present (m : Visit) : Prop :=
  ∃ target w, designated? (had docs) m.scope m.ref = some target ∧
    Pointer.Present (Reference.ofText m.ref).fragment target.root w

def Cut (m : Visit) : Prop :=
  ∃ target, designated? (had docs) m.scope m.ref = some target ∧ identity target (.ofText m.ref) ∈ m.stack

/-- What is wrong with a broken reference: it names no document, the document cannot be had, or the pointer does not exist
in it. -/
inductive Fault : Visit → Error → Prop where
  | address {m : Visit} {e : Error} : (Reference.ofText m.ref).kind ≠ .inside →
      documentUrl m.scope m.ref (.ofText m.ref) = .error e → Fault m e
  | document {m : Visit} {u : Url} {e : LoadError} : (Reference.ofText m.ref).kind ≠ .inside →
      documentUrl m.scope m.ref (.ofText m.ref) = .ok u → docs u = .error e → Fault m (.load e)
  | pointer {m : Visit} {target : Scope} : designated? (had docs) m.scope m.ref = some target →
      Pointer.get? (Reference.ofText m.ref).fragment target.root = none → Fault m (.noTarget m.ref)

end Visit

/-- The references that are met in a value, in their order: fields and items one after the other, and after a reference
those in what it designates. Nothing is met beyond a reference that is broken or cut. -/
inductive Tours (docs : Url → Except LoadError Json) : Scope → List Key → Json → List Visit → Prop where
  | scalar {scope : Scope} {stack : List Key} {v : Json} : isScalar v = true → Tours docs scope stack v []
  | array {scope : Scope} {stack : List Key} {items : List Json} {tours : List (List Visit)} :
      items.length = tours.length →
      (∀ (i : Nat) v visits, items[i]? = some v → tours[i]? = some visits → Tours docs scope stack v visits) →
      Tours docs scope stack (.arr items) tours.flatten
  | object {scope : Scope} {stack : List Key} {fields : Json.Fields} {tours : List (List Visit)} :
      ref? (.obj fields) = none → fields.length = tours.length →
      (∀ (i : Nat) field visits, fields[i]? = some field → tours[i]? = some visits →
        Tours docs scope stack field.2 visits) →
      Tours docs scope stack (.obj fields) tours.flatten
  | stop {scope : Scope} {stack : List Key} {v : Json} {ref : Text} : ref? v = some ref →
      Visit.Cut docs ⟨scope, stack, ref⟩ ∨ ¬ Visit.Sound docs ⟨scope, stack, ref⟩ →
      Tours docs scope stack v [⟨scope, stack, ref⟩]
  | target {scope target : Scope} {stack : List Key} {v w : Json} {ref : Text} {visits : List Visit} :
      ref? v = some ref → Visit.Arrives docs ⟨scope, stack, ref⟩ target w → identity target (.ofText ref) ∉ stack →
      Tours docs target (identity target (.ofText ref) :: stack) w visits →
      Tours docs scope stack v (⟨scope, stack, ref⟩ :: visits)

def Clear (docs : Url → Except LoadError Json) (visits : List Visit) : Prop := ∀ m ∈ visits, m.Sound docs ∨ m.Cut docs

/-- What is wrong with the first reference that is broken and not cut. -/
inductive FirstFault (docs : Url → Except LoadError Json) : List Visit → Error → Prop where
  | here {m : Visit} {later : List Visit} {e : Error} : ¬ m.Cut docs → m.Fault docs e → FirstFault docs (m :: later) e
  | later {m : Visit} {later : List Visit} {e : Error} : m.Sound docs ∨ m.Cut docs → FirstFault docs later e →
      FirstFault docs (m :: later) e

section Verdict

variable {docs : Url → Except LoadError Json}

theorem had_iff {u : Url} {doc : Json} : had docs u = some doc ↔ docs u = .ok doc := by
  unfold had
  cases docs u <;> simp [Except.toOption]

theorem target_afresh_ok {scope target : Scope} {ref : Text} :
    targetScope (loadAfresh docs) scope ref (.ofText ref) () = (.ok target, ()) ↔
      designated? (had docs) scope ref = some target := by
  unfold targetScope designated? had
  cases (Reference.ofText ref).kind with
  | inside => simp
  | relative | remote =>
    cases documentUrl scope ref (.ofText ref) with
    | error e => simp
    | ok u => cases loaded : docs u <;> simp [load_afresh, loaded, Except.map, Except.mapError, Except.toOption]

theorem target_afresh_error {m : Visit} {e : Error}
    (failed : targetScope (loadAfresh docs) m.scope m.ref (.ofText m.ref) () = (.error e, ())) : m.Fault docs e := by
  unfold targetScope at failed
  cases kind : (Reference.ofText m.ref).kind with
  | inside => simp [kind] at failed
  | relative | remote =>
    have outside : (Reference.ofText m.ref).kind ≠ .inside := by simp [kind]
    cases url : documentUrl m.scope m.ref (.ofText m.ref) with
    | error e' =>
      simp only [kind, url, Prod.mk.injEq, Except.error.injEq, and_true] at failed
      exact failed ▸ .address outside url
    | ok u =>
      cases loaded : docs u with
      | ok doc => simp [kind, url, load_afresh, loaded, Except.map, Except.mapError] at failed
      | error e' =>
        simp only [kind, url, load_afresh, loaded, Except.map, Except.mapError, Prod.map, Prod.mk.injEq,
          Except.error.injEq] at failed
        exact failed.1 ▸ .document outside url loaded

/- A document that is designated has a URL, from which it can be had, or is that of the reference. -/
theorem designated_outside {m : Visit} {target : Scope} (designates : designated? (had docs) m.scope m.ref = some target)
    (outside : (Reference.ofText m.ref).kind ≠ .inside) :
    ∃ u doc, documentUrl m.scope m.ref (.ofText m.ref) = .ok u ∧ docs u = .ok doc := by
  rcases designated_iff.mp designates with ⟨inside, -⟩ | ⟨-, u, doc, url, has, -⟩
  · exact absurd inside outside
  · exact ⟨u, doc, url, had_iff.mp has⟩

theorem designated_fault {m : Visit} {e : Error} {target : Scope} (fault : m.Fault docs e)
    (designates : designated? (had docs) m.scope m.ref = some target) :
    Pointer.get? (Reference.ofText m.ref).fragment target.root = none ∧ e = .noTarget m.ref := by
  cases fault with
  | address outside failed =>
    obtain ⟨u, doc, url, -⟩ := designated_outside designates outside
    rw [failed] at url
    simp at url
  | document outside address failed =>
    obtain ⟨u, doc, url, has⟩ := designated_outside designates outside
    rw [address] at url
    cases url
    rw [failed] at has
    simp at has
  | pointer designates' missing =>
    rw [designates] at designates'
    cases designates'
    exact ⟨missing, rfl⟩

theorem fault_not_sound {m : Visit} {e : Error} (fault : m.Fault docs e) : ¬ m.Sound docs := by
  rintro ⟨target, w, designates, there⟩
  rw [(designated_fault fault designates).1] at there
  simp at there

theorem fault_unique {m : Visit} {e e' : Error} (fault : m.Fault docs e) (fault' : m.Fault docs e') : e = e' := by
  cases fault with
  | address outside failed =>
    cases fault' with
    | address _ failed' =>
      rw [failed] at failed'
      exact Except.error.inj failed'
    | document _ address _ =>
      rw [failed] at address
      simp at address
    | pointer designates _ =>
      obtain ⟨u, doc, url, -⟩ := designated_outside designates outside
      rw [failed] at url
      simp at url
  | document outside address failed =>
    cases fault' with
    | address _ failed' =>
      rw [address] at failed'
      simp at failed'
    | document _ address' failed' =>
      rw [address] at address'
      cases address'
      rw [failed] at failed'
      rw [Except.error.inj failed']
    | pointer designates _ => exact (designated_fault (.document outside address failed) designates).2
  | pointer designates missing => exact (designated_fault fault' designates).2.symm

theorem first_fault_not_clear {visits : List Visit} {e : Error} (first : FirstFault docs visits e) :
    ¬ Clear docs visits := by
  intro clear
  induction first with
  | @here m later e uncut fault =>
    rcases clear m (by simp) with sound | cut
    · exact fault_not_sound fault sound
    · exact uncut cut
  | @later m later e _ _ ih => exact ih fun m' mem => clear m' (by simp [mem])

theorem first_fault_unique {visits : List Visit} {e e' : Error} (first : FirstFault docs visits e)
    (first' : FirstFault docs visits e') : e = e' := by
  induction first with
  | here uncut fault =>
    cases first' with
    | here _ fault' => exact fault_unique fault fault'
    | later passes _ =>
      rcases passes with sound | cut
      · exact absurd sound (fault_not_sound fault)
      · exact absurd cut uncut
  | later passes _ ih =>
    cases first' with
    | here uncut fault =>
      rcases passes with sound | cut
      · exact absurd sound (fault_not_sound fault)
      · exact absurd cut uncut
    | later _ rest => exact ih rest

theorem first_fault_append {visits : List Visit} {e : Error} (first : FirstFault docs visits e) (more : List Visit) :
    FirstFault docs (visits ++ more) e := by
  induction first with
  | here uncut fault => exact .here uncut fault
  | later passes _ ih => exact .later passes ih

theorem first_fault_after {visits more : List Visit} {e : Error} (clear : Clear docs visits)
    (first : FirstFault docs more e) : FirstFault docs (visits ++ more) e := by
  induction visits with
  | nil => exact first
  | cons m rest ih =>
    refine .later (clear m (by simp)) (ih ?_)
    exact fun m' mem => clear m' (by simp [mem])

def Verdict {α : Type} (docs : Url → Except LoadError Json) (visits : List Visit) : Except Error α → Prop
  | .ok _ => Clear docs visits
  | .error e => FirstFault docs visits e

theorem Verdict.map {α β : Type} {visits : List Visit} {r : Except Error α} (verdict : Verdict docs visits r)
    (f : α → β) : Verdict docs visits (r.map f) := by
  cases r with
  | error e => exact verdict
  | ok a => exact verdict

/- After what goes well comes what is said of the rest. -/
theorem Verdict.after {α : Type} {visits more : List Visit} {r : Except Error α} (clear : Clear docs visits)
    (verdict : Verdict docs more r) : Verdict docs (visits ++ more) r := by
  cases r with
  | error e => exact first_fault_after clear verdict
  | ok a =>
    intro m mem
    rcases List.mem_append.mp mem with first | later
    · exact clear m first
    · exact verdict m later

theorem verdict_ok_iff {α : Type} {visits : List Visit} {r : Except Error α} (verdict : Verdict docs visits r) :
    (∃ out, r = .ok out) ↔ Clear docs visits := by
  cases r with
  | ok out => exact ⟨fun _ => verdict, fun _ => ⟨out, rfl⟩⟩
  | error e => exact ⟨by simp, fun clear => absurd clear (first_fault_not_clear verdict)⟩

theorem verdict_error_iff {α : Type} {visits : List Visit} {r : Except Error α} (verdict : Verdict docs visits r)
    (e : Error) : r = .error e ↔ FirstFault docs visits e := by
  cases r with
  | ok out => exact ⟨by simp, fun first => absurd verdict (first_fault_not_clear first)⟩
  | error e' =>
    constructor
    · rintro ⟨⟩
      exact verdict
    · intro first
      rw [first_fault_unique verdict first]

end Verdict

/-! ### A tour and its expansion -/

section Expansion

variable {docs : Url → Except LoadError Json} {scope : Scope} {stack : List Key}

theorem items_verdict {items : List Json} {tours : List (List Visit)} (length : items.length = tours.length)
    (each : ∀ (i : Nat) v visits, items[i]? = some v → tours[i]? = some visits →
      ∃ r, expand (loadAfresh docs) scope stack v () = some (r, ()) ∧ Verdict docs visits r) :
    ∃ r, walkItems (expand (loadAfresh docs) scope stack) items () = some (r, ()) ∧ Verdict docs tours.flatten r := by
  induction items generalizing tours with
  | nil =>
    cases tours with
    | nil => exact ⟨_, rfl, by simp [Verdict, Clear]⟩
    | cons _ _ => simp at length
  | cons v rest ih =>
    cases tours with
    | nil => simp at length
    | cons visits tours =>
      obtain ⟨r, ran, verdict⟩ := each 0 v visits rfl rfl
      rw [List.flatten_cons]
      cases r with
      | error e => exact ⟨.error e, walk_items_fails rest ran, first_fault_append verdict _⟩
      | ok w =>
        obtain ⟨r, later, verdict'⟩ := ih (by simpa using length) fun i v visits source tour =>
          each (i + 1) v visits (by simpa using source) (by simpa using tour)
        refine ⟨r.map (w :: ·), ?_, Verdict.after verdict (verdict'.map _)⟩
        rw [walk_items_cons rest ran, later]
        rfl

theorem fields_verdict {fields : Json.Fields} {tours : List (List Visit)} (length : fields.length = tours.length)
    (each : ∀ (i : Nat) field visits, fields[i]? = some field → tours[i]? = some visits →
      ∃ r, expand (loadAfresh docs) scope stack field.2 () = some (r, ()) ∧ Verdict docs visits r) :
    ∃ r, walkFields (expand (loadAfresh docs) scope stack) fields () = some (r, ()) ∧ Verdict docs tours.flatten r := by
  induction fields generalizing tours with
  | nil =>
    cases tours with
    | nil => exact ⟨_, rfl, by simp [Verdict, Clear]⟩
    | cons _ _ => simp at length
  | cons field rest ih =>
    obtain ⟨name, v⟩ := field
    cases tours with
    | nil => simp at length
    | cons visits tours =>
      obtain ⟨r, ran, verdict⟩ := each 0 (name, v) visits rfl rfl
      rw [List.flatten_cons]
      cases r with
      | error e => exact ⟨.error e, walk_fields_fails name rest ran, first_fault_append verdict _⟩
      | ok w =>
        obtain ⟨r, later, verdict'⟩ := ih (by simpa using length) fun i field visits source tour =>
          each (i + 1) field visits (by simpa using source) (by simpa using tour)
        refine ⟨r.map ((name, w) :: ·), ?_, Verdict.after verdict (verdict'.map _)⟩
        rw [walk_fields_cons name rest ran, later]
        rfl

/- A reference beyond which nothing is met is cut, or fails. -/
theorem stop_verdict {v : Json} {ref : Text} (reference : ref? v = some ref)
    (stops : Visit.Cut docs ⟨scope, stack, ref⟩ ∨ ¬ Visit.Sound docs ⟨scope, stack, ref⟩) :
    ∃ r, expand (loadAfresh docs) scope stack v () = some (r, ()) ∧ Verdict docs [⟨scope, stack, ref⟩] r := by
  cases found : targetScope (loadAfresh docs) scope ref (.ofText ref) () with
  | mk result memory =>
    cases result with
    | error e =>
      have fault : Visit.Fault docs ⟨scope, stack, ref⟩ e := target_afresh_error found
      have uncut : ¬ Visit.Cut docs ⟨scope, stack, ref⟩ := by
        rintro ⟨target, designates, -⟩
        rw [← target_afresh_ok, found] at designates
        simp at designates
      exact ⟨_, expand_astray stack reference found, .here uncut fault⟩
    | ok target =>
      have designates := target_afresh_ok.mp found
      by_cases onStack : identity target (.ofText ref) ∈ stack
      · have entering : entered target stack ref (.ofText ref) = .ok none := by simp [entered, onStack]
        refine ⟨_, expand_cycle reference found entering, ?_⟩
        intro m mem
        rw [List.mem_singleton.mp mem]
        exact Or.inr ⟨target, designates, onStack⟩
      · have uncut : ¬ Visit.Cut docs ⟨scope, stack, ref⟩ := by
          rintro ⟨target', designates', onStack'⟩
          rw [designates] at designates'
          cases designates'
          exact onStack onStack'
        have missing : Pointer.get? (Reference.ofText ref).fragment target.root = none := by
          rcases stops with cut | unsound
          · exact absurd cut uncut
          · cases there : Pointer.get? (Reference.ofText ref).fragment target.root with
            | none => rfl
            | some w => exact absurd ⟨target, w, designates, there⟩ unsound
        have entering : entered target stack ref (.ofText ref) = .error (.noTarget ref) := by
          simp [entered, onStack, missing]
        exact ⟨_, expand_missing reference found entering, .here uncut (.pointer designates missing)⟩

/-- An expansion comes to what the references on the tour say. -/
theorem tour_verdict {v : Json} {visits : List Visit} (tours : Tours docs scope stack v visits) :
    ∃ r, expand (loadAfresh docs) scope stack v () = some (r, ()) ∧ Verdict docs visits r := by
  induction tours with
  | scalar scalar => exact ⟨_, expand_scalar _ _ _ _ scalar, by simp [Verdict, Clear]⟩
  | @array scope stack items tours length _ ih =>
    obtain ⟨r, ran, verdict⟩ := items_verdict length ih
    refine ⟨r.map .arr, ?_, verdict.map _⟩
    rw [expand_array, ran]
    rfl
  | @object scope stack fields tours plain length _ ih =>
    obtain ⟨r, ran, verdict⟩ := fields_verdict length ih
    refine ⟨r.map .obj, ?_, verdict.map _⟩
    rw [expand_object _ _ _ _ plain, ran]
    rfl
  | stop reference stops => exact stop_verdict reference stops
  | @target scope target stack v w ref visits reference arrives new _ ih =>
    obtain ⟨r, ran, verdict⟩ := ih
    have found := target_afresh_ok.mpr arrives.1
    have entering : entered target stack ref (.ofText ref) = .ok (some w) := by
      simp [entered, new, arrives.2]
    refine ⟨r, (expand_target reference found entering).trans ran, ?_⟩
    have sound : Clear docs [⟨scope, stack, ref⟩] := by
      intro m mem
      rw [List.mem_singleton.mp mem]
      exact Or.inl ⟨target, w, arrives⟩
    exact Verdict.after sound verdict

end Expansion

/-! ### Every tour ends -/

section Finite

variable {docs : Url → Except LoadError Json}

theorem items_tour {scope : Scope} {stack : List Key} {items : List Json}
    (each : ∀ w ∈ items, ∃ visits, Tours docs scope stack w visits) :
    ∃ tours : List (List Visit), items.length = tours.length ∧
      ∀ (i : Nat) v visits, items[i]? = some v → tours[i]? = some visits → Tours docs scope stack v visits := by
  induction items with
  | nil => exact ⟨[], rfl, by simp⟩
  | cons v rest ih =>
    obtain ⟨visits, first⟩ := each v (by simp)
    obtain ⟨tours, length, later⟩ := ih fun w mem => each w (by simp [mem])
    refine ⟨visits :: tours, by simp [length], ?_⟩
    intro i
    cases i with
    | zero =>
      intro v' visits' source tour
      simp only [List.getElem?_cons_zero, Option.some.injEq] at source tour
      subst v' visits'
      exact first
    | succ i =>
      intro v' visits' source tour
      simp only [List.getElem?_cons_succ] at source tour
      exact later i v' visits' source tour

theorem tour_of_calls {c : Call}
    (each : ∀ c', CallsAmong (fun u doc => docs u = .ok doc) c c' → ∃ visits, Tours docs c'.scope c'.stack c'.value visits) :
    ∃ visits, Tours docs c.scope c.stack c.value visits := by
  obtain ⟨scope, stack, v⟩ := c
  cases reference : ref? v with
  | some ref =>
    by_cases stops : Visit.Cut docs ⟨scope, stack, ref⟩ ∨ ¬ Visit.Sound docs ⟨scope, stack, ref⟩
    · exact ⟨_, .stop reference stops⟩
    · rw [not_or, not_not] at stops
      obtain ⟨uncut, target, w, designates, there⟩ := stops
      have new : identity target (.ofText ref) ∉ stack := fun onStack => uncut ⟨target, designates, onStack⟩
      obtain ⟨visits, tours⟩ := each ⟨target, identity target (.ofText ref) :: stack, w⟩
        (.target reference ⟨had docs, fun u doc has => had_iff.mp has, designates⟩ new there)
      exact ⟨_, .target reference ⟨designates, there⟩ new tours⟩
  | none =>
    cases v with
    | arr items =>
      obtain ⟨tours, length, all⟩ := items_tour fun w mem => each ⟨scope, stack, w⟩ (.item mem)
      exact ⟨_, .array length all⟩
    | obj fields =>
      have parts : ∀ w ∈ fields.map Prod.snd, ∃ visits, Tours docs scope stack w visits := by
        intro w mem
        obtain ⟨⟨name, w'⟩, listed, rfl⟩ := List.mem_map.mp mem
        exact each ⟨scope, stack, w'⟩ (.field reference listed)
      obtain ⟨tours, length, all⟩ := items_tour parts
      refine ⟨_, .object reference (by simpa using length) ?_⟩
      intro i field visits source tour
      exact all i field.2 visits (by simp [source]) tour
    | _ => exact ⟨_, .scalar rfl⟩

theorem known_call_tour {good : Url → Prop} {texts refs : List Text}
    (confined : Confined good (fun u doc => docs u = .ok doc) texts refs) (c : Call) (known : Known good texts refs c) :
    ∃ visits, Tours docs c.scope c.stack c.value visits :=
  tour_of_calls fun c' call => known_call_tour confined c' (calls_known confined known call)
termination_by c.measure (identitiesOf texts refs)
decreasing_by exact calls_decrease confined known call

variable {env : Environment} {root : Scope}

/- A text stands for one document at most, whichever URLs have it. -/
theorem documents_at_texts (fixed : Fixed env) (texts : List Text) :
    ∃ listed : List Json, ∀ u doc, Named env u → u.text ∈ texts → env.load u = .ok doc → doc ∈ listed := by
  induction texts with
  | nil => exact ⟨[], by simp⟩
  | cons t texts ih =>
    obtain ⟨listed, others⟩ := ih
    by_cases has : ∃ u doc, Named env u ∧ u.text = t ∧ env.load u = .ok doc
    · obtain ⟨u, doc, named, text, loaded⟩ := has
      refine ⟨doc :: listed, ?_⟩
      intro u' doc' named' mem loaded'
      rcases List.mem_cons.mp mem with same | later
      · rw [fixed u' u named' named (same.trans text.symm), loaded] at loaded'
        cases loaded'
        exact List.mem_cons_self
      · exact List.mem_cons_of_mem _ (others u' doc' named' later loaded')
    · refine ⟨listed, ?_⟩
      intro u' doc' named' mem loaded'
      rcases List.mem_cons.mp mem with same | later
      · exact absurd ⟨u', doc', named', same, loaded'⟩ has
      · exact others u' doc' named' later loaded'

/-- If the URLs that can be loaded have finitely many texts, the references that are met can be listed. -/
theorem finite_tour (fixed : Fixed env) (named : Alike.GoodScope (Named env) root) {texts : List Text}
    (finite : ∀ u doc, env.load u = .ok doc → u.text ∈ texts) :
    ∃ visits, Tours (serve env root) root [] root.root visits := by
  obtain ⟨listed, all⟩ := documents_at_texts fixed texts
  let refs := (root.root :: listed).flatMap refsIn
  have own : refsIn root.root ⊆ refs := fun ref inside => List.mem_flatMap.mpr ⟨_, List.mem_cons_self, inside⟩
  have confined : Confined (Named env) (fun u doc => serve env root u = .ok doc) (baseText root :: texts) refs := by
    refine ⟨fun scope ref u isNamed _ => document_url_named scope ref u isNamed, ?_⟩
    intro u doc isNamed served
    unfold serve at served
    split at served
    · rename_i isOwn
      cases served
      exact ⟨by simp [baseText, isOwn], own⟩
    · refine ⟨List.mem_cons_of_mem _ (finite u doc served), fun ref inside => List.mem_flatMap.mpr ⟨doc, ?_, inside⟩⟩
      exact List.mem_cons_of_mem _ (all u doc isNamed (finite u doc served) served)
  exact known_call_tour confined ⟨root, [], root.root⟩ ⟨named, List.mem_cons_self, own, own⟩

end Finite

/-! ### What is met on a tour -/

/- Each visit is made in a document that references lead to. -/
theorem tour_visits {docs : Url → Except LoadError Json} {P : Scope → List Key → Prop}
    (enters : ∀ scope stack ref target w, P scope stack → Visit.Arrives docs ⟨scope, stack, ref⟩ target w →
      P target (identity target (.ofText ref) :: stack))
    {scope : Scope} {stack : List Key} {v : Json} {visits : List Visit} (tours : Tours docs scope stack v visits)
    (start : P scope stack) : ∀ m ∈ visits, P m.scope m.stack := by
  induction tours with
  | scalar _ => simp
  | @array scope stack items tours length _ ih =>
    intro m mem
    obtain ⟨visits, listed, inside⟩ := List.mem_flatten.mp mem
    obtain ⟨i, bound, rfl⟩ := List.getElem_of_mem listed
    have within : i < items.length := length ▸ bound
    exact ih i _ _ (List.getElem?_eq_getElem within) (List.getElem?_eq_getElem bound) start m inside
  | @object scope stack fields tours _ length _ ih =>
    intro m mem
    obtain ⟨visits, listed, inside⟩ := List.mem_flatten.mp mem
    obtain ⟨i, bound, rfl⟩ := List.getElem_of_mem listed
    have within : i < fields.length := length ▸ bound
    exact ih i _ _ (List.getElem?_eq_getElem within) (List.getElem?_eq_getElem bound) start m inside
  | stop _ _ =>
    intro m mem
    rw [List.mem_singleton.mp mem]
    exact start
  | @target scope target stack v w ref visits _ arrives _ _ ih =>
    intro m mem
    rcases List.mem_cons.mp mem with rfl | later
    · exact start
    · exact ih (enters scope stack ref target w start arrives) m later

/-! ### References that are cut -/

section Cut

variable {env : Environment} {root : Scope}

/-- The document to start from, or one that is served under a URL without a number sign. -/
def Placed (env : Environment) (root scope : Scope) : Prop :=
  scope = root ∨ ∃ u doc, scope = ⟨doc, some u⟩ ∧ Named env u ∧ '#' ∉ u.text ∧ serve env root u = .ok doc

theorem placed_unmarked {scope : Scope} (placed : Placed env root scope) (plain : '#' ∉ baseText root) :
    '#' ∉ baseText scope := by
  rcases placed with rfl | ⟨u, doc, rfl, -, unmarked, -⟩
  · exact plain
  · exact unmarked

theorem designated_placed (named : Alike.GoodScope (Named env) root) (plain : '#' ∉ baseText root) {scope target : Scope}
    {ref : Text} (placed : Placed env root scope)
    (designates : designated? (had (serve env root)) scope ref = some target) : Placed env root target := by
  rcases designated_iff.mp designates with ⟨-, rfl⟩ | ⟨-, u, doc, url, has, rfl⟩
  · exact placed
  · refine Or.inr ⟨u, doc, rfl, ?_, document_url_unmarked (placed_unmarked placed plain) url, had_iff.mp has⟩
    refine document_url_named scope ref u ?_ url
    intro base own
    rcases placed with rfl | ⟨u', doc', rfl, isNamed, -⟩
    · exact named base own
    · cases own
      exact isNamed

theorem text_nonempty (u : Url) : u.text ≠ [] := by
  simp [Url.text]

/- The text of a URL decides which document is served. -/
theorem placed_same (fixed : Fixed env) {a b : Scope} (placed : Placed env root a) (placed' : Placed env root b)
    (same : baseText a = baseText b) : a.root = b.root := by
  have own : ∀ u doc, baseText root = u.text → serve env root u = .ok doc → root.root = doc := by
    intro u doc text served
    have isOwn : root.base.map Url.text = some u.text := by
      cases base : root.base with
      | none =>
        simp only [baseText, base, Option.map_none, Option.getD_none] at text
        exact absurd text.symm (text_nonempty u)
      | some u' => simpa [baseText, base] using text
    rw [serve, if_pos isOwn] at served
    exact Except.ok.inj served
  rcases placed with rfl | ⟨u, doc, rfl, isNamed, -, served⟩
  · rcases placed' with rfl | ⟨u', doc', rfl, -, -, served'⟩
    · rfl
    · exact own u' doc' same served'
  · rcases placed' with rfl | ⟨u', doc', rfl, isNamed', -, served'⟩
    · exact (own u doc same.symm served).symm
    · have text : u.text = u'.text := same
      have again : serve env root u = serve env root u' := by
        unfold serve
        rw [text, fixed u u' isNamed isNamed' text]
      rw [again, served'] at served
      exact (Except.ok.inj served).symm

def Existing (env : Environment) (root : Scope) (stack : List Key) : Prop :=
  ∀ id ∈ stack, ∃ scope fragment w, Placed env root scope ∧ id = key (baseText scope ++ '#' :: fragment) ∧
    Pointer.get? fragment scope.root = some w

/- The identity of a reference that is cut is that of one whose pointer was found, in the same document. -/
theorem cut_sound (fixed : Fixed env) (named : Alike.GoodScope (Named env) root) (plain : '#' ∉ baseText root) {m : Visit}
    (placed : Placed env root m.scope) (existing : Existing env root m.stack) (cut : m.Cut (serve env root)) :
    m.Sound (serve env root) := by
  obtain ⟨target, designates, onStack⟩ := cut
  obtain ⟨scope, fragment, w, isPlaced, same, there⟩ := existing _ onStack
  have placed' := designated_placed named plain placed designates
  have parts := Text.append_mark_inj (placed_unmarked placed' plain) (placed_unmarked isPlaced plain) (key_eq_iff.mp same)
  refine ⟨target, w, designates, ?_⟩
  rw [parts.2, placed_same fixed placed' isPlaced parts.1]
  exact there

theorem tour_cut_sound (fixed : Fixed env) (named : Alike.GoodScope (Named env) root) (plain : '#' ∉ baseText root)
    {visits : List Visit} (tours : Tours (serve env root) root [] root.root visits) :
    ∀ m ∈ visits, m.Cut (serve env root) → m.Sound (serve env root) := by
  have kept := tour_visits (P := fun scope stack => Placed env root scope ∧ Existing env root stack) ?_ tours
    ⟨Or.inl rfl, by simp [Existing]⟩
  · exact fun m mem => cut_sound fixed named plain (kept m mem).1 (kept m mem).2
  · rintro scope stack ref target w ⟨placed, existing⟩ arrives
    have placed' := designated_placed named plain placed arrives.1
    refine ⟨placed', ?_⟩
    intro id onStack
    rcases List.mem_cons.mp onStack with rfl | older
    · exact ⟨target, (Reference.ofText ref).fragment, w, placed', rfl, arrives.2⟩
    · exact existing id older

end Cut

/-! ### The run -/

theorem first_fault_split {docs : Url → Except LoadError Json} {visits : List Visit}
    (looked : ∀ m ∈ visits, m.Cut docs → m.Sound docs) {e : Error} :
    FirstFault docs visits e ↔
      ∃ before m after, visits = before ++ m :: after ∧ (∀ m' ∈ before, m'.Sound docs) ∧ m.Fault docs e := by
  constructor
  · intro first
    induction first with
    | @here m later e _ fault => exact ⟨[], m, later, rfl, by simp, fault⟩
    | @later m later e passes _ ih =>
      obtain ⟨before, m', after, rfl, sound, fault⟩ := ih fun m' mem => looked m' (by simp [mem])
      have own : m.Sound docs := passes.elim id (looked m (by simp))
      refine ⟨m :: before, m', after, rfl, ?_, fault⟩
      intro m'' mem
      rcases List.mem_cons.mp mem with rfl | earlier
      · exact own
      · exact sound m'' earlier
  · rintro ⟨before, m, after, rfl, sound, fault⟩
    have uncut : ¬ m.Cut docs := fun cut => fault_not_sound fault (looked m (by simp) cut)
    exact first_fault_after (fun m' mem => Or.inl (sound m' mem)) (.here uncut fault)

/- Where all documents have each key once, a pointer that is written properly is looked up as a path. -/
theorem sound_iff_present {docs : Url → Except LoadError Json} (keyed : ∀ u doc, docs u = .ok doc → doc.isKeyed = true)
    {m : Visit} (own : m.scope.root.isKeyed = true) (proper : Pointer.Proper (Reference.ofText m.ref).fragment) :
    m.Sound docs ↔ m.Present docs := by
  have each : ∀ target, designated? (had docs) m.scope m.ref = some target → target.root.isKeyed = true := by
    intro target designates
    rcases designated_iff.mp designates with ⟨-, rfl⟩ | ⟨-, u, doc, -, has, rfl⟩
    · exact own
    · exact keyed u doc (had_iff.mp has)
  constructor
  · rintro ⟨target, w, designates, there⟩
    exact ⟨target, w, designates, (Pointer.found_iff_present proper (each target designates) w).mp there⟩
  · rintro ⟨target, w, designates, present⟩
    exact ⟨target, w, designates, (Pointer.found_iff_present proper (each target designates) w).mpr present⟩

/-- Resolution fails exactly on broken references, once the document to start from is there. If the URLs that can be loaded
have finitely many texts, the references that are met can be listed. Resolution succeeds if each of them is sound or cut,
and otherwise fails with what is wrong with the first one that is neither. If there is no number sign in the URL to start
from, all that are cut are sound. That a reference is sound means that its pointer is there, as long as the pointer is
written properly and each document has a key once. A pointer that is not found is reported with the reference as it is
written. -/
theorem resolution_fails_on_broken_references (env : Environment) (source : Source) (fixed : Fixed env) (root : Scope)
    (opened : Session) (opening : openSource env source = (.ok root, opened)) :
    (∀ texts : List Text, (∀ u doc, env.load u = .ok doc → u.text ∈ texts) →
      ∃ visits, Tours (serve env root) root [] root.root visits) ∧
    (∀ visits, Tours (serve env root) root [] root.root visits →
      ((∃ out, source.resolveIn env = .ok out) ↔
        ∀ m ∈ visits, m.Sound (serve env root) ∨ m.Cut (serve env root)) ∧
      (∀ e, source.resolveIn env = .error e ↔ FirstFault (serve env root) visits e) ∧
      ('#' ∉ baseText root →
        ((∃ out, source.resolveIn env = .ok out) ↔ ∀ m ∈ visits, m.Sound (serve env root)) ∧
        ∀ e, source.resolveIn env = .error e ↔ ∃ before m after, visits = before ++ m :: after ∧
          (∀ m' ∈ before, m'.Sound (serve env root)) ∧ m.Fault (serve env root) e) ∧
      (root.root.isKeyed = true → (∀ u doc, serve env root u = .ok doc → doc.isKeyed = true) →
        ∀ m ∈ visits, Pointer.Proper (Reference.ofText m.ref).fragment →
          (m.Sound (serve env root) ↔ m.Present (serve env root)))) ∧
    ∀ (m : Visit) target e, designated? (had (serve env root)) m.scope m.ref = some target →
      m.Fault (serve env root) e → e.kind = .resolution ∧ e.detail = "Unresolvable reference: ".toList ++ m.ref := by
  have named := open_source_named opening
  refine ⟨fun texts finite => finite_tour fixed named finite, ?_, ?_⟩
  · intro visits tours
    obtain ⟨r, ran, verdict⟩ := tour_verdict tours
    have resolved : source.resolveIn env = r := by
      rw [Source.resolveIn, run_served fixed opening, ran]
      rfl
    rw [resolved]
    refine ⟨verdict_ok_iff verdict, verdict_error_iff verdict, fun plain => ?_, fun own keyed => ?_⟩
    · have looked := tour_cut_sound fixed named plain tours
      constructor
      · rw [verdict_ok_iff verdict]
        exact ⟨fun clear m mem => (clear m mem).elim id (looked m mem), fun sound m mem => Or.inl (sound m mem)⟩
      · intro e
        rw [verdict_error_iff verdict, first_fault_split looked]
    · have within := tour_visits (P := fun scope _ => scope.root.isKeyed = true) ?_ tours own
      · exact fun m mem proper => sound_iff_present keyed (within m mem) proper
      · intro scope stack ref target w isKeyed arrives
        rcases designated_iff.mp arrives.1 with ⟨-, rfl⟩ | ⟨-, u, doc, -, has, rfl⟩
        · exact isKeyed
        · exact keyed u doc (had_iff.mp has)
  · intro m target e designates fault
    rw [(designated_fault fault designates).2]
    exact ⟨rfl, rfl⟩

/-! ### Two documents -/

def draftScope : Scope :=
  ⟨.obj [("x".toList, marker "b#/ok".toList), ("y".toList, marker "b#/gone".toList), ("z".toList, marker "c#/ok".toList)],
    some (.ofFile ["a".toList])⟩

def noteScope : Scope := ⟨.obj [("ok".toList, .null)], some (.ofFile ["b".toList])⟩

def draftEnvironment : Environment :=
  .ofDocuments [("file:///a".toList, draftScope.root), ("file:///b".toList, noteScope.root)]

def draftVisits : List Visit :=
  [⟨draftScope, [], "b#/ok".toList⟩, ⟨draftScope, [], "b#/gone".toList⟩, ⟨draftScope, [], "c#/ok".toList⟩]

theorem draft_first_sound :
    Visit.Arrives (serve draftEnvironment draftScope) ⟨draftScope, [], "b#/ok".toList⟩ noteScope .null :=
  ⟨rfl, rfl⟩

theorem draft_second_fault : Visit.Fault (serve draftEnvironment draftScope) ⟨draftScope, [], "b#/gone".toList⟩
    (.noTarget "b#/gone".toList) :=
  @Visit.Fault.pointer _ _ noteScope rfl rfl

theorem draft_third_fault : Visit.Fault (serve draftEnvironment draftScope) ⟨draftScope, [], "c#/ok".toList⟩
    (.load (.unreadable "file:///c".toList .notFound)) :=
  .document (u := .ofFile ["c".toList]) (by decide) rfl rfl

theorem draft_tour : Tours (serve draftEnvironment draftScope) draftScope [] draftScope.root draftVisits := by
  have first : Tours (serve draftEnvironment draftScope) draftScope [] (marker "b#/ok".toList)
      [⟨draftScope, [], "b#/ok".toList⟩] :=
    .target rfl draft_first_sound (by decide) (.scalar rfl)
  have second : Tours (serve draftEnvironment draftScope) draftScope [] (marker "b#/gone".toList)
      [⟨draftScope, [], "b#/gone".toList⟩] :=
    .stop rfl (Or.inr (fault_not_sound draft_second_fault))
  have third : Tours (serve draftEnvironment draftScope) draftScope [] (marker "c#/ok".toList)
      [⟨draftScope, [], "c#/ok".toList⟩] :=
    .stop rfl (Or.inr (fault_not_sound draft_third_fault))
  refine @Tours.object _ _ _ _ [[_], [_], [_]] rfl rfl ?_
  intro i field visits source tour
  rcases i with _ | _ | _ | i
  · cases source
    cases tour
    exact first
  · cases source
    cases tour
    exact second
  · cases source
    cases tour
    exact third
  · simp at tour

theorem gone_proper : Pointer.Proper "/gone".toList := by
  refine ⟨[.key "gone".toList], ⟨["gone".toList], .cons ?_ .nil, rfl⟩, by simp, ?_⟩
  · exact @Text.Percent.encode_writes (· == '%') (by decide) "gone".toList
  · intro step mem i position
    rw [List.mem_singleton.mp mem] at position
    simp [Pointer.Step.text, Pointer.index?, Pointer.index?.decimal?, Text.isDigit] at position

theorem draft_fails_on_second_reference :
    Fixed draftEnvironment ∧
    openSource draftEnvironment (.path "a".toList) = (.ok draftScope, [(key "file:///a".toList, draftScope.root)]) ∧
    (∀ u doc, draftEnvironment.load u = .ok doc → u.text ∈ ["file:///a".toList, "file:///b".toList]) ∧
    (∃ visits, Tours (serve draftEnvironment draftScope) draftScope [] draftScope.root visits) ∧
    Source.resolveIn draftEnvironment (.path "a".toList) = .error (.noTarget "b#/gone".toList) ∧
    ¬ Visit.Present (serve draftEnvironment draftScope) ⟨draftScope, [], "b#/gone".toList⟩ := by
  have fixed : Fixed draftEnvironment := of_documents_fixed _
  have opening : openSource draftEnvironment (.path "a".toList) =
      (.ok draftScope, [(key "file:///a".toList, draftScope.root)]) := rfl
  have finite : ∀ u doc, draftEnvironment.load u = .ok doc → u.text ∈ ["file:///a".toList, "file:///b".toList] :=
    fun u doc loaded => List.mem_map_of_mem (f := Prod.fst) (of_documents_listed loaded)
  obtain ⟨listed, decided, -⟩ :=
    resolution_fails_on_broken_references draftEnvironment (.path "a".toList) fixed draftScope _ opening
  obtain ⟨-, -, plainly, properly⟩ := decided draftVisits draft_tour
  have sound : ∀ m' ∈ [(⟨draftScope, [], "b#/ok".toList⟩ : Visit)], m'.Sound (serve draftEnvironment draftScope) := by
    intro m' mem
    rw [List.mem_singleton.mp mem]
    exact ⟨_, _, draft_first_sound⟩
  have failed := ((plainly (by decide)).2 _).mpr
    ⟨[⟨draftScope, [], "b#/ok".toList⟩], _, [⟨draftScope, [], "c#/ok".toList⟩], rfl, sound, draft_second_fault⟩
  have keyed : ∀ u doc, serve draftEnvironment draftScope u = .ok doc → doc.isKeyed = true := by
    intro u doc served
    unfold serve at served
    split at served
    · cases served
      rfl
    · have mem := of_documents_listed served
      simp only [List.mem_cons, Prod.mk.injEq, List.not_mem_nil, or_false] at mem
      rcases mem with ⟨-, rfl⟩ | ⟨-, rfl⟩ <;> rfl
  have second : (⟨draftScope, [], "b#/gone".toList⟩ : Visit) ∈ draftVisits := by simp [draftVisits]
  have present := properly rfl keyed _ second gone_proper
  exact ⟨fixed, opening, finite, listed _ finite, failed, fun is => fault_not_sound draft_second_fault (present.mpr is)⟩

/-! ### An empty key -/

def slashedDocument : Json := .obj [("r".toList, marker "#//x".toList), ([], .obj [("x".toList, .num (.int 5))])]

def slashedVisit : Visit := ⟨⟨slashedDocument, none⟩, [], "#//x".toList⟩

/-- A pointer that begins with an empty key may be there and yet not be found, since the empty key is lost. Then resolution
fails, although its only reference leads to a value. -/
theorem present_pointer_not_found :
    openSource nowhere (.value slashedDocument) = (.ok ⟨slashedDocument, none⟩, []) ∧
    Tours (serve nowhere ⟨slashedDocument, none⟩) ⟨slashedDocument, none⟩ [] slashedDocument [slashedVisit] ∧
    slashedVisit.Present (serve nowhere ⟨slashedDocument, none⟩) ∧
    Source.resolveIn nowhere (.value slashedDocument) = .error (.noTarget "#//x".toList) := by
  have designates : designated? (had (serve nowhere ⟨slashedDocument, none⟩)) ⟨slashedDocument, none⟩ "#//x".toList =
      some ⟨slashedDocument, none⟩ := rfl
  have fault : slashedVisit.Fault (serve nowhere ⟨slashedDocument, none⟩) (.noTarget "#//x".toList) :=
    .pointer designates rfl
  have reference : Tours (serve nowhere ⟨slashedDocument, none⟩) ⟨slashedDocument, none⟩ [] (marker "#//x".toList)
      [slashedVisit] :=
    .stop rfl (Or.inr (fault_not_sound fault))
  have number : Tours (serve nowhere ⟨slashedDocument, none⟩) ⟨slashedDocument, none⟩ []
      (.obj [("x".toList, .num (.int 5))]) [] := by
    refine @Tours.object _ _ _ _ [[]] rfl rfl ?_
    intro i field visits source tour
    cases i with
    | zero =>
      cases source
      cases tour
      exact .scalar rfl
    | succ i => simp at tour
  have tours : Tours (serve nowhere ⟨slashedDocument, none⟩) ⟨slashedDocument, none⟩ [] slashedDocument [slashedVisit] := by
    refine @Tours.object _ _ _ _ [[slashedVisit], []] rfl rfl ?_
    intro i field visits source tour
    rcases i with _ | _ | i
    · cases source
      cases tour
      exact reference
    · cases source
      cases tour
      exact number
    · simp at tour
  have present : Pointer.Present "//x".toList slashedDocument (.num (.int 5)) := by
    refine ⟨[.key [], .key "x".toList], ⟨[[], "x".toList], .cons .nil (.cons ?_ .nil), rfl⟩, ?_⟩
    · exact @Text.Percent.encode_writes (· == '%') (by decide) "x".toList
    · exact .key (List.mem_cons_of_mem _ List.mem_cons_self) (.key List.mem_cons_self (.here _))
  refine ⟨rfl, tours, ⟨_, _, designates, present⟩, ?_⟩
  have fails : expand (loadOnce nowhere.load) ⟨slashedDocument, none⟩ [] (marker "#//x".toList) [] =
      some (.error (.noTarget "#//x".toList), []) := expand_missing rfl rfl rfl
  have ran : run nowhere (.value slashedDocument) = some (.error (.noTarget "#//x".toList), []) := by
    change expand (loadOnce nowhere.load) ⟨slashedDocument, none⟩ [] (.obj _) [] = _
    rw [expand_object _ _ _ _ rfl, walk_fields_fails _ _ fails]
    rfl
  rw [Source.resolveIn, ran]
  rfl

/-! ### A URL with a fragment -/

/-- The first reference leads to what stands beside it. There the second one is met, which points to nothing. The URL to
start from has a fragment, and so the second one looks like the first, which is open. -/
def veiledPart : Json := .obj [("p".toList, marker "a#b#/x/inner".toList)]

def veiledObject : Json := .obj [(refKey, .str "#/x/inner".toList), ("inner".toList, veiledPart)]

def veiledScope : Scope := ⟨.obj [("x".toList, veiledObject)], some { Url.ofFile ["a".toList] with fragment := some "b".toList }⟩

def veiledEnvironment : Environment :=
  .ofDocuments [("file:///a#b".toList, veiledScope.root), ("file:///a".toList, veiledScope.root)]

def veiledOpened : Session := [(key "file:///a#b".toList, veiledScope.root)]

def veiledKey : Key := key "file:///a#b#/x/inner".toList

def veiledVisits : List Visit :=
  [⟨veiledScope, [], "#/x/inner".toList⟩, ⟨veiledScope, [veiledKey], "a#b#/x/inner".toList⟩]

theorem veiled_opens : openSource veiledEnvironment (.url "file:///a#b".toList) = (.ok veiledScope, veiledOpened) := by
  have parsed : Url.parse? "file:///a#b".toList = some { Url.ofFile ["a".toList] with fragment := some "b".toList } := by
    decide +kernel
  exact open_url parsed rfl

theorem veiled_second_fault : Visit.Fault (serve veiledEnvironment veiledScope)
    ⟨veiledScope, [veiledKey], "a#b#/x/inner".toList⟩ (.noTarget "a#b#/x/inner".toList) :=
  @Visit.Fault.pointer _ _ ⟨veiledScope.root, some (.ofFile ["a".toList])⟩ rfl rfl

theorem veiled_tour : Tours (serve veiledEnvironment veiledScope) veiledScope [] veiledScope.root veiledVisits := by
  have second : Tours (serve veiledEnvironment veiledScope) veiledScope [veiledKey] (marker "a#b#/x/inner".toList)
      [⟨veiledScope, [veiledKey], "a#b#/x/inner".toList⟩] :=
    .stop rfl (Or.inr (fault_not_sound veiled_second_fault))
  have inner : Tours (serve veiledEnvironment veiledScope) veiledScope [veiledKey] veiledPart
      [⟨veiledScope, [veiledKey], "a#b#/x/inner".toList⟩] := by
    refine @Tours.object _ _ _ _ [[_]] rfl rfl ?_
    intro i field visits source tour
    cases i with
    | zero =>
      cases source
      cases tour
      exact second
    | succ i => simp at tour
  refine @Tours.object _ _ _ _ [[_, _]] rfl rfl ?_
  intro i field visits source tour
  cases i with
  | zero =>
    cases source
    cases tour
    exact @Tours.target _ _ veiledScope _ _ veiledPart _ _ rfl ⟨rfl, rfl⟩ (by decide) inner
  | succ i => simp at tour

/-- A reference that points to nothing may be cut, and then resolution succeeds. -/
theorem cut_hides_broken_reference :
    openSource veiledEnvironment (.url "file:///a#b".toList) = (.ok veiledScope, veiledOpened) ∧
    Tours (serve veiledEnvironment veiledScope) veiledScope [] veiledScope.root veiledVisits ∧
    (∃ m ∈ veiledVisits, ¬ m.Sound (serve veiledEnvironment veiledScope)) ∧
    Source.resolveIn veiledEnvironment (.url "file:///a#b".toList) = .ok (.obj [("x".toList, veiledPart)]) := by
  refine ⟨veiled_opens, veiled_tour, ?_, ?_⟩
  · exact ⟨_, List.mem_cons_of_mem _ (List.mem_singleton_self _), fault_not_sound veiled_second_fault⟩
  · let fetch := loadOnce veiledEnvironment.load
    let both : Session := (key "file:///a".toList, veiledScope.root) :: veiledOpened
    have within : targetScope fetch veiledScope "#/x/inner".toList (.ofText "#/x/inner".toList) veiledOpened =
        (.ok veiledScope, veiledOpened) := rfl
    have back : targetScope fetch veiledScope "a#b#/x/inner".toList (.ofText "a#b#/x/inner".toList) veiledOpened =
        (.ok ⟨veiledScope.root, some (.ofFile ["a".toList])⟩, both) := rfl
    have second : expand fetch veiledScope [veiledKey] (marker "a#b#/x/inner".toList) veiledOpened =
        some (.ok (marker "a#b#/x/inner".toList), both) := expand_cycle rfl back rfl
    have inner : expand fetch veiledScope [veiledKey] veiledPart veiledOpened = some (.ok veiledPart, both) := by
      rw [veiledPart, expand_object _ _ _ _ rfl, walk_fields_cons _ _ second]
      rfl
    have first : expand fetch veiledScope [] veiledObject veiledOpened = some (.ok veiledPart, both) :=
      (expand_target rfl within rfl).trans inner
    have ran : run veiledEnvironment (.url "file:///a#b".toList) = some (.ok (.obj [("x".toList, veiledPart)]), both) := by
      rw [run_opened veiled_opens]
      change expand fetch veiledScope [] (.obj [("x".toList, veiledObject)]) veiledOpened = _
      rw [expand_object _ _ _ _ rfl, walk_fields_cons _ _ first]
      rfl
    rw [Source.resolveIn, ran]
    rfl

end ApiTypes.Resolve
