import ApiTypes.Resolve
/-!
How an expansion goes on. What a value comes to is said by equations, one for each kind of value, and what every
expansion that ends has to show is said by one induction over its course.
-/
namespace ApiTypes.Resolve

def isScalar : Json → Bool
  | .obj _ | .arr _ => false
  | _ => true

theorem scalar_no_ref {v : Json} (scalar : isScalar v = true) : ref? v = none := by
  cases v <;> simp_all [isScalar, ref?]

theorem scalar_of_other {v : Json} (notObject : ∀ fields, v = .obj fields → False)
    (notArray : ∀ items, v = .arr items → False) : isScalar v = true := by
  cases v with
  | obj fields => exact absurd rfl (notObject fields)
  | arr items => exact absurd rfl (notArray items)
  | _ => rfl

theorem map_ok {α β : Type} {f : α → β} {r : Except Error α} {b : β} (mapped : r.map f = .ok b) :
    ∃ a, r = .ok a ∧ f a = b := by
  cases r with
  | error e => simp [Except.map] at mapped
  | ok a => exact ⟨a, rfl, Except.ok.inj mapped⟩

variable {σ : Type}

/-! ### Equations -/

theorem expand_step (fetch : Fetch σ) (scope : Scope) (stack : List Key) (v : Json) (session : σ) :
    expand fetch scope stack v session = (expand fetch).step fetch scope stack v session := by
  conv =>
    lhs
    rw [expand]

theorem expand_ref (fetch : Fetch σ) (scope : Scope) (stack : List Key) {v : Json} {ref : Text} (session : σ)
    (reference : ref? v = some ref) :
    expand fetch scope stack v session = follow fetch (expand fetch) scope stack ref session := by
  rw [expand_step]
  unfold Walk.step
  simp only [reference]

theorem expand_scalar (fetch : Fetch σ) (scope : Scope) (stack : List Key) {v : Json} (session : σ)
    (scalar : isScalar v = true) : expand fetch scope stack v session = some (.ok v, session) := by
  rw [expand_step]
  cases v with
  | obj fields => simp [isScalar] at scalar
  | arr items => simp [isScalar] at scalar
  | _ => rfl

theorem expand_array (fetch : Fetch σ) (scope : Scope) (stack : List Key) (items : List Json) (session : σ) :
    expand fetch scope stack (.arr items) session =
      (walkItems (expand fetch scope stack) items session).map fun r => (r.1.map .arr, r.2) := by
  rw [expand_step]
  unfold Walk.step
  simp only [ref?]
  cases walkItems (expand fetch scope stack) items session <;> rfl

theorem expand_object (fetch : Fetch σ) (scope : Scope) (stack : List Key) {fields : Json.Fields} (session : σ)
    (plain : ref? (.obj fields) = none) :
    expand fetch scope stack (.obj fields) session =
      (walkFields (expand fetch scope stack) fields session).map fun r => (r.1.map .obj, r.2) := by
  rw [expand_step]
  unfold Walk.step
  simp only [plain]
  cases walkFields (expand fetch scope stack) fields session <;> rfl

theorem expand_astray {fetch : Fetch σ} {scope : Scope} {v : Json} {ref : Text} {e : Error} {s s' : σ} (stack : List Key)
    (reference : ref? v = some ref) (found : targetScope fetch scope ref (.ofText ref) s = (.error e, s')) :
    expand fetch scope stack v s = some (.error e, s') := by
  rw [expand_ref fetch scope stack s reference, follow]
  simp only [found]

theorem expand_missing {fetch : Fetch σ} {scope target : Scope} {stack : List Key} {v : Json} {ref : Text} {e : Error}
    {s s' : σ} (reference : ref? v = some ref) (found : targetScope fetch scope ref (.ofText ref) s = (.ok target, s'))
    (entering : entered target stack ref (.ofText ref) = .error e) : expand fetch scope stack v s = some (.error e, s') := by
  rw [expand_ref fetch scope stack s reference, follow]
  simp only [found, entering]

theorem expand_cycle {fetch : Fetch σ} {scope target : Scope} {stack : List Key} {v : Json} {ref : Text} {s s' : σ}
    (reference : ref? v = some ref) (found : targetScope fetch scope ref (.ofText ref) s = (.ok target, s'))
    (entering : entered target stack ref (.ofText ref) = .ok none) :
    expand fetch scope stack v s = some (.ok (marker ref), s') := by
  rw [expand_ref fetch scope stack s reference, follow]
  simp only [found, entering]

theorem expand_target {fetch : Fetch σ} {scope target : Scope} {stack : List Key} {v w : Json} {ref : Text} {s s' : σ}
    (reference : ref? v = some ref) (found : targetScope fetch scope ref (.ofText ref) s = (.ok target, s'))
    (entering : entered target stack ref (.ofText ref) = .ok (some w)) :
    expand fetch scope stack v s = expand fetch target (identity target (.ofText ref) :: stack) w s' := by
  rw [expand_ref fetch scope stack s reference, follow]
  simp only [found, entering]

section Walk

variable {walk : Json → σ → Option (Result Json σ)} {v w : Json} {s s' : σ}

theorem walk_items_fails {e : Error} (rest : List Json) (first : walk v s = some (.error e, s')) :
    walkItems walk (v :: rest) s = some (.error e, s') := by
  simp only [walkItems, first, bind, Option.bind_some, pure]

theorem walk_items_cons (rest : List Json) (first : walk v s = some (.ok w, s')) :
    walkItems walk (v :: rest) s = (walkItems walk rest s').map fun r => (r.1.map (w :: ·), r.2) := by
  simp only [walkItems, first, bind, Option.bind_some]
  cases walkItems walk rest s' <;> rfl

theorem walk_fields_fails {e : Error} (name : Text) (rest : Json.Fields) (first : walk v s = some (.error e, s')) :
    walkFields walk ((name, v) :: rest) s = some (.error e, s') := by
  simp only [walkFields, first, bind, Option.bind_some, pure]

theorem walk_fields_cons (name : Text) (rest : Json.Fields) (first : walk v s = some (.ok w, s')) :
    walkFields walk ((name, v) :: rest) s = (walkFields walk rest s').map fun r => (r.1.map ((name, w) :: ·), r.2) := by
  simp only [walkFields, first, bind, Option.bind_some]
  cases walkFields walk rest s' <;> rfl

theorem walk_items_head {items : List Json} {r : Result (List Json) σ} (ran : walkItems walk (v :: items) s = some r) :
    ∃ first, walk v s = some first := by
  simp only [walkItems, bind, Option.bind_eq_some_iff] at ran
  obtain ⟨first, head, -⟩ := ran
  exact ⟨first, head⟩

theorem walk_fields_head {name : Text} {fields : Json.Fields} {r : Result Json.Fields σ}
    (ran : walkFields walk ((name, v) :: fields) s = some r) : ∃ first, walk v s = some first := by
  simp only [walkFields, bind, Option.bind_eq_some_iff] at ran
  obtain ⟨first, head, -⟩ := ran
  exact ⟨first, head⟩

end Walk

/-! ### Induction -/

/-- What a statement about values, about items and about fields has to fulfil along the course of an expansion: it holds of
scalars, of markers and of what fails at once, and goes over from the parts to the whole. -/
structure Course (fetch : Fetch σ) (value : Scope → List Key → Json → σ → Result Json σ → Prop)
    (items : Scope → List Key → List Json → σ → Result (List Json) σ → Prop)
    (fields : Scope → List Key → Json.Fields → σ → Result Json.Fields σ → Prop) : Prop where
  scalar : ∀ scope stack v s, isScalar v = true → value scope stack v s (.ok v, s)
  array : ∀ scope stack vs s r, items scope stack vs s r → value scope stack (.arr vs) s (r.1.map .arr, r.2)
  object : ∀ scope stack fs s r, ref? (.obj fs) = none → fields scope stack fs s r →
    value scope stack (.obj fs) s (r.1.map .obj, r.2)
  astray : ∀ scope stack v s ref e s', ref? v = some ref →
    targetScope fetch scope ref (.ofText ref) s = (.error e, s') → value scope stack v s (.error e, s')
  missing : ∀ scope stack v s ref target e s', ref? v = some ref →
    targetScope fetch scope ref (.ofText ref) s = (.ok target, s') →
    entered target stack ref (.ofText ref) = .error e → value scope stack v s (.error e, s')
  cycle : ∀ scope stack v s ref target s', ref? v = some ref →
    targetScope fetch scope ref (.ofText ref) s = (.ok target, s') →
    entered target stack ref (.ofText ref) = .ok none → value scope stack v s (.ok (marker ref), s')
  target : ∀ scope stack v s ref target w s' r, ref? v = some ref →
    targetScope fetch scope ref (.ofText ref) s = (.ok target, s') →
    entered target stack ref (.ofText ref) = .ok (some w) →
    value target (identity target (.ofText ref) :: stack) w s' r → value scope stack v s r
  noItems : ∀ scope stack s, items scope stack [] s (.ok [], s)
  itemFails : ∀ scope stack v vs s e s', value scope stack v s (.error e, s') →
    items scope stack (v :: vs) s (.error e, s')
  moreItems : ∀ scope stack v vs s w s' r, value scope stack v s (.ok w, s') → items scope stack vs s' r →
    items scope stack (v :: vs) s (r.1.map (w :: ·), r.2)
  noFields : ∀ scope stack s, fields scope stack [] s (.ok [], s)
  fieldFails : ∀ scope stack name v fs s e s', value scope stack v s (.error e, s') →
    fields scope stack ((name, v) :: fs) s (.error e, s')
  moreFields : ∀ scope stack name v fs s w s' r, value scope stack v s (.ok w, s') → fields scope stack fs s' r →
    fields scope stack ((name, v) :: fs) s (r.1.map ((name, w) :: ·), r.2)

namespace Course

variable {fetch : Fetch σ} {value : Scope → List Key → Json → σ → Result Json σ → Prop}
  {items : Scope → List Key → List Json → σ → Result (List Json) σ → Prop}
  {fields : Scope → List Key → Json.Fields → σ → Result Json.Fields σ → Prop}

theorem items_hold (course : Course fetch value items fields) {scope : Scope} {stack : List Key}
    {walk : Json → σ → Option (Result Json σ)} (each : ∀ v s r, walk v s = some r → value scope stack v s r)
    {vs : List Json} {s : σ} {r : Result (List Json) σ} (run : walkItems walk vs s = some r) :
    items scope stack vs s r := by
  induction vs generalizing s r with
  | nil =>
    cases run
    exact course.noItems scope stack s
  | cons v vs ih =>
    obtain ⟨⟨result, s'⟩, head⟩ := walk_items_head run
    have first := each v s _ head
    cases result with
    | error e =>
      rw [walk_items_fails vs head] at run
      cases run
      exact course.itemFails scope stack v vs s e s' first
    | ok w =>
      rw [walk_items_cons vs head] at run
      obtain ⟨inner, later, rfl⟩ := Option.map_eq_some_iff.mp run
      exact course.moreItems scope stack v vs s w s' inner first (ih later)

theorem fields_hold (course : Course fetch value items fields) {scope : Scope} {stack : List Key}
    {walk : Json → σ → Option (Result Json σ)} (each : ∀ v s r, walk v s = some r → value scope stack v s r)
    {fs : Json.Fields} {s : σ} {r : Result Json.Fields σ} (run : walkFields walk fs s = some r) :
    fields scope stack fs s r := by
  induction fs generalizing s r with
  | nil =>
    cases run
    exact course.noFields scope stack s
  | cons field fs ih =>
    obtain ⟨name, v⟩ := field
    obtain ⟨⟨result, s'⟩, head⟩ := walk_fields_head run
    have first := each v s _ head
    cases result with
    | error e =>
      rw [walk_fields_fails name fs head] at run
      cases run
      exact course.fieldFails scope stack name v fs s e s' first
    | ok w =>
      rw [walk_fields_cons name fs head] at run
      obtain ⟨inner, later, rfl⟩ := Option.map_eq_some_iff.mp run
      exact course.moreFields scope stack name v fs s w s' inner first (ih later)

theorem follow_holds (course : Course fetch value items fields) {walk : Walk σ}
    (each : ∀ scope stack v s r, walk scope stack v s = some r → value scope stack v s r) {scope : Scope}
    {stack : List Key} {v : Json} {ref : Text} {s : σ} {r : Result Json σ} (reference : ref? v = some ref)
    (run : follow fetch walk scope stack ref s = some r) : value scope stack v s r := by
  unfold follow at run
  split at run
  · rename_i e s' found
    cases run
    exact course.astray scope stack v s ref e s' reference found
  · rename_i target s' found
    split at run
    · rename_i e entering
      cases run
      exact course.missing scope stack v s ref target e s' reference found entering
    · rename_i entering
      cases run
      exact course.cycle scope stack v s ref target s' reference found entering
    · rename_i w entering
      exact course.target scope stack v s ref target w s' r reference found entering (each _ _ w s' r run)

/-- Such a statement holds of every expansion that comes to an end. -/
theorem holds (course : Course fetch value items fields) {scope : Scope} {stack : List Key} {v : Json} {s : σ}
    {r : Result Json σ} (run : expand fetch scope stack v s = some r) : value scope stack v s r := by
  refine expand.partial_correctness fetch value ?_ scope stack v s r run
  intro walk each scope stack v s r run
  unfold Walk.step at run
  split at run
  · rename_i reference
    exact course.follow_holds each reference run
  · rename_i fs plain
    simp only [bind, Option.bind_eq_some_iff, pure, Option.some.injEq] at run
    obtain ⟨inner, ran, rfl⟩ := run
    exact course.object scope stack fs s inner plain (course.fields_hold (each scope stack) ran)
  · rename_i vs _
    simp only [bind, Option.bind_eq_some_iff, pure, Option.some.injEq] at run
    obtain ⟨inner, ran, rfl⟩ := run
    exact course.array scope stack vs s inner (course.items_hold (each scope stack) ran)
  · rename_i v _ _ notObject notArray _
    cases run
    exact course.scalar scope stack v s (scalar_of_other notObject notArray)

end Course

end ApiTypes.Resolve
