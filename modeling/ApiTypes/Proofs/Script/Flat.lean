import ApiTypes.Proofs.Script.Term
/-!
Types up to unions in unions: a type is known, once flat, by the list of its alternatives.
-/
namespace ApiTypes.Script

def Single (t : Term) : Prop := t.alternatives = [t]

theorem union_of_alternatives {ts : List Term} (single : ∀ t ∈ ts, Single t) : (unionOf ts).alternatives = ts := by
  match ts with
  | [] => rfl
  | [t] => exact single t (by simp)
  | _ :: _ :: _ => rfl

mutual

theorem flat_single (t : Term) : ∀ u ∈ t.flat.alternatives, Single u := by
  match t with
  | .union ts =>
    have inner := flat_alternatives_single ts
    rw [Term.flat, union_of_alternatives inner]
    exact inner
  | .name _ | .text _ | .number _ | .array _ | .record _ =>
    intro u mem
    rw [Term.flat, Term.alternatives, List.mem_singleton] at mem <;> simp [mem, Single, Term.alternatives]

theorem flat_alternatives_single (ts : List Term) : ∀ u ∈ flatAlternatives ts, Single u := by
  match ts with
  | [] => simp [flatAlternatives]
  | t :: ts =>
    intro u mem
    rcases List.mem_append.mp mem with first | later
    · exact flat_single t u first
    · exact flat_alternatives_single ts u later

end

theorem flat_alternatives_append (ts us : List Term) :
    flatAlternatives (ts ++ us) = flatAlternatives ts ++ flatAlternatives us := by
  induction ts with
  | nil => rfl
  | cons t ts ih => simp [flatAlternatives, ih]

theorem union_of_flat (t : Term) : unionOf t.flat.alternatives = t.flat := by
  match t with
  | .union ts => rw [Term.flat, union_of_alternatives (flat_alternatives_single ts)]
  | .name _ | .text _ | .number _ | .array _ | .record _ => rfl

theorem flat_union_of (ts : List Term) : (unionOf ts).flat = unionOf (flatAlternatives ts) := by
  match ts with
  | [] => rfl
  | [t] => rw [flatAlternatives, flatAlternatives, List.append_nil, union_of_flat, unionOf]
  | _ :: _ :: _ => rfl

theorem flat_union_of_alternatives (ts : List Term) : (unionOf ts).flat.alternatives = flatAlternatives ts := by
  rw [flat_union_of, union_of_alternatives (flat_alternatives_single ts)]

theorem flat_of_alternatives {ts : List Term} {t : Term} (agree : flatAlternatives ts = t.flat.alternatives) :
    (unionOf ts).flat = t.flat := by
  rw [flat_union_of, agree, union_of_flat]

theorem flat_eq_iff (ts : List Term) (t : Term) :
    (unionOf ts).flat = t.flat ↔ flatAlternatives ts = t.flat.alternatives := by
  constructor
  · intro same
    rw [← flat_union_of_alternatives, same]
  · exact flat_of_alternatives

theorem single_flat {t : Term} (single : Single t) : t.flat.alternatives = [t.flat] := by
  cases t with
  | union ts =>
    have size := congrArg sizeOf single
    simp only [Term.alternatives, List.cons.sizeOf_spec, Term.union.sizeOf_spec] at size
    omega
  | _ => rfl

theorem flat_alternatives_length {ts : List Term} (single : ∀ t ∈ ts, Single t) :
    (flatAlternatives ts).length = ts.length := by
  induction ts with
  | nil => rfl
  | cons t ts ih =>
    have first := single_flat (single t (by simp))
    have later := ih fun u mem => single u (List.mem_cons_of_mem t mem)
    rw [flatAlternatives, List.length_append, first, later, List.length_singleton, List.length_cons, Nat.add_comm]

/-! ### Substitution -/

theorem substitute_all_append (f : Text → Term) (ts us : List Term) :
    substituteAll f (ts ++ us) = substituteAll f ts ++ substituteAll f us := by
  induction ts with
  | nil => rfl
  | cons t ts ih => simp [substituteAll, ih]

theorem substitute_union_of (f : Text → Term) (ts : List Term) :
    (unionOf ts).substitute f = unionOf (substituteAll f ts) := by
  match ts with
  | [] => rfl
  | [_] => rfl
  | _ :: _ :: _ => rfl

/-! ### Names -/

def keywords : List Text :=
  ["any".toList, "never".toList, "string".toList, "number".toList, "boolean".toList, "null".toList, "true".toList,
    "false".toList]

theorem body_of_member {definitions : List Definition} {d : Definition}
    (distinct : (definitions.map Definition.name).Nodup) (mem : d ∈ definitions) :
    body? definitions d.name = some d.body := by
  induction definitions with
  | nil => simp at mem
  | cons e definitions ih =>
    simp only [List.map_cons, List.nodup_cons] at distinct
    rcases List.mem_cons.mp mem with same | later
    · simp [body?, same]
    · have other : e.name ≠ d.name := by
        intro same
        exact distinct.1 (same ▸ List.mem_map_of_mem later)
      have found := ih distinct.2 later
      simpa [body?, List.find?_cons, other] using found

theorem meaning_undefined {definitions : List Definition} {w : Text} (undefined : ∀ d ∈ definitions, d.name ≠ w)
    (depth : Nat) : meaning definitions depth w = .name w := by
  cases depth with
  | zero => rfl
  | succ depth =>
    have missing : definitions.find? (·.name == w) = none :=
      List.find?_eq_none.mpr fun d mem => by simpa using undefined d mem
    simp [meaning, body?, missing]

end ApiTypes.Script
