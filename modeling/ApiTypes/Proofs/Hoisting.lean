import ApiTypes.Proofs.Ordered
import ApiTypes.Synthesis
/-!
Hoisting without the table. The type of a schema does not depend on the table it is given, and what comes into
the table is a list of insertions that the schema and the name alone decide.
-/
namespace ApiTypes.Schema

open Declaration (Table)

def typeIn (s : Schema) (name : Text) : TypeExpr := (s.hoist name Table.empty).1

def membersIn (required : Text → Bool) (properties : Properties) (name : Text) : List Text :=
  (hoistMembers required properties name Table.empty).1

def partsIn (members : List Schema) (name : Text) : List Text := (hoistParts members name Table.empty).1

mutual

/-- What is put into the table while a schema is declared under a name, in the order in which it is put there. -/
def insertions : Schema → (name : Text) → List Declaration
  | object _ properties _, name => propertyInsertions properties name
  | listOf _ item, name =>
    insertions item (Naming.hoisted name) ++
      if item.isObject then
        [⟨Naming.hoisted name, .interface, (item.typeIn (Naming.hoisted name)).text, item.comment?, .nestedItem⟩]
      else []
  | tuple _ members, name =>
    partInsertions members (Naming.hoisted name) ++
      [⟨Naming.hoisted name, .typeAlias,
        (TypeExpr.alternatives "any".toList (partsIn members (Naming.hoisted name))).text, none, .nestedItem⟩]
  | list _, _ | primitive _ _, _ | enumeration _ _ _, _ | reference _ _, _ | any _, _ | unknown _ _, _ => []

def propertyInsertions : Properties → (name : Text) → List Declaration
  | [], _ => []
  | (_, s) :: rest, name => insertions s name ++ propertyInsertions rest name

def partInsertions : List Schema → (name : Text) → List Declaration
  | [], _ => []
  | s :: rest, name => insertions s name ++ partInsertions rest name

end

mutual

/- The table of the type itself is an empty one, so the induction is over tables of all kinds at once. -/
theorem hoist_into_inserts {σ : Type} (insert : σ → Declaration → σ) (s : Schema) (name : Text) (table : σ) :
    s.hoistInto insert name table = (s.typeIn name, (s.insertions name).foldl insert table) := by
  match s with
  | object _ properties required =>
    rw [typeIn]
    simp only [hoist, hoistInto, members_into_insert, insertions]
  | listOf _ item =>
    have inner {τ : Type} (put : τ → Declaration → τ) := hoist_into_inserts put item (Naming.hoisted name)
    rw [typeIn]
    cases object : item.isObject <;> simp [hoist, hoistInto, inner, insertions, object]
  | tuple _ members =>
    rw [typeIn]
    simp [hoist, hoistInto, parts_into_insert, insertions]
  | list _ | primitive _ _ | enumeration _ _ _ | reference _ _ | any _ | unknown _ _ => rfl

theorem members_into_insert {σ : Type} (insert : σ → Declaration → σ) (required : Text → Bool) (properties : Properties)
    (name : Text) (table : σ) :
    hoistMembersInto insert required properties name table =
      (membersIn required properties name, (propertyInsertions properties name).foldl insert table) := by
  match properties with
  | [] => rfl
  | (property, s) :: rest =>
    have first {τ : Type} (put : τ → Declaration → τ) := hoist_into_inserts put s name
    have later {τ : Type} (put : τ → Declaration → τ) := members_into_insert put required rest name
    rw [membersIn]
    simp [hoistMembers, hoistMembersInto, first, later, propertyInsertions]

theorem parts_into_insert {σ : Type} (insert : σ → Declaration → σ) (members : List Schema) (name : Text) (table : σ) :
    hoistPartsInto insert members name table =
      (partsIn members name, (partInsertions members name).foldl insert table) := by
  match members with
  | [] => rfl
  | s :: rest =>
    have first {τ : Type} (put : τ → Declaration → τ) := hoist_into_inserts put s name
    have later {τ : Type} (put : τ → Declaration → τ) := parts_into_insert put rest name
    rw [partsIn]
    simp [hoistParts, hoistPartsInto, first, later, partInsertions]

end

theorem hoist_inserts (s : Schema) (name : Text) (table : Table) :
    s.hoist name table = (s.typeIn name, (s.insertions name).foldl Table.insert table) :=
  hoist_into_inserts Table.insert s name table

theorem members_insert (required : Text → Bool) (properties : Properties) (name : Text) (table : Table) :
    hoistMembers required properties name table =
      (membersIn required properties name, (propertyInsertions properties name).foldl Table.insert table) :=
  members_into_insert Table.insert required properties name table

/-! ### Types, members and parts -/

theorem type_in_object (notes : Notes) (properties : Properties) (required : Requirement) (name : Text) :
    (object notes properties required).typeIn name =
      .inline (Record.body (membersIn required.isRequired properties name)) :=
  rfl

theorem type_in_list_of (notes : Notes) (item : Schema) (name : Text) :
    (listOf notes item).typeIn name =
      if item.isObject then .reference (Naming.hoisted name ++ TypeExpr.arrayMark)
      else (item.typeIn (Naming.hoisted name)).array := by
  rw [typeIn]
  simp only [hoist, hoistInto, hoist_into_inserts]
  split <;> rfl

@[simp] theorem members_in_nil (required : Text → Bool) (name : Text) : membersIn required [] name = [] := rfl

theorem members_in_cons (required : Text → Bool) (property : Text) (s : Schema) (rest : Properties) (name : Text) :
    membersIn required ((property, s) :: rest) name =
      Record.member property (s.typeIn name).text (required property) s.comment? :: membersIn required rest name := by
  rw [membersIn]
  simp only [hoistMembers, hoistMembersInto, hoist_into_inserts, members_into_insert]

@[simp] theorem parts_in_nil (name : Text) : partsIn [] name = [] := rfl

theorem parts_in_cons (s : Schema) (rest : List Schema) (name : Text) :
    partsIn (s :: rest) name = (s.typeIn name).text :: partsIn rest name := by
  rw [partsIn]
  simp only [hoistParts, hoistPartsInto, hoist_into_inserts, parts_into_insert]

/-! ### Names -/

def copies (k : Nat) : Text := (List.replicate k Naming.Role.item.suffix).flatten

theorem hoisted_copies (name : Text) (k : Nat) : Naming.hoisted name ++ copies k = name ++ copies (k + 1) := by
  simp [Naming.hoisted, copies, List.replicate_succ]

mutual

/-- Everything that is hoisted out of a declaration has its name, followed by one or more copies of `Item`. -/
theorem insertion_name (s : Schema) {name : Text} {d : Declaration} (mem : d ∈ s.insertions name) :
    ∃ k, d.name = name ++ copies (k + 1) := by
  match s with
  | object _ properties _ => exact property_insertion_name properties mem
  | listOf _ item =>
    rcases List.mem_append.mp mem with inner | own
    · obtain ⟨k, eq⟩ := insertion_name item inner
      exact ⟨k + 1, by rw [eq, hoisted_copies]⟩
    · split at own
      · rw [List.mem_singleton.mp own]
        exact ⟨0, by rw [← hoisted_copies]; simp [copies]⟩
      · simp at own
  | tuple _ members =>
    rcases List.mem_append.mp mem with inner | own
    · obtain ⟨k, eq⟩ := part_insertion_name members inner
      exact ⟨k + 1, by rw [eq, hoisted_copies]⟩
    · rw [List.mem_singleton.mp own]
      exact ⟨0, by rw [← hoisted_copies]; simp [copies]⟩
  | list _ | primitive _ _ | enumeration _ _ _ | reference _ _ | any _ | unknown _ _ => simp [insertions] at mem

theorem property_insertion_name (properties : Properties) {name : Text} {d : Declaration}
    (mem : d ∈ propertyInsertions properties name) : ∃ k, d.name = name ++ copies (k + 1) := by
  match properties with
  | [] => simp [propertyInsertions] at mem
  | (_, s) :: rest =>
    rcases List.mem_append.mp mem with first | later
    · exact insertion_name s first
    · exact property_insertion_name rest later

theorem part_insertion_name (members : List Schema) {name : Text} {d : Declaration}
    (mem : d ∈ partInsertions members name) : ∃ k, d.name = name ++ copies (k + 1) := by
  match members with
  | [] => simp [partInsertions] at mem
  | s :: rest =>
    rcases List.mem_append.mp mem with first | later
    · exact insertion_name s first
    · exact part_insertion_name rest later

end

/-! ### The table -/

theorem insert_all_entries (ds : List Declaration) (table : Table) :
    (ds.foldl Table.insert table).entries =
      (ds.map fun d => (d.name, d)).foldl (fun m e => Ordered.put e.1 e.2 m) table.entries := by
  induction ds generalizing table with
  | nil => rfl
  | cons d ds ih =>
    rw [List.foldl_cons, ih]
    rfl

theorem insert_all_mem {ds : List Declaration} {table : Table} {d : Declaration}
    (mem : d ∈ (ds.foldl Table.insert table).declarations) : d ∈ table.declarations ∨ d ∈ ds := by
  obtain ⟨e, inside, rfl⟩ := List.mem_map.mp mem
  rw [insert_all_entries] at inside
  rcases Ordered.put_all_mem inside with before | new
  · exact Or.inl (List.mem_map_of_mem before)
  · obtain ⟨d, listed, rfl⟩ := List.mem_map.mp new
    exact Or.inr listed

theorem insert_all_new {ds : List Declaration} (entries : List (Text × Declaration))
    (distinct : (Ordered.keys entries ++ ds.map Declaration.name).Nodup) :
    ds.foldl Table.insert ⟨entries⟩ = ⟨entries ++ ds.map fun d => (d.name, d)⟩ := by
  have keys : Ordered.keys (ds.map fun d => (d.name, d)) = ds.map Declaration.name := by simp [Ordered.keys]
  have all := insert_all_entries ds ⟨entries⟩
  rw [Ordered.put_all_new (by rwa [keys])] at all
  exact congrArg Table.mk all

def rootDeclaration (s : Schema) (name : Text) (role : Declaration.Role) : Declaration :=
  ⟨name, s.declarationKind, (s.typeIn name).text, s.comment?, role⟩

theorem declare_distinct {s : Schema} {name : Text} (role : Declaration.Role)
    (distinct : ((s.insertions name).map Declaration.name).Nodup) :
    s.declare name role =
      Text.joinWith ['\n'] ((s.insertions name ++ [s.rootDeclaration name role]).map Declaration.render) := by
  have table : (s.insertions name).foldl Table.insert Table.empty = ⟨(s.insertions name).map fun d => (d.name, d)⟩ :=
    insert_all_new [] (by simpa [Ordered.keys] using distinct)
  simp only [declare, hoist_inserts, table, Table.assemble, Table.declarations, rootDeclaration, List.map_map]
  congr 3
  exact List.map_id _

end ApiTypes.Schema
