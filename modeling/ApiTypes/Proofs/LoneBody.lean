import ApiTypes.Proofs.Writing
/-!
A body that is all an operation asks for. If it is an object, its properties are asked for in its place, and they are
written as in the declaration of the object: with the same types, and with the same declarations hoisted out of them. Only
the marks of optional members may differ, where the object does not say which of its properties are required.
-/
namespace ApiTypes

/-! ### Members -/

/-- A member of a record without the mark that makes it optional: what stands before that mark, and what stands after. -/
structure Record.Slot where
  lead : Text
  rest : Text
deriving DecidableEq, Repr

namespace Record.Slot

def required (s : Slot) : Text := s.lead ++ s.rest

def optional (s : Slot) : Text := s.lead ++ '?' :: s.rest

def ofProperty (name : Text) (property : Text × Schema) : Slot where
  lead := Comment.lead property.2.comment? ++ key property.1
  rest := ": ".toList ++ (property.2.typeIn name).text ++ ";\n".toList

end Record.Slot

namespace Schema

theorem members_in_slots (required : Text → Bool) (properties : Properties) (name : Text) :
    membersIn required properties name = properties.map fun property =>
      if required property.1 then (Record.Slot.ofProperty name property).required
      else (Record.Slot.ofProperty name property).optional := by
  induction properties with
  | nil => rfl
  | cons property rest ih =>
    obtain ⟨key, s⟩ := property
    rw [members_in_cons, ih, List.map_cons]
    congr 1
    cases needed : required key <;>
      simp [Record.member, Record.Slot.ofProperty, Record.Slot.required, Record.Slot.optional]

theorem text_in_object (notes : Notes) (properties : Properties) (required : Requirement) (name : Text) :
    ((object notes properties required).typeIn name).text =
      Record.body (membersIn required.isRequired properties name) := by
  rw [type_in_object]
  rfl

def hoistedTable (s : Schema) (name : Text) : Declaration.Table := (s.hoist name .empty).2

theorem declare_hoisted (s : Schema) (name : Text) (role : Declaration.Role) :
    s.declare name role = (s.hoistedTable name).assemble (s.rootDeclaration name role) := rfl

end Schema

namespace Operation

theorem params_lone_body {op : Operation} {p : Parameter} {notes : Notes} {properties : Schema.Properties}
    {required : Requirement} (alone : op.parameters = [p]) (body : p.isBody = true)
    (object : p.schema = .object notes properties required) (name : Text) :
    op.paramsText name = (p.schema.hoistedTable name).assemble ⟨name, .interface,
      Record.body (Schema.membersIn (required.isRequiredOr p.required) properties name), op.paramsComment?, .params⟩ := by
  have lone : loneBody? op.parameters = some (required.isRequiredOr p.required, properties) := by
    simp [alone, loneBody?, body, object]
  have table : p.schema.hoistedTable name =
      (Schema.propertyInsertions properties name).foldl Declaration.Table.insert .empty := by
    rw [Schema.hoistedTable, Schema.hoist_inserts, object]
    rfl
  rw [paramsText, members, lone, table]
  simp only [Schema.members_insert]

/-- A lone body that is an object is written as the object is declared, but for the comment. If neither the object nor the
operation says that its properties are required, every member is marked as optional, and all else stays the same. -/
theorem lone_body_is_written_as_object (op : Operation) (p : Parameter) (notes : Notes) (properties : Schema.Properties)
    (required : Requirement) (name : Text) (alone : op.parameters = [p]) (body : p.isBody = true)
    (object : p.schema = .object notes properties required) :
    (∀ role, p.schema.declare name role = (p.schema.hoistedTable name).assemble (p.schema.rootDeclaration name role)) ∧
    (required ≠ .unspecified ∨ p.required = true →
      op.paramsText name = (p.schema.hoistedTable name).assemble
        { p.schema.rootDeclaration name .params with comment := op.paramsComment? }) ∧
    (required = .unspecified → p.required = false →
      (p.schema.rootDeclaration name .params).body =
        Record.body (properties.map fun property => (Record.Slot.ofProperty name property).required) ∧
      op.paramsText name = (p.schema.hoistedTable name).assemble
        { p.schema.rootDeclaration name .params with
          comment := op.paramsComment?
          body := Record.body (properties.map fun property => (Record.Slot.ofProperty name property).optional) }) := by
  have written := params_lone_body alone body object name
  have root : p.schema.rootDeclaration name .params =
      ⟨name, .interface, Record.body (Schema.membersIn required.isRequired properties name), p.schema.comment?, .params⟩ := by
    rw [Schema.rootDeclaration, object, Schema.text_in_object]
    rfl
  refine ⟨fun role => p.schema.declare_hoisted name role, ?_, ?_⟩
  · intro decided
    have same : required.isRequiredOr p.required = required.isRequired := by
      funext property
      cases required with
      | unspecified => exact decided.resolve_left fun said => said rfl
      | all _ => rfl
      | names _ => rfl
    rw [written, root, same]
  · rintro rfl optional
    have allRequired : Requirement.unspecified.isRequired = fun _ => true := rfl
    have noneRequired : Requirement.unspecified.isRequiredOr p.required = fun _ => false := by
      rw [optional]
      rfl
    rw [written, root, allRequired, noneRequired, Schema.members_in_slots, Schema.members_in_slots]
    exact ⟨by simp, by simp⟩

/-- An object that does not say what it requires. Its two lists hoist their items under the same name, and the second
takes the place of the first. -/
def orderBody (required : Bool) : Parameter where
  name := "body".toList
  location := .body
  required := required
  description := none
  schema := .object .none
    [("lines".toList, .listOf .none (.object .none [("sku".toList, .primitive .none .string)] .unspecified)),
      ("notes".toList, .listOf .none (.object .none [("by".toList, .primitive ⟨none, some "Who".toList⟩ .any)] (.all false))),
      ("ship to".toList, .object .none [("zip".toList, .primitive .none .number)] .unspecified)] .unspecified
  raw := .null

def orderOperation (required : Bool) : Operation :=
  ⟨"/orders".toList, .post, none, [orderBody required], [], some "Places an order".toList, none⟩

theorem order_is_written_as_object :
    (orderOperation true).paramsText "Order".toList =
      ((orderBody true).schema.hoistedTable "Order".toList).assemble
        { (orderBody true).schema.rootDeclaration "Order".toList .params with comment := some "Places an order".toList } ∧
    (orderOperation false).paramsText "Order".toList =
      ((orderBody false).schema.hoistedTable "Order".toList).assemble ⟨"Order".toList, .interface,
        "\x7b\nlines?: OrderItem[];\nnotes?: OrderItem[];\n\"ship to\"?: \x7b\nzip: number;\n\x7d;\n\x7d".toList,
        some "Places an order".toList, .params⟩ := by
  have needed := lone_body_is_written_as_object (orderOperation true) (orderBody true) .none _ .unspecified "Order".toList
    rfl rfl rfl
  have free := lone_body_is_written_as_object (orderOperation false) (orderBody false) .none _ .unspecified "Order".toList
    rfl rfl rfl
  exact ⟨needed.2.1 (Or.inr rfl), (free.2.2 rfl rfl).2⟩

end Operation

end ApiTypes
