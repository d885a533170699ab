import ApiTypes.Generate
import ApiTypes.Proofs.Writing
/-!
The layout accepts everything that is generated: the declarations of every schema and of the parameters of every
operation, under every name without brackets, quotes and line feeds. The names that are given out are such names, so
no declaration is lost on its way through the layout.
-/
namespace ApiTypes.Layout

theorem layout_writing : Writing Balanced Whole where
  plain := plain_balanced
  quote := quote_balanced
  append := Balanced.append
  parenthesized := parenthesized_balanced
  arrayMark := fun _ => code_piece (by decide) rfl
  member := member_whole
  body := body_balanced

theorem insertions_whole {ds : List Declaration} {root : Declaration}
    (each : ∀ d ∈ ds, Plain d.name ∧ Balanced d.body) (own : Plain root.name ∧ Balanced root.body) :
    Whole ((ds.foldl Declaration.Table.insert Declaration.Table.empty).assemble root) := by
  refine assemble_whole ?_ own
  intro d mem
  rcases Schema.insert_all_mem mem with before | put
  · simp [Declaration.Table.empty, Declaration.Table.declarations] at before
  · exact each d put

theorem declare_whole (s : Schema) {name : Text} (plain : Plain name) (role : Declaration.Role) :
    Whole (s.declare name role) := by
  simp only [Schema.declare, Schema.hoist_inserts]
  exact insertions_whole (layout_writing.insertions s plain) ⟨plain, layout_writing.type s plain⟩

theorem params_whole (op : Operation) {name : Text} (plain : Plain name) : Whole (op.paramsText name) := by
  simp only [Operation.paramsText, Operation.members_insert]
  exact insertions_whole (layout_writing.operationInsertions op plain)
    ⟨plain, body_balanced (layout_writing.operationMembers op plain)⟩

/-! ### Whole descriptions -/

theorem whole_kept {t : Text} (whole : Whole t) (width : Nat) : Formatter.orEmpty format width t ≠ [] := by
  obtain ⟨out, laidOut⟩ := whole.accepted width
  simp only [Formatter.orEmpty, laidOut]
  exact format_nonempty laidOut

theorem guard_ok {α : Type} {strict : Bool} {names : List (Text × Text)} {result out : α}
    (ok : Collision.guard strict names result = .ok out) : out = result := by
  unfold Collision.guard at ok
  split at ok
  · simp at ok
  · exact (Except.ok.inj ok).symm

theorem definition_kept (config : Config) (key : Text) (s : Schema) :
    (Api.definitionText config format key s).2 ≠ [] :=
  whole_kept (declare_whole s (Naming.definition_plain key) .definition) config.indentWidth

theorem entity_kept {op : Operation} {config : Config} {d : Declared} (made : op.entity? config format = some d) :
    d.text ≠ [] := by
  simp only [Operation.entity?, Option.bind_eq_bind, Option.bind_eq_some_iff, Option.pure_def, Option.some.injEq] at made
  obtain ⟨response, -, schema, -, rfl⟩ := made
  exact whole_kept (declare_whole _ (Naming.resolve_plain _ _ _ .entity) .entity) config.indentWidth

theorem params_kept {op : Operation} {config : Config} {d : Declared} (made : op.params? config format = some d) :
    d.text ≠ [] := by
  simp only [Operation.params?, Option.ite_none_left_eq_some, Option.some.injEq] at made
  obtain ⟨-, rfl⟩ := made
  exact whole_kept (params_whole op (Naming.resolve_plain _ _ _ .params)) config.indentWidth

theorem present_iff_text {d : Option Declared} (kept : ∀ made, d = some made → made.text ≠ []) :
    (d.map (·.name)).isSome ↔ (d.map (·.text)).getD [] ≠ [] := by
  cases d with
  | none => simp
  | some made => simpa using kept made rfl

/-- No generated declaration is refused by the layout: definitions have texts, an artifact has the text of an entity or
of parameters exactly if it has their name, and every schema and every operation can be declared under every name
without brackets, quotes and line feeds. -/
theorem generated_code_accepted :
    (∀ config definitions texts, Api.generateDefinitions config format definitions = .ok texts →
      ∀ entry ∈ texts, entry.2 ≠ []) ∧
    (∀ config (api : Api) artifacts, api.generatePaths config format = .ok artifacts →
      ∀ route ∈ artifacts, ∀ a ∈ route.2,
        ((a.entity.map (·.name)).isSome ↔ (a.entity.map (·.text)).getD [] ≠ []) ∧
        ((a.params.map (·.name)).isSome ↔ (a.params.map (·.text)).getD [] ≠ [])) ∧
    (∀ width (s : Schema) name role, Plain name → ∃ out, format width (s.declare name role) = .ok out) ∧
    (∀ width (op : Operation) name, Plain name → ∃ out, format width (op.paramsText name) = .ok out) := by
  refine ⟨?_, ?_, ?_, ?_⟩
  · intro config definitions texts ok entry mem
    rw [guard_ok ok] at mem
    rcases Ordered.put_all_mem mem with before | made
    · simp at before
    · obtain ⟨⟨key, s⟩, -, rfl⟩ := List.mem_map.mp made
      exact definition_kept config key s
  · intro config api artifacts ok route mem a inRoute
    rw [guard_ok ok] at mem
    obtain ⟨⟨path, operations⟩, -, rfl⟩ := List.mem_map.mp mem
    obtain ⟨⟨verb, op⟩, -, rfl⟩ := List.mem_map.mp inRoute
    exact ⟨present_iff_text fun _ made => entity_kept made, present_iff_text fun _ made => params_kept made⟩
  · intro width s name role plain
    exact (declare_whole s plain role).accepted width
  · intro width op name plain
    exact (params_whole op plain).accepted width

def tangled : Schema :=
  .object ⟨some "first \x7d line /*\r\n second */ \" line\n".toList, none⟩
    [("[key\\\n\"".toList, .enumeration ⟨none, some "*/".toList⟩ .string [.str "\"\x7d\\".toList, .null]),
      ("rows".toList, .listOf Notes.none (.object ⟨some "(".toList, none⟩
        [("id".toList, .tuple Notes.none [.primitive Notes.none .number, .list Notes.none])] .unspecified))]
    .unspecified

def tangledOperation : Operation :=
  { route := "/a/\x7bb\x7d".toList, verb := .post, id := some "it's".toList
    parameters := [⟨"body".toList, .body, true, none, tangled, .null⟩]
    responses := [("200".toList, ⟨some "\x7b".toList, some (.listOf Notes.none tangled), none⟩)]
    summary := some "/* ".toList, description := none }

def tangledApi : Api := ⟨[], [("/a".toList, [(.post, tangledOperation)])]⟩

def tangledDefinition : Text :=
  Text.joinWith ['\n'] <| List.map String.toList
    ["export type PetItemItem = number | any[];", "", "/**", " * (", " */", "export interface PetItem \x7b",
     "  id: PetItemItem[];", "\x7d", "", "/**", " * first \x7d line /*", " *  second *\\/ \" line", " */",
     "export interface Pet \x7b", "  /**", "   * *\\/", "   */",
     "  \"[key\\\\\\n\\\"\": \"\\\"\x7d\\\\\" | \"null\";", "  rows: PetItem[];", "\x7d", ""]

def tangledEntity : Text :=
  Text.joinWith ['\n'] <| List.map String.toList
    ["export type PostAItSEntityItemItemItem = number | any[];", "", "/**", " * (", " */",
     "export interface PostAItSEntityItemItem \x7b", "  id: PostAItSEntityItemItemItem[];", "\x7d", "", "/**",
     " * first \x7d line /*", " *  second *\\/ \" line", " */", "export interface PostAItSEntityItem \x7b", "  /**",
     "   * *\\/", "   */", "  \"[key\\\\\\n\\\"\": \"\\\"\x7d\\\\\" | \"null\";", "  rows: PostAItSEntityItemItem[];",
     "\x7d", "", "/**", " * \x7b", " */", "export type PostAItSEntity = PostAItSEntityItem[];", ""]

def tangledParams : Text :=
  Text.joinWith ['\n'] <| List.map String.toList
    ["export type PostAItSParamsItemItem = number | any[];", "", "/**", " * (", " */",
     "export interface PostAItSParamsItem \x7b", "  id: PostAItSParamsItemItem[];", "\x7d", "", "/**", " * /*", " */",
     "export interface PostAItSParams \x7b", "  /**", "   * *\\/", "   */",
     "  \"[key\\\\\\n\\\"\": \"\\\"\x7d\\\\\" | \"null\";", "  rows: PostAItSParamsItem[];", "\x7d", ""]

theorem tangled_code_accepted :
    Api.generateDefinitions .standard format [("pet[]".toList, tangled)] = .ok [("Pet".toList, tangledDefinition)] ∧
    tangledDefinition ≠ [] ∧
    tangledApi.generatePaths .standard format = .ok (tangledApi.artifacts .standard format) ∧
    (∀ route ∈ tangledApi.artifacts .standard format, ∀ a ∈ route.2,
      ((a.entity.map (·.name)).isSome ↔ (a.entity.map (·.text)).getD [] ≠ []) ∧
      ((a.params.map (·.name)).isSome ↔ (a.params.map (·.text)).getD [] ≠ [])) ∧
    (tangledApi.artifacts .standard format).flatMap
        (fun route => route.2.map fun a => (a.entity.map (·.text), a.params.map (·.text))) =
      [(some tangledEntity, some tangledParams)] ∧
    Plain "Pet".toList ∧ format 2 (tangled.declare "Pet".toList .entity) = .ok tangledDefinition ∧
    Plain "PostAItSParams".toList ∧ format 2 (tangledOperation.paramsText "PostAItSParams".toList) = .ok tangledParams := by
  have plain : Plain "Pet".toList := by decide
  have plain' : Plain "PostAItSParams".toList := by decide
  have definitions : Api.generateDefinitions .standard format [("pet[]".toList, tangled)] =
      .ok [("Pet".toList, tangledDefinition)] := by decide +kernel
  have paths : tangledApi.generatePaths .standard format = .ok (tangledApi.artifacts .standard format) := by rfl
  have declared : (format 2 (tangled.declare "Pet".toList .entity)).toOption = some tangledDefinition := by decide +kernel
  have asked : (format 2 (tangledOperation.paramsText "PostAItSParams".toList)).toOption = some tangledParams := by
    decide +kernel
  obtain ⟨text, accepted⟩ := generated_code_accepted.2.2.1 2 tangled "Pet".toList .entity plain
  obtain ⟨text', accepted'⟩ := generated_code_accepted.2.2.2 2 tangledOperation "PostAItSParams".toList plain'
  rw [accepted] at declared ⊢
  rw [accepted'] at asked ⊢
  refine ⟨definitions, ?_, paths, ?_, by decide +kernel, plain, ?_, plain', ?_⟩
  · exact generated_code_accepted.1 .standard [("pet[]".toList, tangled)] _ definitions _ List.mem_cons_self
  · exact generated_code_accepted.2.1 .standard tangledApi _ paths
  · exact congrArg Except.ok (Option.some.inj declared)
  · exact congrArg Except.ok (Option.some.inj asked)

end ApiTypes.Layout
