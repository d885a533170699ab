import ApiTypes.Document
import ApiTypes.FileTree
import ApiTypes.Form
import ApiTypes.Naming
/-!
The options of a run. They are read from a document that holds a mapping, or a list of the options in their
order; an option that is left out has its default, and keys that are no options are not looked at.
-/
namespace ApiTypes

structure Config where
  namingTemplate : Text
  includeRawSchema : Bool
  widgets : Option Form.WidgetMap
  strictNames : Bool
  indentWidth : Nat
deriving DecidableEq, Repr

namespace Config

def standard : Config := ⟨Naming.defaultTemplate, false, none, false, 2⟩

inductive Error where
  | unreadable (e : OsError)
  | malformed (e : Document.ReadError)
  /-- The document has other types than the options. -/
  | mistyped
  | invalidFile (path : Text)
deriving DecidableEq, Repr

/-! ### Options from values -/

/-- The values of the options with the given keys: those of a mapping under the keys, those of a list in order. -/
def optionsOf? (keys : List Text) : Json → Option (List (Option Json))
  | .obj fields => some (keys.map fun key => Ordered.get? key fields)
  | .arr items => if keys.length < items.length then none else some ((List.range keys.length).map (items[·]?))
  | _ => none

/-- An option that is left out has its default; one that is there has to be readable. -/
def optionOr {α : Type} (default : α) (read? : Json → Option α) : Option Json → Option α
  | none => some default
  | some v => read? v

def textMap? (v : Json) : Option (List (Text × Text)) := do
  (← v.asFields?).mapM fun (key, v) => do return (key, ← v.asText?)

def widgets? (v : Json) : Option Form.WidgetMap := do
  let standard := Form.WidgetMap.standard
  match ← optionsOf? ["library".toList, "elements".toList, "fallback".toList] v with
  | [library, elements, fallback] =>
    return ⟨← optionOr standard.library Json.asText? library, ← optionOr standard.elements textMap? elements,
      ← optionOr standard.fallback Json.asText? fallback⟩
  | _ => none

def optionalWidgets? : Json → Option (Option Form.WidgetMap)
  | .null => some none
  | v => (widgets? v).map some

def width? : Json → Option Nat
  | .num (.int i) => if 0 ≤ i && i < Nat.pow 2 64 then some i.toNat else none
  | _ => none

def layout? (v : Json) : Option Nat := do
  match ← optionsOf? ["indentWidth".toList] v with
  | [width] => optionOr standard.indentWidth width? width
  | _ => none

def optionKeys : List Text :=
  ["namingTemplate".toList, "includeRawJsonSchema".toList, "typeLibraryElementMap".toList, "strictNames".toList,
    "format".toList]

def ofJson? (v : Json) : Option Config := do
  match ← optionsOf? optionKeys v with
  | [template, raw, widgets, strict, layout] =>
    return ⟨← optionOr standard.namingTemplate Json.asText? template, ← optionOr false Json.asBool? raw,
      ← optionOr none optionalWidgets? widgets, ← optionOr false Json.asBool? strict,
      ← optionOr standard.indentWidth layout? layout⟩
  | _ => none

/-! ### Options from texts and files -/

def ofText (t : Text) : Except Error Config :=
  if (Text.trim t).isEmpty then .ok standard
  else match Document.read t with
    | .error e => .error (.malformed e)
    | .ok v => (ofJson? v).elim (.error .mistyped) .ok

def ofFile (files : FileTree) (path : Text) : Except Error Config := do
  let content ← (files.read path).mapError .unreadable
  (ofText content).mapError fun _ => .invalidFile path

end Config

end ApiTypes
