import ApiTypes.Text.Basic
/-!
The tokens of a YAML stream. Block structure, which the text shows by indentation, has its own start and end
tokens, so that the grammar over tokens does not look at columns.
-/
namespace ApiTypes.Yaml

/-- A tag in octets, which need not make up characters. -/
abbrev Tag := List Nat

def Tag.lone : Tag := [0x21]

inductive Token where
  | streamEnd
  | version (major minor : Nat)
  | tagHandle (handle : Text) (lead : Tag)
  | documentStart
  | documentEnd
  | blockSequenceStart
  | blockMappingStart
  | blockEnd
  | flowSequenceStart
  | flowSequenceEnd
  | flowMappingStart
  | flowMappingEnd
  | blockEntry
  | flowEntry
  | key
  | value
  | alias (name : Text)
  | anchor (name : Text)
  | tag (handle : Text) (suffix : Tag)
  | scalar (text : Text) (plain : Bool)
deriving DecidableEq, Repr

end ApiTypes.Yaml
