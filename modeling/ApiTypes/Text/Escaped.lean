import ApiTypes.Text.Letter
import ApiTypes.Text.PrintTable
/-!
Texts for the eye of a reader: between double quotes, with escapes for what would not show.
-/
namespace ApiTypes.Text

def isShown (c : Char) : Bool :=
  0x20 ≤ c.toNat && c.toNat != 0x7F && !inRanges extenderRanges c && !inRanges shapelessRanges c

def escapeShown (c : Char) : Text :=
  if c == '\x00' then "\\0".toList
  else if c == '\t' then "\\t".toList
  else if c == '\r' then "\\r".toList
  else if c == '\n' then "\\n".toList
  else if c == '\\' || c == '"' || c == '\'' then ['\\', c]
  else if isShown c then [c]
  else ['\\', 'u', '{'] ++ ofNatBase 16 c.toNat ++ ['}']

def escaped (t : Text) : Text := '"' :: (t.flatMap escapeShown ++ ['"'])

end ApiTypes.Text
