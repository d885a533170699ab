import ApiTypes.Text.Basic
/-!
Block comments. Nothing in the text of a comment can end it, because the mark that would is written apart.
-/
namespace ApiTypes.Comment

/-- One line of a comment; the blank before an empty line, or after a last star that stands alone, is left out. -/
def line (t : Text) : Text := Text.replace " * \n".toList " *\n".toList (" * ".toList ++ t ++ ['\n'])

def lines (t : Text) : List Text := Text.lines (Text.replace "*/".toList "*\\/".toList t)

def block (t : Text) : Text := "/**\n".toList ++ (lines t).flatMap line ++ " */\n".toList

def lead (t : Option Text) : Text :=
  match t with
  | none => []
  | some t => if t.isEmpty then [] else block t

end ApiTypes.Comment
