import ApiTypes.Declaration.Comment
import ApiTypes.Json.Writer
/-!
Record types in TypeScript: a member a line, between braces.
-/
namespace ApiTypes.Record

def isIdentifierStart (c : Char) : Bool :=
  ('A' ≤ c && c ≤ 'Z') || ('a' ≤ c && c ≤ 'z') || c == '_' || c == '$'

def isIdentifierPart (c : Char) : Bool := isIdentifierStart c || Text.isDigit c

def isIdentifier : Text → Bool
  | [] => false
  | c :: rest => isIdentifierStart c && rest.all isIdentifierPart

/-- The name of a property, quoted unless it is an identifier. -/
def key (name : Text) : Text := if isIdentifier name then name else Json.quote name

def member (name type : Text) (required : Bool) (comment : Option Text) : Text :=
  Comment.lead comment ++ key name ++ (if required then [] else ['?']) ++ ": ".toList ++ type ++ ";\n".toList

def body (members : List Text) : Text :=
  if members.isEmpty then ['{', '}'] else ['{', '\n'] ++ members.flatten ++ ['}']

end ApiTypes.Record
