import ApiTypes.Text.Camel
/-!
Names of declarations, from the keys of definitions, from routes, and from a template for operations.
-/
namespace ApiTypes.Naming

inductive Role where
  | entity
  | params
  | item
deriving DecidableEq, Repr

def Role.suffix : Role → Text
  | entity => "Entity".toList
  | params => "Params".toList
  | item => "Item".toList

def pathToken : Text := "\x7bpath\x7d".toList

def operationToken : Text := "\x7boperationId\x7d".toList

def defaultTemplate : Text := pathToken ++ operationToken

/-- Fills a template with a route and an operation, both in camel case, and writes the whole in camel case. -/
def resolve (template path operation : Text) (role : Role) : Text :=
  let filled := Text.replace operationToken (Text.camel operation) (Text.replace pathToken (Text.camel path) template)
  Text.camel filled ++ role.suffix

def ofDefinition (key : Text) : Text := Text.camel key

def hoisted (parent : Text) : Text := parent ++ Role.item.suffix

/-! ### Routes -/

def isVariable (segment : Text) : Bool := segment.head? == some '{' && segment.getLast? == some '}'

def segments (route : Text) : List Text := (Text.splitAt '/' route).filter (!·.isEmpty)

/-- The verb, in lower case, and the segments of a route that are not variable. -/
def slug (verb route : Text) : Text :=
  Text.joinWith ['-'] (verb :: (segments route).filter (!isVariable ·))

/-- The last segment of a route without the braces of a variable. -/
def short (route : Text) : Text :=
  match (segments route).getLast? with
  | none => []
  | some segment => ((segment.dropWhile (· == '{')).reverse.dropWhile (· == '}')).reverse

end ApiTypes.Naming
