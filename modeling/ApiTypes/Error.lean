import ApiTypes.Api.OfJson
import ApiTypes.Generate
import ApiTypes.Resolve
/-!
Why a run fails, and how that is said. The kind of a failure heads its message.
-/
namespace ApiTypes

inductive Error.Kind where
  | io
  | parse
  | resolution
  | format
  | nameCollision
deriving DecidableEq, Repr

def Error.Kind.title : Error.Kind → Text
  | io => "IO Error".toList
  | parse => "Parse Error".toList
  | resolution => "Resolution Error".toList
  | format => "Format Error".toList
  | nameCollision => "Name Collision".toList

def inQuotes (t : Text) : Text := '\'' :: t ++ ['\'']

def Document.ReadError.detail : Document.ReadError → Text
  | malformed => "Failed to parse document".toList
  | unconvertible (.number n) => "Unsupported YAML number: ".toList ++ n.text
  | unconvertible .key => "Unsupported mapping key in document".toList

namespace LoadError

def kind : LoadError → Error.Kind
  | notJson _ | malformed _ => .parse
  | unreadable _ _ | notLocal _ | unfetched _ _ | unsupported _ _ => .resolution

def detail : LoadError → Text
  | unreadable path e => "Failed to read ".toList ++ path ++ ": ".toList ++ e.text
  | notJson path => "Failed to parse ".toList ++ path
  | malformed e => e.detail
  | notLocal url => "Not a local file URL: ".toList ++ url
  | unfetched url e => "Failed to fetch ".toList ++ url ++ ": ".toList ++ e.text
  | unsupported scheme url => "Unsupported URL scheme ".toList ++ inQuotes scheme ++ " in ".toList ++ url

end LoadError

namespace Resolve.Error

def kind : Resolve.Error → ApiTypes.Error.Kind
  | load e => e.kind
  | badUrl _ | badReference _ | noBase _ | noTarget _ | endless => .resolution

def detail : Resolve.Error → Text
  | load e => e.detail
  | badUrl raw => "Invalid document URL ".toList ++ inQuotes raw
  | badReference ref => "Invalid reference ".toList ++ inQuotes ref
  | noBase ref => "Cannot follow reference ".toList ++ inQuotes ref ++ " without a base document location".toList
  | noTarget ref => "Unresolvable reference: ".toList ++ ref
  | endless => "References without end".toList

end Resolve.Error

def Api.Error.detail : Api.Error → Text
  | paths => "\x60paths\x60 must be a mapping".toList
  | item route => "Path item ".toList ++ inQuotes route ++ " must be a mapping".toList
  | operation verb route => "Operation ".toList ++ verb.name ++ [' '] ++ route ++ " must be a mapping".toList

namespace Config.Error

def kind : Config.Error → ApiTypes.Error.Kind
  | unreadable _ => .io
  | malformed _ | mistyped | invalidFile _ => .parse

def detail : Config.Error → Text
  | unreadable e => e.text
  | malformed e => e.detail
  | mistyped => []
  | invalidFile path => "Invalid config ".toList ++ path

end Config.Error

def Layout.Error.detail : Layout.Error → Text
  | unbalanced line => "Unbalanced closing bracket on line ".toList ++ Text.ofNat line
  | openComment => "Unterminated comment at end of input".toList
  | openBracket => "Unterminated bracket at end of input".toList

def Collision.detail (c : Collision) : Text :=
  inQuotes c.name ++ " produced by both ".toList ++ c.first ++ " and ".toList ++ c.second

inductive Error where
  | load (e : LoadError)
  | resolve (e : Resolve.Error)
  | api (e : Api.Error)
  | config (e : Config.Error)
  | layout (e : Layout.Error)
  | collision (c : Collision)
deriving DecidableEq, Repr

namespace Error

def kind : Error → Kind
  | load e => e.kind
  | resolve e => e.kind
  | api _ => .resolution
  | config e => e.kind
  | layout _ => .format
  | collision _ => .nameCollision

def detail : Error → Text
  | load e => e.detail
  | resolve e => e.detail
  | api e => e.detail
  | config e => e.detail
  | layout e => e.detail
  | collision c => c.detail

def message (e : Error) : Text :=
  if e.detail.isEmpty then e.kind.title else e.kind.title ++ ": ".toList ++ e.detail

end Error

def Source.api (world : World) (source : Source) : Except Error Api := do
  let tree ← (source.resolve world).mapError Error.resolve
  (Api.ofJson tree).mapError Error.api

end ApiTypes
