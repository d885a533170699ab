import ApiTypes.Json.Basic
import ApiTypes.Text.Percent
/-!
JSON pointers as the fragment of a reference holds them: steps after slashes, each percent-encoded, with a
tilde written `~0` and a slash `~1`.
-/
namespace ApiTypes.Pointer

def decodeSegment (segment : Text) : Text :=
  Text.replace "~0".toList "~".toList (Text.replace "~1".toList "/".toList (Text.Percent.decodeLossy segment))

/-- The segments of a fragment. Slashes at its start do not count, and without any other character it has none. -/
def segments (fragment : Text) : List Text :=
  match fragment.dropWhile (· == '/') with
  | [] => []
  | c :: rest => Text.splitAt '/' (c :: rest)

/-- Reads the position of an item in decimal; a plus sign may stand before it. -/
def index? (step : Text) : Option Nat :=
  match step with
  | '+' :: digits => decimal? digits
  | digits => decimal? digits
where
  decimal? (digits : Text) : Option Nat :=
    if digits.all Text.isDigit then Text.toNatBase? 10 digits else none

def child? (step : Text) : Json → Option Json
  | .obj fields => Ordered.get? step fields
  | .arr items => (index? step).bind (items[·]?)
  | _ => none

def walk? : List Text → Json → Option Json
  | [], v => some v
  | step :: steps, v => (child? step v).bind (walk? steps)

def get? (fragment : Text) (root : Json) : Option Json := walk? ((segments fragment).map decodeSegment) root

end ApiTypes.Pointer
