import ApiTypes.Document
import ApiTypes.FileTree
import ApiTypes.Network
/-!
What a run can see of the outside, and how a document comes from there.
-/
namespace ApiTypes

structure World where
  files : FileTree
  network : Network

inductive LoadError where
  | unreadable (path : Text) (e : OsError)
  | notJson (path : Text)
  | malformed (e : Document.ReadError)
  | notLocal (url : Text)
  | unfetched (url : Text) (e : FetchError)
  | unsupported (scheme url : Text)
deriving DecidableEq, Repr

namespace World

def isJsonPath (path : Text) : Bool :=
  match FileTree.extension? path with
  | some ext => Text.lowerAscii ext == "json".toList
  | none => false

/-- Reads the text of a file as a document. Under a name that ends in `.json` it has to be JSON. -/
def readText (path content : Text) : Except LoadError Json :=
  if isJsonPath path then
    match Json.read? content with
    | some v => .ok v
    | none => .error (.notJson path)
  else (Document.read content).mapError .malformed

def readDocument (world : World) (path : Text) : Except LoadError Json := do
  let content ← (world.files.read path).mapError (.unreadable path)
  readText path content

/-- The document at a file's path from the root, given in octets. There is none at a path that is not a text. -/
def readDocumentAt (world : World) (octets : List Nat) : Except LoadError Json :=
  match Text.Utf8.decode? octets with
  | some path => world.readDocument path
  | none => .error (.unreadable (Text.Utf8.decodeLossy octets) (world.files.whyUnreadable octets))

def load (world : World) (u : Url) : Except LoadError Json :=
  if u.scheme == "file".toList then
    match u.filePath? with
    | some octets => world.readDocumentAt octets
    | none => .error (.notLocal u.text)
  else if u.scheme == "http".toList || u.scheme == "https".toList then do
    let body ← (world.network.fetch u).mapError (.unfetched u.text)
    (Document.read body).mapError .malformed
  else .error (.unsupported u.scheme u.text)

def urlOfFile (world : World) (path : Text) : Url :=
  match world.files.locate path with
  | .ok place => Url.ofFile place
  | .error _ => Url.ofFile (FileTree.components path)

end World

end ApiTypes
