import ApiTypes.Url.Parse
/-!
References to a value in a document: the document and, after a number sign, the place in it.
-/
namespace ApiTypes

inductive Reference.Kind where
  /-- In the document that holds the reference. -/
  | inside
  /-- In a document named relative to the one that holds the reference. -/
  | relative
  /-- In a document with a host. -/
  | remote
deriving DecidableEq, Repr

structure Reference where
  document : Text
  fragment : Text
deriving DecidableEq, Repr

namespace Reference

def ofText (t : Text) : Reference :=
  let (document, fragment) := Text.cutAt '#' t
  ⟨document, fragment.getD []⟩

def namesHost (document : Text) : Bool :=
  match Url.parse? document with
  | some u => u.scheme != "file".toList && u.hasHost
  | none => false

def kind (r : Reference) : Kind :=
  if r.document.isEmpty then .inside
  else if namesHost r.document then .remote
  else .relative

end Reference

end ApiTypes
