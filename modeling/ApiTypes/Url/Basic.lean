import ApiTypes.Url.Host
/-!
URLs in parts, and their text. Two URLs name the same document if their texts are the same.
-/
namespace ApiTypes

/-- Who is asked for a document; for a file the host is left out. -/
structure Url.Authority where
  user : Text
  password : Text
  host : Option Url.Host
  portNumber : Option Nat
deriving DecidableEq, Repr

structure Url where
  scheme : Text
  authority : Option Url.Authority
  path : Text
  query : Option Text
  fragment : Option Text
deriving DecidableEq, Repr

namespace Url

def Authority.none : Authority := ⟨[], [], .none, .none⟩

def Authority.text (a : Authority) : Text :=
  let userinfo :=
    if a.user.isEmpty && a.password.isEmpty then []
    else a.user ++ (if a.password.isEmpty then [] else ':' :: a.password) ++ ['@']
  let host := (a.host.map Host.text).getD []
  let portNumber := (a.portNumber.map fun n => ':' :: Text.ofNat n).getD []
  userinfo ++ host ++ portNumber

/- Without an authority, a path that starts with an empty segment would read as one; a dot goes before it. -/
def text (u : Url) : Text :=
  let authority := match u.authority with
    | some a => "//".toList ++ a.text
    | none => if Text.startsWith u.path "//".toList then "/.".toList else []
  u.scheme ++ [':'] ++ authority ++ u.path ++ ((u.query.map ('?' :: ·)).getD [])
    ++ ((u.fragment.map ('#' :: ·)).getD [])

def host? (u : Url) : Option Host := u.authority.bind (·.host)

def hasHost (u : Url) : Bool := u.host?.isSome

/-- A path without a slash at its start is a text that relative references cannot change. -/
def isRootless (u : Url) : Bool := u.authority.isNone && u.path.head? != some '/'

def segments (u : Url) : List Text := Text.splitAt '/' (u.path.drop 1)

end Url

end ApiTypes
