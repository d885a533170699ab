import ApiTypes.Ordered
import ApiTypes.Url.Parse
/-!
The network a run can see: either it cannot be reached, or it is a table of replies. Replies are looked up
by the URL without its fragment and without user and password.
-/
namespace ApiTypes

structure Reply where
  status : Nat
  body : Text
  location : Option Text

inductive Network where
  | unreachable
  | replies (table : List (Text × Reply))

inductive FetchError where
  | badCharacter
  | tooLong
  | unreachable
  | status (n : Nat)
  | badRedirect
  | tooManyRedirects
deriving DecidableEq, Repr

def FetchError.text : FetchError → Text
  | badCharacter => "http: invalid uri character".toList
  | tooLong => "http: uri too long".toList
  | unreachable => "io: Network is unreachable (os error 101)".toList
  | status n => "http status: ".toList ++ Text.ofNat n
  | badRedirect => "bad uri".toList
  | tooManyRedirects => "too many redirects".toList

namespace Network

/-- The text under which a document is asked for. -/
def address (u : Url) : Text :=
  let bare := u.authority.map fun a => { a with user := [], password := [] }
  Url.text { u with authority := bare, fragment := none }

def maxRedirects : Nat := 10

/- A reply that names another location sends the question on; a reply without content has an empty body. -/
def fetchWithin (table : List (Text × Reply)) : (hops : Nat) → Url → Except FetchError Text
  | hops, u =>
    match Ordered.get? (address u) table with
    | none => .error (.status 404)
    | some reply =>
      if 400 ≤ reply.status then .error (.status reply.status)
      else if reply.status == 204 then .ok []
      else match (if 300 ≤ reply.status then reply.location else none), hops with
        | none, _ => .ok reply.body
        | some _, 0 => .error .tooManyRedirects
        | some location, hops + 1 =>
          match u.join? location with
          | some next => fetchWithin table hops next
          | none => .error .badRedirect

def maxAddress : Nat := 65534

/-- A host may hold characters that a question for it may not. -/
def checkAddress (u : Url) : Except FetchError Unit :=
  if maxAddress < Text.Utf8.size u.text then .error .tooLong
  else if (u.host?.map Url.Host.text).any (·.any "\"`\x7b\x7d".toList.contains) then .error .badCharacter
  else .ok ()

def ask : Network → Url → Except FetchError Text
  | unreachable, _ => .error .unreachable
  | replies table, u => fetchWithin table maxRedirects u

def fetch (network : Network) (u : Url) : Except FetchError Text := do
  checkAddress u
  network.ask u

end Network

end ApiTypes
