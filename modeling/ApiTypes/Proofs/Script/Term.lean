import ApiTypes.Proofs.Script.Token
import ApiTypes.Ordered
/-!
Types as trees, and how they are read from tokens. The mark of an array binds stronger than the bar between
alternatives. A module is a list of exported definitions.
-/
namespace ApiTypes.Script

inductive Term where
  /-- A built-in type, a literal that is a word, or the name of a definition. -/
  | name (w : Text)
  | text (s : Text)
  | number (n : Text)
  | array (element : Term)
  | union (alternatives : List Term)
  /-- Members with their keys, and whether each is optional. -/
  | record (members : List (Text × Bool × Term))

abbrev Members := List (Text × Bool × Term)

structure Definition where
  name : Text
  body : Term

def Term.any : Term := .name "any".toList

def Term.never : Term := .name "never".toList

def unionOf : List Term → Term
  | [t] => t
  | ts => .union ts

/-! ### Reading -/

def after? (c : Char) : List Token → Option (List Token)
  | .mark d :: rest => if d == c then some rest else none
  | _ => none

def arrays : Term → List Token → Term × List Token
  | t, .mark '[' :: .mark ']' :: rest => arrays (.array t) rest
  | t, rest => (t, rest)

def key? : Token → Option Text
  | .word w => some w
  | .text s => some s
  | _ => none

def optional : List Token → Bool × List Token
  | .mark '?' :: rest => (true, rest)
  | rest => (false, rest)

mutual

/- `fuel` exceeds twice the number of tokens that are read. -/
def alternativesWithin : (fuel : Nat) → List Token → Option (List Term × List Token)
  | 0, _ => none
  | fuel + 1, tokens => do
    let (t, rest) ← primaryWithin fuel tokens
    let (t, rest) := arrays t rest
    match after? '|' rest with
    | some rest => do
      let (ts, rest) ← alternativesWithin fuel rest
      return (t :: ts, rest)
    | none => return ([t], rest)

def primaryWithin : (fuel : Nat) → List Token → Option (Term × List Token)
  | 0, _ => none
  | fuel + 1, tokens =>
    match tokens with
    | .mark '(' :: rest => do
      let (ts, rest) ← alternativesWithin fuel rest
      return (unionOf ts, ← after? ')' rest)
    | .mark '{' :: rest => do
      let (members, rest) ← membersWithin fuel rest
      return (.record members, rest)
    | .word w :: .mark '<' :: rest =>
      if w = "Array".toList then do
        let (ts, rest) ← alternativesWithin fuel rest
        return (.array (unionOf ts), ← after? '>' rest)
      else none
    | .word w :: rest => some (.name w, rest)
    | .text s :: rest => some (.text s, rest)
    | .number n :: rest => some (.number n, rest)
    | _ => none

def membersWithin : (fuel : Nat) → List Token → Option (Members × List Token)
  | 0, _ => none
  | _, [] => none
  | fuel + 1, token :: rest =>
    if token = .mark '}' then some ([], rest)
    else do
      let key ← key? token
      let (optional, rest) := optional rest
      let (ts, rest) ← alternativesWithin fuel (← after? ':' rest)
      let (members, rest) ← membersWithin fuel (← after? ';' rest)
      return ((key, optional, unionOf ts) :: members, rest)

end

def definitionWithin (fuel : Nat) : List Token → Option (Definition × List Token)
  | .word exported :: .word kind :: .word name :: rest =>
    if exported ≠ "export".toList then none
    else if kind = "interface".toList then do
      let (members, rest) ← membersWithin fuel (← after? '{' rest)
      return (⟨name, .record members⟩, rest)
    else if kind = "type".toList then do
      let (ts, rest) ← alternativesWithin fuel (← after? '=' rest)
      return (⟨name, unionOf ts⟩, ← after? ';' rest)
    else none
  | _ => none

def definitionsWithin : (fuel : Nat) → List Token → Option (List Definition)
  | _, [] => some []
  | 0, _ => none
  | fuel + 1, tokens => do
    let (d, rest) ← definitionWithin fuel tokens
    return d :: (← definitionsWithin fuel rest)

def read? (t : Text) : Option (List Definition) := do
  let tokens ← tokens? t
  definitionsWithin (2 * tokens.length) tokens

def type? (t : Text) : Option Term := do
  let tokens ← tokens? t
  let (ts, rest) ← alternativesWithin (2 * tokens.length) tokens
  if rest.isEmpty then some (unionOf ts) else none

/-! ### Meaning -/

mutual

def Term.substitute (f : Text → Term) : Term → Term
  | .name w => f w
  | .text s => .text s
  | .number n => .number n
  | .array t => .array (t.substitute f)
  | .union ts => .union (substituteAll f ts)
  | .record members => .record (substituteMembers f members)

def substituteAll (f : Text → Term) : List Term → List Term
  | [] => []
  | t :: ts => t.substitute f :: substituteAll f ts

def substituteMembers (f : Text → Term) : Members → Members
  | [] => []
  | (key, optional, t) :: members => (key, optional, t.substitute f) :: substituteMembers f members

end

def body? (definitions : List Definition) (name : Text) : Option Term :=
  (definitions.find? (·.name == name)).map (·.body)

/-- What a name stands for, with the names in its definition expanded in turn, `depth` definitions deep. -/
def meaning (definitions : List Definition) : (depth : Nat) → Text → Term
  | 0, w => .name w
  | depth + 1, w =>
    match body? definitions w with
    | some t => t.substitute (meaning definitions depth)
    | none => .name w

/-- The last definition of a text, with every name defined before it expanded. -/
def denotation? (t : Text) : Option Definition := do
  let definitions ← read? t
  let root ← definitions.getLast?
  let before := definitions.dropLast
  return ⟨root.name, root.body.substitute (meaning before before.length)⟩

/-! ### Unions in unions -/

def Term.alternatives : Term → List Term
  | .union ts => ts
  | t => [t]

mutual

def Term.flat : Term → Term
  | .union ts => unionOf (flatAlternatives ts)
  | .array t => .array t.flat
  | .record members => .record (flatMembers members)
  | t => t

def flatAlternatives : List Term → List Term
  | [] => []
  | t :: ts => t.flat.alternatives ++ flatAlternatives ts

def flatMembers : Members → Members
  | [] => []
  | (key, optional, t) :: members => (key, optional, t.flat) :: flatMembers members

end

end ApiTypes.Script
