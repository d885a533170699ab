import ApiTypes.Yaml.Event
import ApiTypes.Yaml.Scan
import ApiTypes.Yaml.Value
/-!
From events to a value. Events are put together into a tree of nodes in which an alias is a number; the tree
is then read as a value, aliases being replaced by what they stand for.
-/
namespace ApiTypes.Yaml

/-! ### Anchors -/

/- `names` gives the number that each anchor's name has now, `places` the event that each number stands for,
   the latest first. A name that is used again gets the number of distinct names so far, which a later name
   may get as well: then the number stands for the later event. -/
structure Anchors where
  names : List (Text × Nat)
  places : List (Nat × Nat)

def Anchors.note (position : Nat) (a : Anchors) : Option Text → Anchors
  | none => a
  | some name =>
    let number := a.names.length
    let names := if a.names.any (·.1 == name) then
        a.names.map fun e => if e.1 == name then (name, number) else e
      else a.names ++ [(name, number)]
    ⟨names, (number, position) :: a.places⟩

def Event.anchor? : Event → Option Text
  | .scalar p _ _ | .sequenceStart p | .mappingStart p => p.anchor
  | _ => none

/-- For each alias its number, in order, and the final anchors; an alias has to come after its anchor. -/
def aliasNumbers? (position : Nat) (a : Anchors) : List Event → Option (List Nat × Anchors)
  | [] => some ([], a)
  | .alias name :: rest => do
    let e ← a.names.find? (·.1 == name)
    let (numbers, a) ← aliasNumbers? (position + 1) a rest
    return (e.2 :: numbers, a)
  | event :: rest => aliasNumbers? (position + 1) (a.note position event.anchor?) rest

/-! ### Trees of nodes -/

inductive Node where
  | alias (position : Nat)
  | scalar (tag : Option Tag) (text : Text) (plain : Bool)
  | sequence (tag : Option Tag) (items : List Node)
  | mapping (tag : Option Tag) (entries : List (Node × Node))

/-- A collection that is not complete: where it started, its tag, and its nodes in reverse. -/
structure Frame where
  position : Nat
  isMapping : Bool
  tag : Option Tag
  nodes : List Node

def pairUp : List Node → List (Node × Node)
  | k :: v :: rest => (k, v) :: pairUp rest
  | _ => []

def Frame.node (f : Frame) : Node :=
  if f.isMapping then .mapping f.tag (pairUp f.nodes.reverse) else .sequence f.tag f.nodes.reverse

/-- The nodes that are complete, by the position of their first event, and the collections that are open. -/
structure Tree where
  known : List (Nat × Node)
  frames : List Frame
  root : Option Node

def Tree.add (position : Nat) (n : Node) (t : Tree) : Tree :=
  let known := match n with
    | .alias _ => t.known
    | _ => (position, n) :: t.known
  match t.frames with
  | [] => { t with known := known, root := some n }
  | f :: rest => ⟨known, { f with nodes := n :: f.nodes } :: rest, t.root⟩

def Tree.close (t : Tree) : Tree :=
  match t.frames with
  | [] => t
  | f :: rest => { t with frames := rest }.add f.position f.node

/- `targets` are the positions that the aliases still to come stand for. -/
def Tree.build (position : Nat) (targets : List Nat) (t : Tree) : List Event → Tree
  | [] => t
  | event :: rest =>
    match event, targets with
    | .alias _, p :: targets => Tree.build (position + 1) targets (t.add position (.alias p)) rest
    | .alias _, [] => Tree.build (position + 1) [] t rest
    | .scalar props text plain, _ =>
      Tree.build (position + 1) targets (t.add position (.scalar props.tag text plain)) rest
    | .sequenceStart props, _ =>
      Tree.build (position + 1) targets { t with frames := ⟨position, false, props.tag, []⟩ :: t.frames } rest
    | .mappingStart props, _ =>
      Tree.build (position + 1) targets { t with frames := ⟨position, true, props.tag, []⟩ :: t.frames } rest
    | .sequenceEnd, _ | .mappingEnd, _ => Tree.build (position + 1) targets t.close rest

def Tree.ofEvents? (events : List Event) : Option Tree := do
  let (numbers, a) ← aliasNumbers? 0 ⟨[], []⟩ events
  let targets ← numbers.mapM fun n => (a.places.find? (·.1 == n)).map Prod.snd
  return Tree.build 0 targets ⟨[], [], none⟩ events

/-! ### Values of nodes -/

/-- A tag of one's own starts with an exclamation mark, and its name is what follows; the mark alone is its own
name. A name that is no text does not count. -/
def ownTag? : Option Tag → Option Text
  | some (0x21 :: name) => Text.Utf8.decode? (if name.isEmpty then Tag.lone else name)
  | _ => none

def untaggedValue? (text : Text) (plain : Bool) : Option Value := if plain then plainValue? text else some (.str text)

/-- The value of a scalar's text under its tag: what a core tag says, a text for other tags, and for a tag that
starts with an exclamation mark what the text is by itself. -/
def scalarValue? (tag : Option Tag) (text : Text) (plain : Bool) : Option Value :=
  match tag with
  | none => untaggedValue? text plain
  | some t =>
    if t == coreTag "bool" then (bool? text).map .bool
    else if t == coreTag "int" then (integer? text).bind intValue?
    else if t == coreTag "float" then (float? text).map .num
    else if t == coreTag "null" then (if isNull text then some .null else none)
    else if t.head? == Tag.lone.head? then untaggedValue? text plain
    else some (.str text)

def withTag (tag : Option Tag) (v : Value) : Value :=
  match ownTag? tag with
  | some name => .tagged name v
  | none => v

def addEntry? (entries : List (Value × Value)) (k v : Value) : Option (List (Value × Value)) :=
  if entries.any (k.same ·.1) then none else some (entries ++ [(k, v)])

def target? (known : List (Nat × Node)) : Node → Nat → Option (Node × Nat)
  | .alias p, left + 1 => (known.find? (·.1 == p)).map fun e => (e.2, left)
  | .alias _, 0 => none
  | n, left => some (n, left)

/- `depth` is how many collections may still be opened; the number after the value is how many uses of aliases
   are left. -/
def nodeValue? (known : List (Nat × Node)) : (depth : Nat) → Node → (left : Nat) → Option (Value × Nat)
  | depth, node, left =>
    match target? known node left with
    | none => none
    | some (.alias _, _) => none
    | some (.scalar tag text plain, left) =>
      (scalarValue? tag text plain).map fun v => (withTag tag v, left)
    | some (.sequence tag items, left) =>
      match depth with
      | 0 => none
      | depth + 1 => do
        let (items, left) ← items.foldlM (fun (done, left) n => do
          let (v, left) ← nodeValue? known depth n left
          return (v :: done, left)) (([] : List Value), left)
        return (withTag tag (.seq items.reverse), left)
    | some (.mapping tag entries, left) =>
      match depth with
      | 0 => none
      | depth + 1 => do
        let (entries, left) ← entries.foldlM (fun (done, left) (k, v) => do
          let (k, left) ← nodeValue? known depth k left
          let (v, left) ← nodeValue? known depth v left
          return (← addEntry? done k v, left)) (([] : List (Value × Value)), left)
        return (withTag tag (.map entries), left)

def maxDepth : Nat := 128

/-- The value of a document; aliases may be used a hundred times as often as there are events. -/
def ofEvents? (events : List Event) : Option Value :=
  if events.isEmpty then some .null
  else do
    let t ← Tree.ofEvents? events
    let root ← t.root
    return (← nodeValue? t.known maxDepth root (100 * events.length)).1

/-- Reads a text as a stream of at most one document; an empty stream is null. -/
def read? (t : Text) : Option Value := do
  ofEvents? (← events? (← scan? t))

end ApiTypes.Yaml
