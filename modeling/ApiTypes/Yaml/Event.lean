import ApiTypes.Text.Utf8
import ApiTypes.Yaml.Token
/-!
From tokens to events: the grammar of a stream that holds at most one document. A stack of states says what is
expected next; nodes that are left out read as empty plain scalars.
-/
namespace ApiTypes.Yaml

structure Props where
  anchor : Option Text
  tag : Option Tag
deriving DecidableEq, Repr

inductive Event where
  | alias (name : Text)
  | scalar (props : Props) (text : Text) (plain : Bool)
  | sequenceStart (props : Props)
  | sequenceEnd
  | mappingStart (props : Props)
  | mappingEnd
deriving DecidableEq, Repr

abbrev Handles := List (Text × Tag)

def coreTag (name : String) : Tag := Text.Utf8.encode ("tag:yaml.org,2002:" ++ name).toList

def Handles.get? (handles : Handles) (handle : Text) : Option Tag :=
  (handles.find? (·.1 == handle)).map Prod.snd

/-- Adds the two handles that every document has, unless it gives them another meaning. -/
def Handles.withDefaults (handles : Handles) : Handles :=
  handles ++ [("!".toList, Tag.lone), ("!!".toList, coreTag "")]

def resolveTag? (handles : Handles) (handle : Text) (suffix : Tag) : Option Tag :=
  if handle.isEmpty then some suffix else (handles.get? handle).map (· ++ suffix)

/-- An anchor and a tag, in either order, both optional. -/
def props? (handles : Handles) : List Token → Option (Props × List Token)
  | .anchor a :: .tag h s :: rest => (resolveTag? handles h s).map fun t => (⟨some a, some t⟩, rest)
  | .anchor a :: rest => some (⟨some a, none⟩, rest)
  | .tag h s :: .anchor a :: rest => (resolveTag? handles h s).map fun t => (⟨some a, some t⟩, rest)
  | .tag h s :: rest => (resolveTag? handles h s).map fun t => (⟨none, some t⟩, rest)
  | rest => some (⟨none, none⟩, rest)

def emptyScalar : Event := .scalar ⟨none, none⟩ [] true

/-- What is expected: a node, which in block context may be a sequence without indentation of its own, or
the next piece of a collection that has been opened. -/
inductive Expect where
  | node (block indentless : Bool)
  | blockEntry
  | indentlessEntry
  | blockKey
  | blockValue
  | flowEntry (first : Bool)
  | flowPairKey
  | flowPairValue
  | flowPairEnd
  | flowKey (first : Bool)
  | flowValue (given : Bool)

/-- An event, if there is one, what is expected before anything else, and the tokens left. -/
abbrev Move := Option Event × List Expect × List Token

def node? (handles : Handles) (block indentless : Bool) (tokens : List Token) : Option Move :=
  match tokens with
  | .alias name :: rest => some (some (.alias name), [], rest)
  | _ =>
    match props? handles tokens with
    | none => none
    | some (props, rest) =>
      let empty : Option Move :=
        if props.anchor.isSome || props.tag.isSome then some (some (.scalar props [] true), [], rest) else none
      match rest with
      | .blockEntry :: _ => if indentless then some (some (.sequenceStart props), [.indentlessEntry], rest) else empty
      | .scalar text plain :: rest => some (some (.scalar props text plain), [], rest)
      | .flowSequenceStart :: rest => some (some (.sequenceStart props), [.flowEntry true], rest)
      | .flowMappingStart :: rest => some (some (.mappingStart props), [.flowKey true], rest)
      | .blockSequenceStart :: rest' =>
        if block then some (some (.sequenceStart props), [.blockEntry], rest') else empty
      | .blockMappingStart :: rest' =>
        if block then some (some (.mappingStart props), [.blockKey], rest') else empty
      | _ => empty

/-- A node, or an empty scalar if one of the tokens comes that end it; then more. -/
def nodeUnless (ends : Token → Bool) (block indentless : Bool) (more : List Expect) (rest : List Token) : Move :=
  match rest with
  | t :: _ => if ends t then (some emptyScalar, more, rest) else (none, .node block indentless :: more, rest)
  | [] => (some emptyScalar, more, rest)

def endsEntry (t : Token) : Bool := t == .blockEntry || t == .blockEnd

def endsIndentless (t : Token) : Bool := t == .blockEntry || t == .key || t == .value || t == .blockEnd

def endsPair (t : Token) : Bool := t == .key || t == .value || t == .blockEnd

def endsFlowEntry (t : Token) : Bool := t == .flowEntry || t == .flowSequenceEnd

def endsFlowPair (t : Token) : Bool := t == .flowEntry || t == .flowMappingEnd

/-- The next entry of a flow sequence; a pair may stand for a mapping of its own. -/
def flowItem : List Token → Move
  | .flowSequenceEnd :: rest => (some .sequenceEnd, [], rest)
  | .key :: rest => (some (.mappingStart ⟨none, none⟩), [.flowPairKey, .flowEntry false], rest)
  | rest => (none, [.node false false, .flowEntry false], rest)

def flowPair : List Token → Move
  | .flowMappingEnd :: rest => (some .mappingEnd, [], rest)
  | .key :: rest => nodeUnless (fun t => t == .value || endsFlowPair t) false false [.flowValue true] rest
  | rest => (none, [.node false false, .flowValue false], rest)

def Expect.move? (handles : Handles) (e : Expect) (tokens : List Token) : Option Move :=
  match e, tokens with
  | .node block indentless, _ => node? handles block indentless tokens
  | .blockEntry, .blockEntry :: rest => some (nodeUnless endsEntry true false [.blockEntry] rest)
  | .blockEntry, .blockEnd :: rest => some (some .sequenceEnd, [], rest)
  | .blockEntry, _ => none
  | .indentlessEntry, .blockEntry :: rest => some (nodeUnless endsIndentless true false [.indentlessEntry] rest)
  | .indentlessEntry, _ => some (some .sequenceEnd, [], tokens)
  | .blockKey, .key :: rest => some (nodeUnless endsPair true true [.blockValue] rest)
  | .blockKey, .blockEnd :: rest => some (some .mappingEnd, [], rest)
  | .blockKey, _ => none
  | .blockValue, .value :: rest => some (nodeUnless endsPair true true [.blockKey] rest)
  | .blockValue, _ => some (some emptyScalar, [.blockKey], tokens)
  | .flowEntry true, _ => some (flowItem tokens)
  | .flowEntry false, .flowSequenceEnd :: rest => some (some .sequenceEnd, [], rest)
  | .flowEntry false, .flowEntry :: rest => some (flowItem rest)
  | .flowEntry false, _ => none
  /- A key that is left out takes the token after it along. -/
  | .flowPairKey, t :: rest =>
    if t == .value || endsFlowEntry t then some (some emptyScalar, [.flowPairValue], rest)
    else some (none, [.node false false, .flowPairValue], tokens)
  | .flowPairKey, [] => none
  | .flowPairValue, .value :: rest => some (nodeUnless endsFlowEntry false false [.flowPairEnd] rest)
  | .flowPairValue, _ => some (some emptyScalar, [.flowPairEnd], tokens)
  | .flowPairEnd, _ => some (some .mappingEnd, [], tokens)
  | .flowKey true, _ => some (flowPair tokens)
  | .flowKey false, .flowMappingEnd :: rest => some (some .mappingEnd, [], rest)
  | .flowKey false, .flowEntry :: rest => some (flowPair rest)
  | .flowKey false, _ => none
  | .flowValue true, .value :: rest => some (nodeUnless endsFlowPair false false [.flowKey false] rest)
  | .flowValue _, _ => some (some emptyScalar, [.flowKey false], tokens)

/- The events of what is expected, and the tokens after it. At most four moves in a row take no token. -/
def eventsWithin (handles : Handles) :
    (fuel : Nat) → List Expect → List Token → Option (List Event × List Token)
  | _, [], tokens => some ([], tokens)
  | 0, _ :: _, _ => none
  | fuel + 1, e :: stack, tokens =>
    match e.move? handles tokens with
    | none => none
    | some (event, more, tokens) =>
      (eventsWithin handles fuel (more ++ stack) tokens).map fun (events, rest) => (event.toList ++ events, rest)

def nodeEvents? (handles : Handles) (tokens : List Token) : Option (List Event × List Token) :=
  eventsWithin handles (8 * tokens.length + 8) [.node true false] tokens

/-- The directives before a document: at most one version, which is 1.1 or 1.2, and handles, each at most
once. -/
def directives? (handles : Handles) (versioned : Bool) : List Token → Option (Handles × List Token)
  | .version major minor :: rest =>
    if versioned || major != 1 || (minor != 1 && minor != 2) then none else directives? handles true rest
  | .tagHandle handle lead :: rest =>
    if (handles.get? handle).isSome then none else directives? (handles ++ [(handle, lead)]) versioned rest
  | rest => some (handles, rest)

def startsDocument : Token → Bool
  | .version _ _ | .tagHandle _ _ | .documentStart => true
  | _ => false

def endsStream : List Token → Bool
  | .documentEnd :: rest => endsStream rest
  | [.streamEnd] => true
  | _ => false

def events? : List Token → Option (List Event)
  | [.streamEnd] => some []
  | tokens =>
    match tokens.head?.map startsDocument with
    | some true =>
      match directives? [] false tokens with
      | some (handles, .documentStart :: rest) =>
        match rest with
        | t :: _ =>
          if startsDocument t || t == .documentEnd || t == .streamEnd then
            if endsStream rest then some [emptyScalar] else none
          else finish (nodeEvents? handles.withDefaults rest)
        | [] => none
      | _ => none
    | _ => finish (nodeEvents? (Handles.withDefaults []) tokens)
where
  finish : Option (List Event × List Token) → Option (List Event)
    | some (events, rest) => if endsStream rest then some events else none
    | none => none

end ApiTypes.Yaml
