import ApiTypes.Url.Basic
import ApiTypes.Url.Path
/-!
Reading URLs, alone or relative to another one. Reading cleans up: it removes dot segments, lowers schemes and
hosts, drops default port numbers and escapes what may not stand in a URL.
-/
namespace ApiTypes.Url

/-! ### What is escaped where -/

def inQuery (special : Bool) (c : Char) : Bool := isControl c || " \"#<>".toList.contains c || (special && c == '\'')

def inUserinfo (c : Char) : Bool := inPath c || "/:;=@[\\]^|".toList.contains c

/-! ### Schemes -/

def defaultPortNumber? (scheme : Text) : Option Nat :=
  if scheme == "http".toList || scheme == "ws".toList then some 80
  else if scheme == "https".toList || scheme == "wss".toList then some 443
  else if scheme == "ftp".toList then some 21
  else none

def fileScheme : Text := "file".toList

def isSpecial (scheme : Text) : Bool := (defaultPortNumber? scheme).isSome || scheme == fileScheme

def strip (t : Text) : Text :=
  let around (c : Char) : Bool := c.toNat ≤ 0x20
  ((t.dropWhile around).reverse.dropWhile around).reverse

def isSchemeChar (c : Char) : Bool := c.isAlphanum || c == '+' || c == '-' || c == '.'

def scheme? (t : Text) : Option (Text × Text) :=
  let name := t.takeWhile fun c => isSchemeChar c || isGap c
  match dropGaps name, t.drop name.length with
  | c :: more, ':' :: rest => if c.isAlpha then some (Text.lowerAscii (c :: more), rest) else none
  | _, _ => none

/-! ### What comes next -/

def next? (t : Text) : Option (Char × Text) :=
  match t.dropWhile isGap with
  | [] => none
  | c :: rest => some (c, rest)

def cutSlashes (t : Text) : Nat × Text :=
  let lead := t.takeWhile fun c => isSlash true c || isGap c
  ((dropGaps lead).length, t.drop lead.length)

def afterTwoSlashes? (t : Text) : Option Text :=
  match next? t with
  | some ('/', rest) =>
    match next? rest with
    | some ('/', rest) => some rest
    | _ => none
  | _ => none

/-! ### The end of a URL -/

def cutTail (t : Text) : Text × Text := (t.takeWhile (!isTailMark ·), t.dropWhile (!isTailMark ·))

def withFragment (u : Url) (fragment : Option Text) : Url :=
  { u with fragment := fragment.map fun t => Text.Percent.encode inFragment (dropGaps t) }

def withTail (special : Bool) (u : Url) (tail : Text) : Url :=
  match next? tail with
  | some ('?', rest) =>
    let (query, after) := Text.cutAt '#' rest
    withFragment { u with query := some (Text.Percent.encode (inQuery special) (dropGaps query)) } after
  | some ('#', rest) => withFragment { u with query := none } (some rest)
  | _ => { u with query := none, fragment := none }

/-! ### Authorities -/

def cutUserinfo (t : Text) : Option Text × Text :=
  let after := (t.reverse.takeWhile (· != '@')).reverse
  if after.length == t.length then (none, t) else (some (t.take (t.length - after.length - 1)), after)

def hostLength (inside : Bool) : Text → Nat
  | [] => 0
  | c :: rest =>
    if c == ':' && !inside then 0
    else hostLength (if c == '[' then true else if c == ']' then false else inside) rest + 1

def portNumber? (scheme : Text) : Text → Option (Option Nat)
  | [] => some none
  | digits =>
    match (if digits.all Text.isDigit then Text.toNatBase? 10 digits else none) with
    | none => none
    | some n => if 65535 < n then none else some (if defaultPortNumber? scheme == some n then none else some n)

/-- An authority, and what follows a backslash after its number, with the backslash. -/
def authority? (scheme : Text) (userinfo : Option Text) (t : Text) : Option (Authority × Text) := do
  let (user, password) := Text.cutAt ':' (userinfo.getD [])
  let user := Text.Percent.encode inUserinfo user
  let password := Text.Percent.encode inUserinfo (password.getD [])
  let n := hostLength false t
  let hostText := t.take n
  if hostText.isEmpty then
    if isSpecial scheme || n < t.length || !user.isEmpty || !password.isEmpty then none
    else return (Authority.none, [])
  else
    let host ← if isSpecial scheme then Host.ofSpecial? hostText else Host.ofOther? hostText
    let number := t.drop (n + 1)
    let portNumber ← portNumber? scheme (number.takeWhile (· != '\\'))
    return (⟨user, password, some host, portNumber⟩, number.dropWhile (· != '\\'))

def pathFrom (scheme before t : Text) : Path := Path.read (isSpecial scheme) (scheme == fileScheme) before t

/-- The path after an authority. Only where it may be left out it is empty. -/
def rootedPath (scheme t : Text) : Text :=
  match next? t with
  | none => if isSpecial scheme then ['/'] else []
  | some (c, rest) => (pathFrom scheme ['/'] (if isSlash (isSpecial scheme) c then rest else t)).text

/-- What follows two slashes: an authority, a path, a query, a fragment. Where the `@` comes first, a host has to
follow or nothing at all. -/
def afterSlashes? (scheme t : Text) : Option Url := do
  let special := isSpecial scheme
  let ends (c : Char) : Bool := isSlash special c || isTailMark c
  let (userinfo, place) := cutUserinfo (dropGaps (t.takeWhile (!ends ·)))
  let after := t.dropWhile (!ends ·)
  if userinfo == some [] && place.isEmpty && !after.isEmpty then none
  else
    let (authority, more) ← authority? scheme userinfo place
    let (pathText, tail) := cutTail (more ++ after)
    return withTail special ⟨scheme, some authority, rootedPath scheme pathText, none, none⟩ tail

/-! ### Files -/

def fileUrl (host : Option Host) (path : Text) (tail : Text) : Url :=
  withTail true ⟨fileScheme, some { Authority.none with host := host }, path, none, none⟩ tail

def fileFrom (host : Option Host) (before t : Text) : Url :=
  let (pathText, tail) := cutTail t
  fileUrl host (pathFrom fileScheme before pathText).text tail

/-- A file on a host of its own. A drive letter takes the place of the host. -/
def fileOn (host : Host) (t : Text) : Url :=
  let (pathText, tail) := cutTail t
  let path := pathFrom fileScheme ['/'] (pathText.drop 1)
  fileUrl (if path.drive then none else some host) path.text tail

/-- What follows `file://`. The host may be left out or name this machine. -/
def fileAfterSlashes? (t : Text) : Option Url :=
  let ends (c : Char) : Bool := isSlash true c || isTailMark c
  let hostText := dropGaps (t.takeWhile (!ends ·))
  let after := t.dropWhile (!ends ·)
  if isDrive hostText then some (fileFrom none ['/'] t)
  else if hostText.isEmpty then some (fileFrom none ['/'] after)
  else do
    let host ← Host.ofSpecial? hostText
    return if host == .domain "localhost".toList then fileFrom none ['/'] after else fileOn host after

/-- What follows `file:` and one slash: the root is that of the drive or host of the URL that it is relative to. -/
def fileAfterSlash (base : Option Url) (t : Text) : Url :=
  match (if startsWithDrive (dropGaps t) then none else base) with
  | none => fileFrom none ['/'] t
  | some b =>
    match b.segments with
    | [] => fileFrom b.host? ['/'] t
    | first :: _ => if isNormalDrive first then fileFrom none ('/' :: (first ++ ['/'])) t else fileFrom b.host? ['/'] t

def file? (base : Option Url) (t : Text) : Option Url :=
  match next? t, base with
  | some (c, rest), _ =>
    if isSlash true c then
      match next? rest with
      | some (d, after) => if isSlash true d then fileAfterSlashes? after else some (fileAfterSlash base rest)
      | none => some (fileAfterSlash base rest)
    else match base with
      | none => some (fileFrom none ['/'] t)
      | some b =>
        if c == '?' then some (withTail true b t)
        else if c == '#' then some (withFragment b (some rest))
        else if startsWithDrive (dropGaps t) then some (fileFrom none ['/'] t)
        else some (fileFrom b.host? (pop true b.path) t)
  | none, some b => some { b with fragment := none }
  | none, none => some (fileFrom none ['/'] [])

/-! ### References -/

def relative? (b : Url) (t : Text) : Option Url :=
  let special := isSpecial b.scheme
  let onPath (before t : Text) : Url :=
    let (pathText, tail) := cutTail t
    withTail special { b with path := (pathFrom b.scheme before pathText).text } tail
  match next? t with
  | none => some { b with fragment := none }
  | some (c, rest) =>
    if c == '?' then some (withTail special b t)
    else if c == '#' then some (withFragment b (some rest))
    else if isSlash true c then
      let (slashes, after) := cutSlashes t
      if slashes < 2 then some (onPath ['/'] rest)
      else afterSlashes? b.scheme ((afterTwoSlashes? t).getD after)
    else
      let before := pop false b.path
      some (onPath (if before.isEmpty then ['/'] else before) t)

def other? (scheme t : Text) : Option Url :=
  match afterTwoSlashes? t with
  | some rest => afterSlashes? scheme rest
  | none =>
    let (pathText, tail) := cutTail t
    let path := match next? pathText with
      | some ('/', rest) => (pathFrom scheme ['/'] rest).text
      | _ => Text.Percent.encode isControl (dropGaps pathText)
    some (withTail false ⟨scheme, none, path, none, none⟩ tail)

def withScheme? (base : Option Url) (scheme t : Text) : Option Url :=
  let same := base.filter (·.scheme == scheme)
  if scheme == fileScheme then file? same t
  else if isSpecial scheme then
    let (slashes, after) := cutSlashes t
    match same with
    | some b => if slashes < 2 then relative? b t else afterSlashes? scheme after
    | none => afterSlashes? scheme after
  else other? scheme t

def read? (base : Option Url) (t : Text) : Option Url :=
  let t := strip t
  match scheme? t, base with
  | some (scheme, rest), _ => withScheme? base scheme rest
  | none, none => none
  | none, some b =>
    match next? t with
    | some ('#', rest) => some (withFragment b (some rest))
    | _ =>
      if b.isRootless then none
      else if b.scheme == fileScheme then file? base t
      else relative? b t

def parse? (t : Text) : Option Url := read? none t

def join? (base : Url) (t : Text) : Option Url := read? (some base) t

/-! ### Files on this machine -/

def ofFile (names : List Text) : Url :=
  let inSegment (c : Char) : Bool := inPath c || c == '/' || c == '%' || c == '\\'
  let path := names.flatMap fun name => '/' :: Text.Percent.encode inSegment name
  ⟨fileScheme, some Authority.none, if path.isEmpty then ['/'] else path, none, none⟩

def endsInDrive (octets : List Nat) : Bool :=
  match octets.reverse with
  | mark :: letter :: _ :: _ =>
    (mark == 0x3A || mark == 0x7C) && letter < 0x80 && (Char.ofNat letter).isAlpha
  | _ => false

/-- The octets of the path that a file's URL names, if the file is on this machine. -/
def filePath? (u : Url) : Option (List Nat) :=
  if u.hasHost then none
  else
    let octets := u.segments.flatMap fun s => 0x2F :: Text.Percent.octets (Text.Utf8.encode s)
    some (if endsInDrive octets then octets ++ [0x2F] else octets)

end ApiTypes.Url
