import ApiTypes.Ordered
import ApiTypes.Text.Utf8
/-!
The files a run can see, as a tree held in memory: which entry stands under which names, and the directory
that relative paths start from. Reading, making directories and writing follow the rules, and the order of
the checks, of a POSIX file system without links.
-/
namespace ApiTypes

inductive OsError where
  | notFound
  | alreadyExists
  | notDirectory
  | isDirectory
  | nameTooLong
  | notUtf8
  | nulInPath
deriving DecidableEq, Repr

def OsError.text : OsError → Text
  | notFound => "No such file or directory (os error 2)".toList
  | alreadyExists => "File exists (os error 17)".toList
  | notDirectory => "Not a directory (os error 20)".toList
  | isDirectory => "Is a directory (os error 21)".toList
  | nameTooLong => "File name too long (os error 36)".toList
  | notUtf8 => "stream did not contain valid UTF-8".toList
  | nulInPath => "file name contained an unexpected NUL byte".toList

inductive Entry where
  | directory
  | file (octets : List Nat)
deriving DecidableEq, Repr

/-- A place in the tree: the names on the way to it from the root. -/
abbrev Place := List Text

structure FileTree where
  home : Place
  entries : List (Place × Entry)

namespace FileTree

def find? (tree : FileTree) (place : Place) : Option Entry :=
  if place.isEmpty then some .directory else Ordered.get? place tree.entries

def isDirectoryAt (tree : FileTree) (place : Place) : Bool := tree.find? place == some .directory

def put (tree : FileTree) (place : Place) (entry : Entry) : FileTree :=
  { tree with entries := Ordered.put place entry tree.entries }

/-! ### Paths -/

/-- The longest name, and the longest path with its end mark, in octets. -/
def maxName : Nat := 255

def maxPath : Nat := 4096

def hasRoot (path : Text) : Bool := path.head? == some '/'

def checkPath (path : Text) : Except OsError Unit :=
  if path.contains '\x00' then .error .nulInPath
  else if path.isEmpty then .error .notFound
  else if maxPath ≤ Text.Utf8.size path then .error .nameTooLong
  else .ok ()

def step (tree : FileTree) (here : Place) (name : Text) : Except OsError Place :=
  if !tree.isDirectoryAt here then .error .notDirectory
  else if name.isEmpty || name == ".".toList then .ok here
  else if name == "..".toList then .ok here.dropLast
  else if maxName < Text.Utf8.size name then .error .nameTooLong
  else if (tree.find? (here ++ [name])).isNone then .error .notFound
  else .ok (here ++ [name])

def start (tree : FileTree) (path : Text) : Place := if hasRoot path then [] else tree.home

def locate (tree : FileTree) (path : Text) : Except OsError Place := do
  checkPath path
  (Text.splitAt '/' path).foldlM tree.step (tree.start path)

/-- The names of a path that matter: neither empty nor a dot, but for a dot that starts a relative path. -/
def components (path : Text) : List Text :=
  let kept := (Text.splitAt '/' path).filter fun name => !name.isEmpty && name != ".".toList
  if path.head? == some '.' && (Text.splitAt '/' path).head? == some ".".toList then ".".toList :: kept
  else kept

/-- What stands after the last dot of the last name, unless the name starts with that dot. -/
def extension? (path : Text) : Option Text :=
  match (components path).getLast? with
  | none => none
  | some name =>
    if name == "..".toList then none
    else match (Text.splitAt '.' name).reverse with
      | ext :: stem :: more => if stem.isEmpty && more.isEmpty then none else some ext
      | _ => none

def joinName (directory name : Text) : Text :=
  if directory.isEmpty || directory.getLast? == some '/' then directory ++ name
  else directory ++ '/' :: name

/-! ### Reading -/

def contains (tree : FileTree) (path : Text) : Bool := (tree.locate path).isOk

def isDirectory (tree : FileTree) (path : Text) : Bool :=
  match tree.locate path with
  | .ok place => tree.isDirectoryAt place
  | .error _ => false

def readOctets (tree : FileTree) (path : Text) : Except OsError (List Nat) := do
  match tree.find? (← tree.locate path) with
  | some (.file octets) => .ok octets
  | some .directory => .error .isDirectory
  | none => .error .notFound

def read (tree : FileTree) (path : Text) : Except OsError Text := do
  match Text.Utf8.decode? (← tree.readOctets path) with
  | some t => .ok t
  | none => .error .notUtf8

/-- What comes of a name given in octets. No entry has a name that is not a text. -/
def stepOctets (tree : FileTree) (here : Place) (octets : List Nat) : Except OsError Place :=
  match Text.Utf8.decode? octets with
  | some name => tree.step here name
  | none =>
    if !tree.isDirectoryAt here then .error .notDirectory
    else if maxName < octets.length then .error .nameTooLong
    else .error .notFound

def namesOf : List Nat → List (List Nat)
  | [] => [[]]
  | b :: rest =>
    if b == 0x2F then [] :: namesOf rest
    else match namesOf rest with
      | [] => [[b]]
      | name :: names => (b :: name) :: names

def whyUnreadable (tree : FileTree) (octets : List Nat) : OsError :=
  if octets.contains 0 then .nulInPath
  else if maxPath ≤ octets.length then .nameTooLong
  else match (namesOf octets).foldlM tree.stepOctets [] with
    | .error e => e
    | .ok _ => .notFound

/-! ### Writing -/

def locateParent (tree : FileTree) (path : Text) : Except OsError (Place × Text) := do
  checkPath path
  let names := Text.splitAt '/' path
  let parent ← names.dropLast.foldlM tree.step (tree.start path)
  if !tree.isDirectoryAt parent then .error .notDirectory
  else .ok (parent, names.getLast?.getD [])

def isDots (name : Text) : Bool := name.isEmpty || name == ".".toList || name == "..".toList

def makeDirectory (tree : FileTree) (path : Text) : Except OsError FileTree := do
  let trimmed := (path.reverse.dropWhile (· == '/')).reverse
  let (parent, name) ← tree.locateParent (if trimmed.isEmpty then path else trimmed)
  if isDots name then .error .alreadyExists
  else if maxName < Text.Utf8.size name then .error .nameTooLong
  else if (tree.find? (parent ++ [name])).isSome then .error .alreadyExists
  else .ok (tree.put (parent ++ [name]) .directory)

/-- Makes one directory; one that is there already is taken as made. -/
def ensureDirectory (tree : FileTree) (path : Text) : Except OsError FileTree :=
  match tree.makeDirectory path with
  | .ok made => .ok made
  | .error e => if tree.isDirectory path then .ok tree else .error e

/- The directories on the way are made from the outermost one that is missing; those made stay if a later
   one fails. `ups` are the names of the directory above, the innermost first. -/
def makeAbove (lead : Text) (tree : FileTree) : (ups : List Text) → FileTree × Except OsError Unit
  | [] => (tree, .ok ())
  | name :: ups =>
    let path := lead ++ Text.joinWith ['/'] (name :: ups).reverse
    match tree.ensureDirectory path with
    | .ok made => (made, .ok ())
    | .error .notFound =>
      match makeAbove lead tree ups with
      | (above, .error e) => (above, .error e)
      | (above, .ok ()) =>
        match above.ensureDirectory path with
        | .ok made => (made, .ok ())
        | .error e => (above, .error e)
    | .error e => (tree, .error e)

def makeDirectories (tree : FileTree) (path : Text) : FileTree × Except OsError Unit :=
  if path.isEmpty then (tree, .ok ())
  else match tree.ensureDirectory path with
    | .ok made => (made, .ok ())
    | .error .notFound =>
      let lead := if hasRoot path then ['/'] else []
      match makeAbove lead tree (components path).reverse.tail with
      | (above, .error e) => (above, .error e)
      | (above, .ok ()) =>
        match above.ensureDirectory path with
        | .ok made => (made, .ok ())
        | .error e => (above, .error e)
    | .error e => (tree, .error e)

def write (tree : FileTree) (path content : Text) : Except OsError FileTree := do
  let (parent, name) ← tree.locateParent path
  if isDots name then .error .isDirectory
  else if maxName < Text.Utf8.size name then .error .nameTooLong
  else if tree.isDirectoryAt (parent ++ [name]) then .error .isDirectory
  else .ok (tree.put (parent ++ [name]) (.file (Text.Utf8.encode content)))

/-! ### Building and comparing -/

def addFile (tree : FileTree) (place : Place) (octets : List Nat) : FileTree :=
  let dirs := (List.range place.length).map place.take
  (dirs.foldl (fun t d => if d.isEmpty then t else t.put d .directory) tree).put place (.file octets)

/-- A tree that holds the files under the paths given relative to `home`, and nothing else. -/
def ofFiles (home : Place) (files : List (Text × List Nat)) : FileTree :=
  let homes := (List.range home.length).map fun n => home.take (n + 1)
  files.foldl (fun t f => t.addFile (home ++ (Text.splitAt '/' f.1).filter (!isDots ·)) f.2)
    (homes.foldl (fun t d => t.put d .directory) ⟨home, []⟩)

/-- The entries of `later` that `earlier` does not have, or not with the same content. -/
def changedEntries (earlier later : FileTree) : List (Place × Entry) :=
  later.entries.filter fun (place, entry) => earlier.find? place != some entry

def changedFiles (earlier later : FileTree) : List (Place × List Nat) :=
  (changedEntries earlier later).filterMap fun (place, entry) =>
    match entry with
    | .directory => none
    | .file octets => some (place, octets)

def changes (earlier later : FileTree) : List (Text × List Nat) :=
  let below := (changedFiles earlier later).filter fun f => later.home.isPrefixOf f.1
  let named := below.map fun f => (Text.joinWith ['/'] (f.1.drop later.home.length), f.2)
  named.mergeSort fun a b => Text.atMost a.1 b.1

end FileTree

end ApiTypes
