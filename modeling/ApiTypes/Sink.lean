import ApiTypes.FileTree
/-!
Writing declarations to files: one file for each, named for it, in one directory.
-/
namespace ApiTypes.Sink

def isFileStem (name : Text) : Bool :=
  !name.isEmpty && name.head? != some '.' && !name.any fun c => c == '/' || c == '\\'

/-- Declarations without a text are left out, and so are those whose name is no name of a file. -/
def isUsable (declaration : Text × Text) : Bool := isFileStem declaration.1 && !declaration.2.isEmpty

def filePath (directory name : Text) : Text := FileTree.joinName directory (name ++ ".ts".toList)

/- `written` are the paths written so far, the last one first. The first file that cannot be written ends it. -/
def writeFrom (directory : Text) (files : FileTree) (written : List Text) :
    List (Text × Text) → FileTree × Except OsError (List Text)
  | [] => (files, .ok written.reverse)
  | (name, content) :: rest =>
    let path := filePath directory name
    match files.write path content with
    | .ok files => writeFrom directory files (path :: written) rest
    | .error e => (files, .error e)

def writeDeclarations (files : FileTree) (directory : Text) (declarations : List (Text × Text)) :
    FileTree × Except OsError (List Text) :=
  match files.makeDirectories directory with
  | (files, .error e) => (files, .error e)
  | (files, .ok ()) => writeFrom directory files [] (declarations.filter isUsable)

def writeFile (files : FileTree) (directory name content : Text) : FileTree × Except OsError Unit :=
  match files.makeDirectories directory with
  | (files, .error e) => (files, .error e)
  | (files, .ok ()) =>
    match files.write (FileTree.joinName directory name) content with
    | .ok files => (files, .ok ())
    | .error e => (files, .error e)

end ApiTypes.Sink
