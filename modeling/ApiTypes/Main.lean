import ApiTypes.Command.Run
/-!
The command line. A run starts from no files at all; a file that it misses is brought in and the run is begun
anew, until it misses none that can be read. Then the directories it has made are made and the files it has changed
are written. Remote documents cannot be reached from here.
-/
namespace ApiTypes.Main

def octetsOf (bytes : ByteArray) : List Nat := bytes.toList.map UInt8.toNat

def bytesOf (octets : List Nat) : ByteArray := ⟨(octets.map UInt8.ofNat).toArray⟩

def placeOf (home : Place) (path : Text) : Place :=
  (FileTree.components path).foldl
    (fun place name =>
      if name == "..".toList then place.dropLast else if name == ".".toList then place else place ++ [name])
    (if FileTree.hasRoot path then [] else home)

def pathOf (place : Place) : String := String.ofList (place.flatMap ('/' :: ·))

def missing? (args : List Text) : Command.Failure → Option Text
  | .noDescription path => some path
  | .error (.resolve (.load (.unreadable path .notFound))) => some path
  | .error (.config (.unreadable .notFound)) =>
    match Command.readArguments args with
    | .ok (_, options) => options.value? .config
    | .error _ => none
  | _ => none

/-- Runs until no file is missing that can be read; `tried` are those that have been looked for. -/
partial def runFrom (args : List Text) (tried : List Text) (files : FileTree) :
    IO (FileTree × FileTree × Except Command.Failure Unit) := do
  let (after, result) := Command.runArguments args ⟨files, .unreachable⟩
  match result with
  | .ok () => return (files, after, result)
  | .error failure =>
    match missing? args failure with
    | none => return (files, after, result)
    | some path =>
      if tried.contains path then return (files, after, result)
      let place := placeOf files.home path
      match ← (IO.FS.readBinFile (pathOf place)).toBaseIO with
      | .ok bytes => runFrom args (path :: tried) (files.addFile place (octetsOf bytes))
      | .error _ => return (files, after, result)

def writeChanges (before after : FileTree) : IO Unit := do
  for (place, entry) in FileTree.changedEntries before after do
    match entry with
    | .directory => IO.FS.createDirAll (pathOf place)
    | .file octets =>
      IO.FS.createDirAll (pathOf place.dropLast)
      IO.FS.writeBinFile (pathOf place) (bytesOf octets)

def exitCode : Command.Failure → UInt32
  | .usage .help | .usage .version => 0
  | .usage _ => 2
  | _ => 1

end ApiTypes.Main

def main (args : List String) : IO UInt32 := do
  let home := ApiTypes.Main.placeOf [] (toString (← IO.currentDir)).toList
  let (before, after, result) ←
    ApiTypes.Main.runFrom (args.map String.toList) [] (ApiTypes.FileTree.ofFiles home [])
  ApiTypes.Main.writeChanges before after
  match result with
  | .ok () => return 0
  | .error failure =>
    IO.eprintln (String.ofList failure.message)
    return ApiTypes.Main.exitCode failure
