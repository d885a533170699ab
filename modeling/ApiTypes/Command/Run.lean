import ApiTypes.Command.Arguments
import ApiTypes.Error
import ApiTypes.Sink
import ApiTypes.Text.Escaped
/-!
A run of the command line as a function of what it sees: the files after it, and whether it failed. Files are
written only when everything has been generated.
-/
namespace ApiTypes

structure Command where
  verb : Command.Verb
  apiPath : Text
  apiUrl : Option Text
  outDir : Text
  config : Option Text
  namingTemplate : Option Text
  strict : Bool
  manifest : Bool
deriving DecidableEq, Repr

namespace Command

inductive Failure where
  | usage (u : Usage)
  | error (e : Error)
  /-- The output could not be written. -/
  | output (e : OsError)
  | noDescription (path : Text)
deriving DecidableEq, Repr

def ofOptions (verb : Verb) (o : Options) : Command where
  verb := verb
  apiPath := (o.value? .apiPath).getD "docs/openapi.yaml".toList
  apiUrl := o.value? .apiUrl
  outDir := (o.value? .outDir).getD "generated".toList
  config := o.value? .config
  namingTemplate := o.value? .namingTemplate
  strict := o.flags.contains .strict
  manifest := !o.flags.contains .noManifest

/-- The options of the configuration file, with those of the command line over them. -/
def generatorConfig (c : Command) (files : FileTree) : Except Failure Config := do
  let config ← match c.config with
    | some path => (Config.ofFile files path).mapError fun e => .error (.config e)
    | none => .ok Config.standard
  return { config with
    namingTemplate := c.namingTemplate.getD config.namingTemplate
    strictNames := config.strictNames || c.strict }

def source (c : Command) (files : FileTree) : Except Failure Source :=
  match c.apiUrl with
  | some url => .ok (.url url)
  | none => if files.contains c.apiPath then .ok (.path c.apiPath) else .error (.noDescription c.apiPath)

structure Output where
  declarations : List (Text × Text)
  manifest : Option Text

def definitionsOutput (config : Config) (api : Api) : Except Collision Output := do
  return ⟨← Api.generateDefinitions config Layout.format api.definitions, none⟩

def pathsOutput (manifest : Bool) (config : Config) (api : Api) : Except Collision Output := do
  let artifacts ← Api.generatePaths config Layout.format api
  let declared := artifacts.flatMap fun (_, ofRoute) => ofRoute.flatMap Artifact.declared
  return ⟨declared.map fun d => (d.name, d.text),
    if manifest then some (Api.manifest artifacts).pretty else none⟩

def generate (c : Command) (world : World) : Except Failure Output := do
  let config ← c.generatorConfig world.files
  let source ← c.source world.files
  let api ← (source.api world).mapError Failure.error
  let output := match c.verb with
    | .definitions => definitionsOutput config api
    | .paths => pathsOutput c.manifest config api
  output.mapError fun e => .error (.collision e)

def manifestName : Text := "paths.json".toList

def Output.write (o : Output) (files : FileTree) (directory : Text) : FileTree × Except OsError Unit :=
  match Sink.writeDeclarations files directory o.declarations with
  | (files, .error e) => (files, .error e)
  | (files, .ok _) =>
    match o.manifest with
    | none => (files, .ok ())
    | some text => Sink.writeFile files directory manifestName text

def run (c : Command) (world : World) : FileTree × Except Failure Unit :=
  match c.generate world with
  | .error e => (world.files, .error e)
  | .ok output =>
    let (files, result) := output.write world.files c.outDir
    (files, result.mapError .output)

def runArguments (args : List Text) (world : World) : FileTree × Except Failure Unit :=
  match readArguments args with
  | .error u => (world.files, .error (.usage u))
  | .ok (verb, options) => (ofOptions verb options).run world

/-! ### Messages -/

def Usage.message : Usage → Text
  | help => "Usage: api-types <definitions|paths> [OPTIONS]".toList
  | version => "api-types 0.1.0".toList
  | helpOnMissing => "A command is missing: definitions or paths".toList
  | invalidSubcommand => "No such command".toList
  | unknownArgument => "Unexpected argument".toList
  | invalidValue => "An option lacks a usable value".toList
  | argumentConflict => "Options exclude each other or are repeated".toList
  | tooManyValues => "An option takes no value".toList

def Failure.message : Failure → Text
  | usage u => u.message
  | error e => e.message
  | output e => "IO Error: ".toList ++ e.text
  | noDescription path => "Operation failed: API description not found: ".toList ++ Text.escaped path

end Command

end ApiTypes
