import ApiTypes.Text.Basic
/-!
The arguments of the command line: a command and its options. An option that takes a value has it after an equals
sign or as the next argument; every option may be given once.
-/
namespace ApiTypes.Command

inductive Usage where
  | help
  | version
  | helpOnMissing
  | invalidSubcommand
  | unknownArgument
  | invalidValue
  | argumentConflict
  | tooManyValues
deriving DecidableEq, Repr

inductive Verb where
  | definitions
  | paths
deriving DecidableEq, Repr

inductive Setting where
  | apiPath
  | apiUrl
  | outDir
  | config
  | namingTemplate
deriving DecidableEq, Repr

inductive Flag where
  | help
  | strict
  | noManifest
deriving DecidableEq, Repr

def Setting.ofName? (name : Text) : Option Setting :=
  if name == "api-path".toList then some .apiPath
  else if name == "api-url".toList then some .apiUrl
  else if name == "out-dir".toList then some .outDir
  else if name == "config".toList then some .config
  else if name == "naming-template".toList then some .namingTemplate
  else none

def Setting.takesPath : Setting → Bool
  | apiPath | outDir | config => true
  | apiUrl | namingTemplate => false

def Flag.ofName? (verb : Verb) (name : Text) : Option Flag :=
  if name == "help".toList then some .help
  else if name == "strict".toList then some .strict
  else if name == "no-manifest".toList && verb == .paths then some .noManifest
  else none

/-- The options read so far. A setting waits for its value, and its value for the argument after it. -/
structure Options where
  settings : List (Setting × Text)
  flags : List Flag
  pending : Option (Setting × Option Text)
deriving DecidableEq, Repr

namespace Options

def none : Options := ⟨[], [], .none⟩

def value? (o : Options) (s : Setting) : Option Text := (o.settings.find? fun e => e.1 == s).map Prod.snd

def give (o : Options) (s : Setting) (value : Text) : Except Usage Options :=
  if (o.value? s).isSome then .error .argumentConflict
  else if s.takesPath && value.isEmpty then .error .invalidValue
  else .ok { o with settings := o.settings ++ [(s, value)] }

def settle (o : Options) : Except Usage Options :=
  match o.pending with
  | .none => .ok o
  | some (_, .none) => .error .invalidValue
  | some (s, some value) => { o with pending := .none }.give s value

def raise (o : Options) (f : Flag) : Except Usage Options :=
  if f == .help then .error .help
  else if o.flags.contains f then .error .argumentConflict
  else .ok { o with flags := o.flags ++ [f] }

def long (verb : Verb) (o : Options) (arg : Text) : Except Usage Options :=
  let (name, value) := Text.cutAt '=' arg
  match Setting.ofName? name, Flag.ofName? verb name with
  | some s, _ => do
    let o ← o.settle
    match value with
    | some v => o.give s v
    | .none => return { o with pending := some (s, .none) }
  | .none, some f => if value.isSome then .error .tooManyValues else do (← o.settle).raise f
  | .none, .none => .error .unknownArgument

def short (o : Options) (letter : Char) : Except Usage Options :=
  if letter == 'h' then do (← o.settle).raise .help else .error .unknownArgument

def plain (o : Options) (arg : Text) : Except Usage Options :=
  match o.pending with
  | some (s, .none) => .ok { o with pending := some (s, some arg) }
  | _ => .error .unknownArgument

/-- After two dashes nothing may follow. -/
def readFrom (verb : Verb) (o : Options) : List Text → Except Usage Options
  | [] => o.settle
  | arg :: rest =>
    match arg with
    | ['-', '-'] => if rest.isEmpty then o.settle else .error .unknownArgument
    | '-' :: '-' :: name => do readFrom verb (← o.long verb name) rest
    | '-' :: letter :: _ => do readFrom verb (← o.short letter) rest
    | arg => do readFrom verb (← o.plain arg) rest

def check (o : Options) : Except Usage Options :=
  if (o.value? .apiPath).isSome && (o.value? .apiUrl).isSome then .error .argumentConflict else .ok o

def read (verb : Verb) (args : List Text) : Except Usage Options := do (← readFrom verb none args).check

end Options

def verbOf? (arg : Text) : Option Verb :=
  if arg == "definitions".toList then some .definitions
  else if arg == "paths".toList then some .paths
  else none

def isSubcommand (arg : Text) : Bool := (verbOf? arg).isSome || arg == "help".toList

def helpFor (args : List Text) : Usage :=
  match args with
  | [] => .help
  | [arg] => if isSubcommand arg then .help else .invalidSubcommand
  | _ => .invalidSubcommand

def leadingOption (name : Text) (value : Option Text) : Usage :=
  if name == "help".toList then (if value.isSome then .tooManyValues else .help)
  else if name == "version".toList then (if value.isSome then .tooManyValues else .version)
  else .unknownArgument

def notCommand (arg : Text) (rest : List Text) : Usage :=
  match arg with
  | ['-', '-'] =>
    match rest with
    | [] => .helpOnMissing
    | next :: _ => if isSubcommand next then .unknownArgument else .invalidSubcommand
  | '-' :: '-' :: name => let (name, value) := Text.cutAt '=' name; leadingOption name value
  | '-' :: letter :: _ =>
    if letter == 'h' then .help else if letter == 'V' then .version else .unknownArgument
  | arg => if arg == "help".toList then helpFor rest else .invalidSubcommand

def readArguments : List Text → Except Usage (Verb × Options)
  | [] => .error .helpOnMissing
  | arg :: rest =>
    match verbOf? arg with
    | some verb => do return (verb, ← Options.read verb rest)
    | none => .error (notCommand arg rest)

end ApiTypes.Command
