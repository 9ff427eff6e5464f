import TagTemplate.Engine
import TagTemplate.Policy.Document
import TagTemplate.Source.Directory

namespace TagTemplate

inductive Command where
  | compile (dir entry : String) (policy config out : Option String)
  | checkPolicy (file : String)
  deriving Repr, DecidableEq

inductive Flag where
  | policy
  | config
  | out
  deriving Repr, DecidableEq

def Flag.text : Flag → String
  | .policy => "--policy"
  | .config => "--config"
  | .out => "--out"

def Flag.ofText? (s : String) : Option Flag :=
  [Flag.policy, .config, .out].find? fun f => f.text == s

inductive CommandError where
  | help
  | unknownCommand (name : String)
  | missingValue (flag : Flag)
  | unknownFlag (text : String)
  | missingDir
  | missingEntry
  | tooManyNames
  | notOneFile
  | unreadable (path : String) (cause : FileError)
  | unwritable (path : String) (cause : FileError)
  | badPolicy (path : String) (cause : Json.RecordError)
  | badConfig (path : String) (cause : Json.RecordError)
  | failed (cause : CompileError)
  deriving Repr, DecidableEq

namespace CommandError

def helpText : String := "\n".intercalate [
  "stencil CLI",
  "",
  "Commands:",
  "  stencil compile DIR ENTRY [--policy FILE] [--config FILE] [--out FILE]",
  "  stencil check-policy FILE",
  "",
  "Templates are JSON node documents. Set STENCIL_LOG to adjust logging."]

def message : CommandError → String
  | .help => helpText
  | .unknownCommand name => "unknown command: " ++ name ++ "\n\n" ++ helpText
  | .missingValue flag => flag.text ++ " requires a value"
  | .unknownFlag text => "unknown flag: " ++ text
  | .missingDir => "compile requires DIR"
  | .missingEntry => "compile requires ENTRY"
  | .tooManyNames => "compile takes exactly DIR and ENTRY"
  | .notOneFile => "check-policy requires exactly one FILE"
  | .unreadable path cause => "failed to read " ++ path ++ ": " ++ cause.message
  | .unwritable path cause => "failed to write " ++ path ++ ": " ++ cause.message
  | .badPolicy path cause => "invalid policy " ++ path ++ ": " ++ cause.message
  | .badConfig path cause => "invalid config " ++ path ++ ": " ++ cause.message
  | .failed cause => cause.message ++ " [" ++ cause.code ++ "]"

end CommandError

structure Options where
  names : List String := []
  policy : Option String := none
  config : Option String := none
  out : Option String := none
  deriving Repr, DecidableEq

namespace Options

def give (o : Options) (flag : Flag) (value : String) : Options :=
  match flag with
  | .policy => { o with policy := some value }
  | .config => { o with config := some value }
  | .out => { o with out := some value }

def read (o : Options) : List String → Except CommandError Options
  | [] => .ok o
  | token :: rest =>
    match Flag.ofText? token with
    | some flag =>
      match rest with
      | [] => .error (.missingValue flag)
      | value :: rest => read (o.give flag value) rest
    | none =>
      if "--".toList.isPrefixOf token.toList then .error (.unknownFlag token)
      else read { o with names := token :: o.names } rest

def command (o : Options) : Except CommandError Command :=
  match o.names.reverse with
  | [] => .error .missingDir
  | [_] => .error .missingEntry
  | [dir, entry] => .ok (.compile dir entry o.policy o.config o.out)
  | _ => .error .tooManyNames

end Options

namespace Command

def parse : List String → Except CommandError Command
  | [] => .error .help
  | "compile" :: args => (Options.read {} args).bind Options.command
  | "check-policy" :: args =>
    match args with
    | [file] => .ok (.checkPolicy file)
    | _ => .error .notOneFile
  | "-h" :: _ | "--help" :: _ | "help" :: _ => .error .help
  | name :: _ => .error (.unknownCommand name)

inductive Output where
  | printed (text : String)
  | written (path text : String)
  deriving Repr, DecidableEq

def readFile (fs : FileSystem) (path : String) : Except CommandError String :=
  (fs.read path).mapError (.unreadable path)

def loadPolicy (fs : FileSystem) (token : Nat) (path : String) : Except CommandError Policy := do
  (Policy.read token (← readFile fs path)).mapError (.badPolicy path)

def loadConfig (fs : FileSystem) (token : Nat) : Option String → Except CommandError Config
  | some path => do (Config.read token (← readFile fs path)).mapError (.badConfig path)
  | none => .ok (.fresh token)

/-- An engine over one directory. The directory takes the place of the template directories in the
settings, and a policy holds for the loader too. -/
def engine (fs : FileSystem) (dir : String) (config : Config) (policy : Option Policy) : Engine :=
  let config := { config with templateDirs := { token := 3, dirs := [dir] } }
  let loader : DirectoryLoader := {
    files := fs
    templateDirs := config.templateDirs
    configDirs := config.configDirs
    policy }
  let e := ((Engine.ofLoader loader.loader).withConfig config).withLocations fs.canonical
  match policy with
  | some p => e.withPolicy p
  | none => e

def compileEntry (fs : FileSystem) (dir entry : String) (policy config : Option String) :
    Except CommandError String := do
  let config ← loadConfig fs 1 config
  let policy ← policy.mapM (loadPolicy fs 0)
  let artifact ← ((engine fs dir config policy).compile entry).1.mapError .failed
  return artifact.render

def allowedText (allowed : Bool) : String := if allowed then "allowed" else "denied"

def policyReport (p : Policy) : String :=
  s!"policy ok: {p.trustedUris.length} trusted URI pattern(s), super globals " ++
    allowedText p.allowSuperGlobals ++ ", constants " ++ allowedText p.allowConstants ++ "\n"

def output (fs : FileSystem) : Command → Except CommandError Output
  | .compile dir entry policy config out => do
    let text ← compileEntry fs dir entry policy config
    match out with
    | some path => return .written path text
    | none => return .printed text
  | .checkPolicy file => do return .printed (policyReport (← loadPolicy fs 0 file))

def writtenReport (path : String) : String := "wrote " ++ path ++ "\n"

def run (fs : FileSystem) (args : List String) : Except CommandError (String × FileSystem) := do
  match ← output fs (← parse args) with
  | .printed text => return (text, fs)
  | .written path text =>
    let fs ← (fs.write path text).mapError (.unwritable path)
    return (writtenReport path, fs)

end Command

end TagTemplate
