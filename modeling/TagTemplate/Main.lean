import TagTemplate.Command
import TagTemplate.Document.Includes

namespace TagTemplate.Main

def location (path : String) : Location := Path.lexical [] path

def addPath (fs : FileSystem) (path : String) : IO FileSystem := do
  try
    let real ← IO.FS.realPath path
    let place := Path.lexical fs.workDir path
    let target := location real.toString
    let fs := if place = target then fs else fs.insert place (.link target.text)
    if ← real.isDir then return fs.insert target .directory
    let modified := (← real.metadata).modified.sec
    return fs.insert target (.file (← IO.FS.readFile real) (UInt64.ofNat modified.toNat))
  catch _ => return fs

def addPaths (fs : FileSystem) (paths : List String) : IO FileSystem := paths.foldlM addPath fs

partial def addTemplates (dir : String) (fs : FileSystem) (known : List String) :
    List String → IO FileSystem
  | [] => return fs
  | name :: names => do
    if known.contains name then addTemplates dir fs known names
    else
      let path := Path.join dir (Library.key name)
      let fs ← addPath fs path
      let more := match fs.read path with
        | .ok content => Document.includes content
        | .error _ => []
      addTemplates dir fs (name :: known) (names ++ more)

def namedDirs (fs : FileSystem) (policy config : Option String) : List String :=
  let secure := policy.bind fun path => (Command.loadPolicy fs 0 path).toOption
  let settings := (Command.loadConfig fs 0 config).toOption
  (secure.map fun p => p.secureDirs.dirs).getD [] ++
    (settings.map fun c => c.configDirs.dirs).getD []

def snapshot (command : Command) : IO FileSystem := do
  let fs : FileSystem := { workDir := location (← IO.currentDir).toString }
  match command with
  | .checkPolicy file => addPath fs file
  | .compile dir entry policy config _ =>
    let fs ← addPaths fs (dir :: policy.toList ++ config.toList)
    let fs ← addPaths fs (namedDirs fs policy config)
    addTemplates dir fs [] [entry]

def fileError : IO.Error → FileError
  | .noFileOrDirectory .. => .notFound
  | .inappropriateType .. => .isDirectory
  | _ => .notDirectory

def fail (e : CommandError) : IO UInt32 := do
  IO.eprintln ("error: " ++ e.message)
  return 1

def write (path text : String) : IO UInt32 := do
  try
    IO.FS.writeFile path text
    IO.print (Command.writtenReport path)
    return 0
  catch e => fail (.unwritable path (fileError e))

def run (args : List String) : IO UInt32 := do
  match Command.parse args with
  | .error e => fail e
  | .ok command =>
    match Command.output (← snapshot command) command with
    | .error e => fail e
    | .ok (.printed text) => IO.print text; return 0
    | .ok (.written path text) => write path text

end TagTemplate.Main

def main (args : List String) : IO UInt32 := TagTemplate.Main.run args
