import TagTemplate.Source.Basic
import TagTemplate.Files.System

namespace TagTemplate

structure DirectoryLoader where
  files : FileSystem
  templateDirs : DirList := {}
  configDirs : DirList := {}
  policy : Option Policy := none

namespace DirectoryLoader

def locate (d : DirectoryLoader) (name : String) : Option String :=
  if Path.isAbsolute name then if d.files.isFile name then some name else none
  else (d.templateDirs.dirs.map fun dir => Path.join dir name).find? d.files.isFile

def checkPath (d : DirectoryLoader) (path : String) : Step TrustIndex Unit :=
  match d.policy with
  | some p =>
    let roots := { templates := d.templateDirs, configs := d.configDirs, secure := p.secureDirs }
    TrustIndex.checkFile d.files.canonical roots (d.files.canonical path)
  | none => pure ()

def fileSource (d : DirectoryLoader) (name : String) : Step TrustIndex Source := do
  match d.locate name with
  | none => return .missing name
  | some path =>
    d.checkPath path
    match d.files.readFile path with
    | .error e => Step.fail (.resource name e.message)
    | .ok (content, timestamp) =>
      return { name, uid := digest path, kind := .file, path := some path, timestamp, content }

def resolve (d : DirectoryLoader) (name : String) : Step TrustIndex Source := do
  match Source.inline? name with
  | some s => return s
  | none =>
    match splitScheme name with
    | some ("file", rest) => d.fileSource rest
    | some (scheme, _) =>
      Step.ofExcept (Policy.check d.policy .stream scheme)
      Step.fail (.resource name ("unsupported resource type '" ++ scheme ++ "'"))
    | none => d.fileSource name

def loader (d : DirectoryLoader) : Loader := ⟨d.resolve⟩

end DirectoryLoader

end TagTemplate
