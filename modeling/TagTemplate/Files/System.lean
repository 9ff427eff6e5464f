import TagTemplate.Files.Path
import TagTemplate.Table

namespace TagTemplate

inductive Entry where
  | directory
  | file (content : String) (modified : UInt64)
  | link (target : String)
  deriving Repr, DecidableEq

inductive FileError where
  | notFound
  | notDirectory
  | isDirectory
  | nameTooLong
  | tooManyLinks
  | nulInPath
  deriving Repr, DecidableEq

def FileError.message : FileError → String
  | .notFound => "No such file or directory (os error 2)"
  | .notDirectory => "Not a directory (os error 20)"
  | .isDirectory => "Is a directory (os error 21)"
  | .nameTooLong => "File name too long (os error 36)"
  | .tooManyLinks => "Too many levels of symbolic links (os error 40)"
  | .nulInPath => "file name contained an unexpected NUL byte"

/-- A file system as a process sees it: `workDir` is where relative paths begin, `clock` the time
that a file gets when it is written. -/
structure FileSystem where
  workDir : Location := []
  entries : Table Location Entry := ∅
  clock : UInt64 := 0
  deriving Repr, DecidableEq

namespace FileSystem

def entry? (fs : FileSystem) (l : Location) : Option Entry :=
  if l.isEmpty then some .directory else fs.entries.find? l

def isDirectoryAt (fs : FileSystem) (l : Location) : Bool := fs.entry? l == some .directory

inductive Missing where
  | refused
  | allowed
  deriving Repr, DecidableEq

/-- Follow names from a location to one that holds no link. `jump` goes on from a link. -/
def followNames (fs : FileSystem) (missing : Missing)
    (jump : Location → List String → Except FileError Location) :
    Location → List String → Except FileError Location
  | l, [] => .ok l
  | l, name :: rest =>
    if !fs.isDirectoryAt l then .error .notDirectory
    else if name = "" ∨ name = "." ∨ name = ".." then
      followNames fs missing jump (l.step name) rest
    else if 255 < name.utf8ByteSize then .error .nameTooLong
    else match fs.entry? (l ++ [name]) with
      | some (.link target) => jump (Path.base l target) (Path.names target ++ rest)
      | some _ => followNames fs missing jump (l ++ [name]) rest
      | none =>
        if missing = .allowed ∧ rest = [] then .ok (l ++ [name]) else .error .notFound

def follow (fs : FileSystem) (missing : Missing) :
    Nat → Location → List String → Except FileError Location
  | 0 => followNames fs missing fun _ _ => .error .tooManyLinks
  | n + 1 => followNames fs missing (follow fs missing n)

def linkLimit : Nat := 40

def resolveNames (fs : FileSystem) (missing : Missing) (p : String) (names : List String) :
    Except FileError Location :=
  if p.toList.contains '\x00' then .error .nulInPath
  else if p.isEmpty then .error .notFound
  else if 4096 ≤ p.utf8ByteSize then .error .nameTooLong
  else follow fs missing linkLimit (Path.base fs.workDir p) names

def locate (fs : FileSystem) (p : String) : Except FileError Location :=
  resolveNames fs .refused p (Path.names p)

def canonical (fs : FileSystem) (p : String) : Location :=
  match fs.locate p with
  | .ok l => l
  | .error _ => Path.lexical fs.workDir p

def isFile (fs : FileSystem) (p : String) : Bool :=
  match fs.locate p with
  | .ok l => !fs.isDirectoryAt l
  | .error _ => false

def readFile (fs : FileSystem) (p : String) : Except FileError (String × UInt64) :=
  match fs.locate p with
  | .error e => .error e
  | .ok l =>
    match fs.entry? l with
    | some (.file content modified) => .ok (content, modified)
    | some .directory => .error .isDirectory
    | _ => .error .notFound

def read (fs : FileSystem) (p : String) : Except FileError String := (fs.readFile p).map Prod.fst

def insert (fs : FileSystem) (l : Location) (e : Entry) : FileSystem :=
  let dirs := l.above.reverse.tail
  let entries := dirs.foldl (fun t d => t.insertNew d .directory) fs.entries
  { fs with entries := entries.insert l e }

/-- The location of a file to write: all but its last name has to exist. -/
def locateNew (fs : FileSystem) (p : String) : Except FileError Location :=
  let names := Path.names p
  if names.getLast? = some "" then
    let parent := (names.reverse.dropWhile (· == "")).tail.reverse
    match resolveNames fs .refused p parent with
    | .error e => .error e
    | .ok l => .error (if fs.isDirectoryAt l then .isDirectory else .notDirectory)
  else resolveNames fs .allowed p names

def write (fs : FileSystem) (p content : String) : Except FileError FileSystem :=
  match fs.locateNew p with
  | .error e => .error e
  | .ok l =>
    if fs.isDirectoryAt l then .error .isDirectory
    else .ok { fs with entries := fs.entries.insert l (.file content fs.clock) }

end FileSystem

end TagTemplate
