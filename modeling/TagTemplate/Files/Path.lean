import TagTemplate.Text.Blank

/-!
Paths and the locations they name. A path is a text; a location is the list of names that lead to it
from the root, none of them empty, `.` or `..`.
-/

namespace TagTemplate

abbrev Location := List String

namespace Location

def text (l : Location) : String := "/" ++ "/".intercalate l

def above (l : Location) : List Location := (List.range l.length).reverse.map fun n => l.take n

def step (l : Location) (name : String) : Location :=
  if name = "" ∨ name = "." then l
  else if name = ".." then l.dropLast
  else l ++ [name]

end Location

namespace Path

def isAbsolute (p : String) : Bool := p.toList.head? == some '/'

def names (p : String) : List String := (Text.splitChars '/' p.toList).map String.ofList

def join (dir p : String) : String :=
  if isAbsolute p then p
  else if dir.isEmpty || dir.toList.getLast? == some '/' then dir ++ p
  else dir ++ "/" ++ p

def base (workDir : Location) (p : String) : Location := if isAbsolute p then [] else workDir

def lexical (workDir : Location) (p : String) : Location :=
  (names p).foldl Location.step (base workDir p)

end Path

end TagTemplate
