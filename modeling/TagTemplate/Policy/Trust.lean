import TagTemplate.Policy.Basic
import TagTemplate.Files.Path

/-!
Trust in directories. A file is trusted when a directory above it is a template, configuration or
secure directory. An index remembers the directories known to be trusted for the lists it was made
from; it is made anew when one of the lists is replaced.
-/

namespace TagTemplate

structure Roots where
  templates : DirList
  configs : DirList
  secure : DirList
  deriving Repr, DecidableEq

def Roots.sameAs (a b : Roots) : Bool :=
  a.templates.sameAs b.templates && a.configs.sameAs b.configs && a.secure.sameAs b.secure

def Roots.dirs (r : Roots) : List String := r.templates.dirs ++ r.configs.dirs ++ r.secure.dirs

structure TrustIndex where
  roots : Option Roots := none
  trusted : List Location := []
  deriving Repr, DecidableEq

namespace TrustIndex

def isCurrent (index : TrustIndex) (roots : Roots) : Bool :=
  match index.roots with
  | some r => r.sameAs roots
  | none => false

def build (canonical : String → Location) (roots : Roots) : TrustIndex :=
  { roots := some roots, trusted := roots.dirs.map canonical }

def refresh (canonical : String → Location) (roots : Roots) (index : TrustIndex) : TrustIndex :=
  if index.isCurrent roots then index else build canonical roots

def beforeTrusted (trusted : List Location) : List Location → Option (List Location)
  | [] => none
  | dir :: dirs =>
    if trusted.contains dir then some [] else (beforeTrusted trusted dirs).map (dir :: ·)

def checkFile (canonical : String → Location) (roots : Roots) (file : Location)
    (index : TrustIndex) : Except CompileError Unit × TrustIndex :=
  let index := index.refresh canonical roots
  match beforeTrusted index.trusted file.above with
  | some dirs => (.ok (), { index with trusted := index.trusted ++ dirs })
  | none => (.error (Fault.policy .directory file.text), index)

def knows (index : TrustIndex) (dir : Location) : Bool := index.trusted.contains dir

end TrustIndex

end TagTemplate
