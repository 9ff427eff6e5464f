import TagTemplate.Source.Basic
import TagTemplate.Table

namespace TagTemplate

structure Block where
  kind : BlockKind
  closers : List String
  line : Line
  deriving Repr, DecidableEq

structure Dependency where
  path : String
  timestamp : UInt64
  kind : SourceKind
  deriving Repr, DecidableEq

def Source.dependency (s : Source) : Dependency := ⟨s.label, s.timestamp, s.kind⟩

structure Plugin where
  kind : String
  function : String
  deriving Repr, DecidableEq

abbrev Dependencies := Table String Dependency

abbrev Plugins := Table String Plugin

/-- Add the sources of another template. Where both know one, the other's entry stands. -/
def Dependencies.merge (a b : Dependencies) : Dependencies :=
  b.entries.foldl (fun t (uid, d) => t.insert uid d) a

/-- Add the plugins of another template. Where both know one, the entry that was there stands. -/
def Plugins.merge (a b : Plugins) : Plugins :=
  b.entries.foldl (fun t (name, p) => t.insertNew name p) a

/-- `blocks` has the innermost block first; `inBlock` tells a template compiled as the body of an
inheritance block. -/
structure Draft where
  source : Source
  blocks : List Block := []
  hasCode : Bool := false
  dependencies : Dependencies := ∅
  plugins : Plugins := ∅
  inBlock : Bool := false
  deriving Repr, DecidableEq

structure Compiled where
  body : String
  hasCode : Bool
  dependencies : Dependencies
  plugins : Plugins
  deriving Repr, DecidableEq

namespace Draft

def openBlock (d : Draft) (kind : BlockKind) (closers : List String) (line : Line) : Draft :=
  { d with blocks := ⟨kind, closers, line⟩ :: d.blocks }

def closeBlock (closer : String) (expected : List BlockKind) (line : Line) (d : Draft) :
    Except CompileError (Block × Draft) :=
  match d.blocks with
  | [] => .error (.located (.nesting closer .notOpen) line)
  | b :: rest =>
    if expected.contains b.kind && b.closers.contains closer then
      .ok (b, { d with blocks := rest })
    else .error (.located (.nesting closer (.mismatched b.kind)) line)

def checkClosed (d : Draft) : Except CompileError Unit :=
  match d.blocks with
  | [] => .ok ()
  | b :: _ => .error (.located (.nesting b.kind.tag .unclosed) b.line)

def addDependency (d : Draft) (s : Source) : Draft :=
  { d with dependencies := d.dependencies.insert s.uid s.dependency }

def requirePlugin (d : Draft) (name : String) (p : Plugin) : Draft :=
  { d with plugins := d.plugins.insertNew name p }

def absorb (d : Draft) (c : Compiled) : Draft :=
  { d with
    dependencies := d.dependencies.merge c.dependencies
    plugins := d.plugins.merge c.plugins }

def marked (d : Draft) : Draft := { d with hasCode := true }

/-- A draft of a source before its first node. It depends on the source, unless that is compiled
anew at each use. -/
def start (source : Source) (inBlock : Bool) : Draft :=
  let d : Draft := { source, inBlock }
  if source.recompiled then d else d.addDependency source

end Draft

end TagTemplate
