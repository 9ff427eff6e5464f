import TagTemplate.Source.Basic
import TagTemplate.Table

namespace TagTemplate

structure Library.Item where
  content : String
  timestamp : UInt64 := 0
  recompiled : Bool := false
  uncompiled : Bool := false
  deriving Repr, DecidableEq

abbrev Library := Table String Library.Item

namespace Library

def add (library : Library) (name content : String) : Library := library.insert name { content }

def key (name : String) : String := (Text.dropStart? "file:" name).getD name

def source (library : Library) (name : String) : Source :=
  match Source.inline? name with
  | some s => s
  | none =>
    match library.find? (key name) with
    | none => .missing (key name)
    | some item => {
        name := key name
        uid := digest ("memory:" ++ key name)
        kind := .file
        timestamp := item.timestamp
        content := item.content
        recompiled := item.recompiled
        uncompiled := item.uncompiled }

def loader (library : Library) : Loader := ⟨fun name => pure (library.source name)⟩

end Library

end TagTemplate
