import TagTemplate.Digest
import TagTemplate.Table

namespace TagTemplate

structure MergeKey where
  template : String
  uid : String
  deriving Repr, DecidableEq

def functionName (template uid : String) : String :=
  "content_" ++ String.ofList ((digest (template ++ "\x00" ++ uid)).toList.take 16)

def MergeKey.function (k : MergeKey) : String := functionName k.template k.uid

/-- A merged template; its body is empty while it is compiled. -/
structure Merged where
  function : String
  template : String
  body : String := ""
  deriving Repr, DecidableEq

structure Session where
  records : Table MergeKey Merged := ∅
  depth : Nat := 0
  deriving Repr, DecidableEq

namespace Session

def function? (s : Session) (k : MergeKey) : Option String :=
  (s.records.find? k).map Merged.function

/-- Record a key before its body is known, so that references to it resolve. -/
def reserve (s : Session) (k : MergeKey) : Session :=
  { s with records := s.records.insertNew k ⟨k.function, k.template, ""⟩ }

def complete (s : Session) (k : MergeKey) (body : String) : Session :=
  { s with records := s.records.modify k fun m => { m with body } }

def merged (s : Session) : List Merged := s.records.values

def enter (s : Session) : Session := { s with depth := s.depth + 1 }

def leave (s : Session) : Session := { s with depth := s.depth - 1 }

end Session

end TagTemplate
