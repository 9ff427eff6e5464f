import TagTemplate.Digest
import TagTemplate.Step
import TagTemplate.Text.Blank
import TagTemplate.Policy.Trust

/-!
Template sources: what a template name resolves to. A name may hold the template itself, behind
`string:` or `eval:`; all other names are resolved by a loader.
-/

namespace TagTemplate

inductive SourceKind where
  | file
  | string
  | eval
  deriving Repr, DecidableEq

def SourceKind.word : SourceKind → String
  | .file => "file"
  | .string => "string"
  | .eval => "eval"

/-- A source; `uid` is its identity among the dependencies of what is compiled from it. A recompiled
source is compiled anew at each use, an uncompiled one is never compiled. -/
structure Source where
  name : String
  uid : String
  kind : SourceKind
  path : Option String := none
  found : Bool := true
  timestamp : UInt64 := 0
  content : String := ""
  recompiled : Bool := false
  uncompiled : Bool := false
  deriving Repr, DecidableEq

namespace Source

def string (name content : String) : Source :=
  { name, uid := digest ("string:" ++ content), kind := .string, content }

def eval (name content : String) : Source :=
  { name, uid := digest ("eval:" ++ content), kind := .eval, content, recompiled := true }

def missing (name : String) : Source :=
  { name, uid := digest ("file:" ++ name), kind := .file, found := false }

def label (s : Source) : String := s.path.getD s.name

end Source

def isSchemeChar (c : Char) : Bool := c.isAlphanum || c == '_'

def splitScheme (name : String) : Option (String × String) :=
  (Text.splitFirst ':' name).filter fun (scheme, _) =>
    1 < scheme.utf8ByteSize && scheme.toList.all isSchemeChar

def Source.inline? (name : String) : Option Source :=
  match splitScheme name with
  | some ("string", content) => some (.string name content)
  | some ("eval", content) => some (.eval name content)
  | _ => none

/-- What resolves template names. A source that is not found is no error. A loader may have a rule
of its own for which sources are compiled anew at each use; what the rule says of a source is taken
to be in `Source.recompiled`. -/
structure Loader where
  resolve : String → Step TrustIndex Source

end TagTemplate
