import TagTemplate.Document.Node

namespace TagTemplate

inductive BlockKind where
  | loop
  | fallback
  deriving Repr, DecidableEq

def BlockKind.tag : BlockKind → String
  | .loop => "for"
  | .fallback => "forelse"

inductive AttributeError where
  | missing (name : String)
  | unknown (name : String)
  | duplicate (name : String)
  | tooMany (max : Nat)
  | badValue (name value : String)
  deriving Repr, DecidableEq

def AttributeError.code : AttributeError → String
  | .missing _ => "STENCIL_E_ATTR_MISSING"
  | .unknown _ => "STENCIL_E_ATTR_UNKNOWN"
  | .duplicate _ => "STENCIL_E_ATTR_DUPLICATE"
  | .tooMany _ => "STENCIL_E_ATTR_TOO_MANY"
  | .badValue .. => "STENCIL_E_ATTR_VALUE"

def AttributeError.message : AttributeError → String
  | .missing name => "missing required attribute '" ++ name ++ "'"
  | .unknown name => "unexpected attribute '" ++ name ++ "'"
  | .duplicate name => "attribute '" ++ name ++ "' supplied more than once"
  | .tooMany max => s!"too many shorthand attributes (at most {max})"
  | .badValue name value => "illegal value '" ++ value ++ "' for attribute '" ++ name ++ "'"

inductive Privilege where
  | tag
  | modifier
  | hostFunction
  | hostModifier
  | staticClass
  | stream
  | directory
  | uri
  | superGlobals
  | constants
  | scopedVariables
  deriving Repr, DecidableEq

def Privilege.label : Privilege → String
  | .tag => "tag"
  | .modifier => "modifier"
  | .hostFunction => "host function"
  | .hostModifier => "host modifier"
  | .staticClass => "static class"
  | .stream => "stream"
  | .directory => "directory"
  | .uri => "URI"
  | .superGlobals => "super globals"
  | .constants => "constants"
  | .scopedVariables => "variable passing"

inductive NestingError where
  | notOpen
  | mismatched (innermost : BlockKind)
  | unclosed
  deriving Repr, DecidableEq

def NestingError.message : NestingError → String
  | .notOpen => "closing tag without a matching open tag"
  | .mismatched kind => "closing tag does not match open '\x7b" ++ kind.tag ++ "\x7d'"
  | .unclosed => "tag was never closed"

inductive Fault where
  | attribute (tag : String) (cause : AttributeError)
  | nesting (tag : String) (cause : NestingError)
  | policy (kind : Privilege) (name : String)
  | specialVariable (name : String)
  | inlining (reason : String)
  | mergeDepth (template : String) (limit : UInt64)
  | enforcement (expected : String)
  | unknownTag (tag : String)
  | resource (name message : String)
  | parse (message : String)
  deriving Repr, DecidableEq

namespace Fault

def code : Fault → String
  | .attribute _ cause => cause.code
  | .nesting .. => "STENCIL_E_TAG_NESTING"
  | .policy .. => "STENCIL_E_POLICY"
  | .specialVariable _ => "STENCIL_E_SPECIAL_VAR"
  | .inlining _ => "STENCIL_E_INLINE"
  | .mergeDepth .. => "STENCIL_E_INLINE_DEPTH"
  | .enforcement _ => "STENCIL_E_MODIFIER_ENFORCED"
  | .unknownTag _ => "STENCIL_E_TAG_UNKNOWN"
  | .resource .. => "STENCIL_E_RESOURCE"
  | .parse _ => "STENCIL_E_PARSE"

def message : Fault → String
  | .attribute tag cause => "tag '" ++ tag ++ "': " ++ cause.message
  | .nesting tag cause => "tag '" ++ tag ++ "': " ++ cause.message
  | .policy kind name => kind.label ++ " '" ++ name ++ "' not allowed by security setting"
  | .specialVariable name => "special variable '" ++ name ++ "' is invalid"
  | .inlining reason => "cannot merge included template: " ++ reason
  | .mergeDepth template limit =>
    "merged include of '" ++ template ++ s!"' exceeds depth limit {limit}"
  | .enforcement expected =>
    "expression must end with one of the modifiers [" ++ expected ++ "]"
  | .unknownTag tag => "unknown tag '" ++ tag ++ "'"
  | .resource name message => "template '" ++ name ++ "': " ++ message
  | .parse message => message

def hasLine : Fault → Bool
  | .mergeDepth .. | .resource .. | .parse _ => false
  | _ => true

end Fault

structure CompileError where
  fault : Fault
  line : Option Line := none
  deriving Repr, DecidableEq

namespace CompileError

def code (e : CompileError) : String := e.fault.code

def message (e : CompileError) : String :=
  match e.line with
  | some line => e.fault.message ++ s!" (line {line})"
  | none => e.fault.message

/-- Record a line unless one is recorded, the fault has none, or the line is not known. -/
def atLine (e : CompileError) (line : Line) : CompileError :=
  if e.fault.hasLine && e.line.isNone && line != 0 then { e with line := some line } else e

def located (fault : Fault) (line : Line) : CompileError :=
  ⟨fault, if line = 0 then none else some line⟩

end CompileError

instance : Coe Fault CompileError := ⟨fun fault => ⟨fault, none⟩⟩

end TagTemplate
