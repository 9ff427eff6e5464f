import TagTemplate.Attributes
import TagTemplate.Compile.Expr

/-!
Tags: what a tag declares and what compiles it. A registry holds the tags by name. Tags beyond the
built-in ones can be registered; they see the rules and the draft, but neither loader nor session.
-/

namespace TagTemplate

structure TagUse where
  rules : Rules
  tag : String
  line : Line
  variant : UInt8

def TagUse.require {α : Type} (u : TagUse) : Except AttributeError α → Except CompileError α
  | .ok a => .ok a
  | .error e => .error (.located (.attribute u.tag e) u.line)

inductive TagOutput where
  | statement
  | expression
  deriving Repr, DecidableEq

inductive Builtin where
  | loop
  | fallback
  | endLoop
  | include
  | leftDelimiter
  | rightDelimiter
  | special
  deriving Repr, DecidableEq

inductive TagAction where
  | builtin (tag : Builtin)
  | custom (compile : TagUse → Attributes → Step Draft String)

structure TagSpec where
  contract : UInt8 → Contract := fun _ => {}
  action : TagAction
  output : TagOutput := .statement

abbrev Registry := Table String TagSpec

end TagTemplate
