import Mathlib.Data.List.SplitBy
import TagTemplate.Proofs.Compile.Fragment
import TagTemplate.Proofs.Compile.Merger

namespace TagTemplate

variable {α : Type} {env : Environment} {merge : Option Include.Merger}

def Piece.isText : Piece → Bool
  | .text _ => true
  | .code _ => false

namespace Body

def runs (pieces : List Piece) : List (List Piece) :=
  pieces.splitBy fun p q => p.isText && q.isText

end Body

def Draft.KeepsCode (step : Step Draft α) : Prop :=
  ∀ {d a d'}, step.Yields d a d' → d.hasCode = true → d'.hasCode = true

/-- The tag is a built-in one, or its code is a statement and it never makes a draft with code one
without. -/
inductive TagSpec.KeepsCode : TagSpec → Prop
  | builtin (b : Builtin) : KeepsCode b.spec
  | custom {contract : UInt8 → Contract} {f : TagUse → Attributes → Step Draft String} :
      (∀ u attrs, Draft.KeepsCode (f u attrs)) → KeepsCode ⟨contract, .custom f, .statement⟩

def Registry.KeepsCode (tags : Registry) : Prop :=
  ∀ {name spec}, tags.find? name = some spec → spec.KeepsCode

def Node.content : Node → String
  | .text content => content
  | _ => ""

end TagTemplate
