import TagTemplate.Error

/-!
Steps of a compilation: they change a state and may fail. A step that fails keeps the changes it
made before.
-/

namespace TagTemplate

abbrev Step (σ α : Type) := ExceptT CompileError (StateM σ) α

namespace Step

variable {σ τ α : Type}

def fail (fault : Fault) : Step σ α := throw (fault : CompileError)

def ofExcept : Except CompileError α → Step σ α
  | .ok a => pure a
  | .error e => throw e

def within (part : τ → σ) (replace : τ → σ → τ) (step : Step σ α) : Step τ α := fun t =>
  let (r, s) := step.run (part t)
  (r, replace t s)

def atLine (line : Line) (step : Step σ α) : Step σ α := step.adapt fun e => e.atLine line

end Step

end TagTemplate
