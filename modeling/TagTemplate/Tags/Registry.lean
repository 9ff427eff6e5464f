import TagTemplate.Tags.Include
import TagTemplate.Tags.Loop
import TagTemplate.Tags.Special

namespace TagTemplate

namespace Builtin

def compile (env : Environment) (merge : Option Include.Merger) (u : TagUse) (attrs : Attributes) :
    Builtin → Step Work String
  | .loop => Work.withDraft (Loop.openLoop u attrs)
  | .fallback => Work.withDraft (Loop.openFallback u)
  | .endLoop => Work.withDraft (Loop.closeLoop u)
  | .include => Include.compile env merge u attrs
  | .leftDelimiter => Work.withDraft (Delimiter.compileTag env.config.leftDelimiter)
  | .rightDelimiter => Work.withDraft (Delimiter.compileTag env.config.rightDelimiter)
  | .special => Work.withDraft (Special.compileTag u attrs)

def contract : Builtin → UInt8 → Contract
  | .loop, variant => Loop.contract variant
  | .include, _ => Include.contract
  | .special, _ => Special.contract
  | _, _ => {}

def output : Builtin → TagOutput
  | .special => .expression
  | _ => .statement

def spec (b : Builtin) : TagSpec := ⟨b.contract, .builtin b, b.output⟩

end Builtin

def TagSpec.compile (env : Environment) (merge : Option Include.Merger) (spec : TagSpec)
    (u : TagUse) (attrs : Attributes) : Step Work String :=
  match spec.action with
  | .builtin b => b.compile env merge u attrs
  | .custom f => Work.withDraft (f u attrs)

namespace Registry

def builtin : Registry := Table.ofList [
  ("for", Builtin.loop.spec),
  ("forelse", Builtin.fallback.spec),
  ("forclose", Builtin.endLoop.spec),
  ("include", Builtin.include.spec),
  ("ldelim", Builtin.leftDelimiter.spec),
  ("rdelim", Builtin.rightDelimiter.spec),
  ("private_special_variable", Builtin.special.spec)]

end Registry

end TagTemplate
