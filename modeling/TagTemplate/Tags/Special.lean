import TagTemplate.Tags.Basic

namespace TagTemplate

namespace Special

def contract : Contract := {
  required := ["var"]
  optional := ["member"]
  shorthand := ["var", "member"] }

def compileTag (u : TagUse) (attrs : Attributes) : Step Draft String := do
  let var ← Step.ofExcept (u.require (attrs.requireCode "var"))
  let name := (Text.unquote var).getD var
  let code ← Step.ofExcept (compile u.rules name (attrs.code? "member"))
  modify Draft.marked
  return code

end Special

def Delimiter.compileTag (delimiter : String) : Step Draft String := do
  modify Draft.marked
  return Code.echo delimiter

end TagTemplate
