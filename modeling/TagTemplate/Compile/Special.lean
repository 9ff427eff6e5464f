import TagTemplate.Policy.Basic
import TagTemplate.Code

namespace TagTemplate

structure Rules where
  config : Config := {}
  policy : Option Policy := none

def Rules.check (r : Rules) (kind : Privilege) (name : String) : Except CompileError Unit :=
  Policy.check r.policy kind name

namespace Special

def requestNames : List String :=
  ["cookies", "get", "post", "env", "server", "session", "request"]

def globalName (name : String) : String :=
  if name = "cookies" then "$_COOKIE" else "$_" ++ Text.asciiUpper name

def lookup (config : Config) (name : String) (member : Option String) : String :=
  match member with
  | some m =>
    if config.lookups = .plain then Code.index (globalName name) (some m)
    else Code.call "tpl_safe_lookup" [globalName name, m, toString config.lookups.code]
  | none => globalName name

def unknown (name : String) : CompileError := Fault.specialVariable ("$smarty." ++ name)

/-- The code of a special variable. Quotes around the name do not count; `member` is code. -/
def compile (r : Rules) (quotedName : String) (member : Option String) :
    Except CompileError String := do
  let name := Text.stripQuotes quotedName
  if requestNames.contains name then
    Policy.checkSuperGlobals r.policy
    return lookup r.config name member
  else match name with
    | "foreach" | "section" =>
      return Code.index ("$_tpl->vars['smarty']->value['" ++ name ++ "']") member
    | "capture" => return Code.index "$_tpl->captures" member
    | "now" => return "time()"
    | "template" => return "basename($_tpl->source->filepath)"
    | "template_object" => return Code.index "$_tpl" member
    | "current_dir" => return "dirname($_tpl->source->filepath)"
    | "version" => return Text.quote r.config.version
    | "const" =>
      Policy.checkConstants r.policy
      match member with
      | some m => return "@constant(" ++ m ++ ")"
      | none => throw (unknown name)
    | "config" =>
      match member with
      | some m => return "$_tpl->getConfigVariable(" ++ m ++ ")"
      | none => throw (unknown name)
    | "ldelim" => return Text.quote r.config.leftDelimiter
    | "rdelim" => return Text.quote r.config.rightDelimiter
    | _ => throw (unknown name)

end Special

end TagTemplate
