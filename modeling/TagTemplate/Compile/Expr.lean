import TagTemplate.Compile.Draft
import TagTemplate.Compile.Special
import TagTemplate.Decimal.Real
import TagTemplate.Step

namespace TagTemplate

namespace Escape

def fixed? (config : Config) (type value charset double : String) : Option String :=
  match type with
  | "html" => some (Code.call "htmlspecialchars" [value, "ENT_QUOTES", charset, double])
  | "htmlall" =>
    if config.multibyte then
      let html := Code.call "htmlspecialchars" [value, "ENT_QUOTES", charset, double]
      some (Code.call "mb_convert_encoding" [html, "'HTML-ENTITIES'", charset])
    else some (Code.call "htmlentities" [value, "ENT_QUOTES", charset, double])
  | "url" => some (Code.call "rawurlencode" [value])
  | "urlpathinfo" =>
    some (Code.call "str_replace" ["'%2F'", "'/'", Code.call "rawurlencode" [value]])
  | "quotes" => some (Code.call "preg_replace" [r#""%(?<!\\\\)'%""#, r#""\\'""#, value])
  | "javascript" =>
    let pairs := [
      r#""\\" => "\\\\""#, r#""'" => "\\'""#, r#""\"" => "\\\"""#, r#""\r" => "\\r""#,
      r#""\n" => "\\n""#, r#""</" => "<\/""#]
    some (Code.call "strtr" [value, Code.call "array" pairs])
  | _ => none

def type? : List String → Option String
  | [] => some "html"
  | code :: _ => Text.unquote code

def charset (config : Config) (args : List String) : String :=
  match args[1]? with
  | some code => if Text.trim code = "null" then Text.quote config.charset else code
  | none => Text.quote config.charset

def compile? (config : Config) (value : String) (args : List String) : Option String :=
  (type? args).bind fun type =>
    fixed? config type value (charset config args) (args[2]?.getD "true")

end Escape

def pluginFunction (name : String) : String := "tpl_modifier_" ++ name

def callPlugin (name value : String) (args : List String) : Step Plugins String := do
  modify fun t => t.insertNew name ⟨"modifier", pluginFunction name⟩
  return Code.call (pluginFunction name) (value :: args)

def applyModifier (r : Rules) (name value : String) (args : List String) : Step Plugins String :=
  if name = "default" then
    return Code.call "tpl_default" [value, args.head?.getD "''"]
  else if name = "escape" then
    match Escape.compile? r.config value args with
    | some code => return code
    | none => callPlugin name value args
  else if r.config.isPlugin name then callPlugin name value args
  else do
    Step.ofExcept (r.check .hostModifier name)
    return Code.call name (value :: args)

mutual

def Expr.compile (r : Rules) : Expr → Step Plugins String
  | .code text => return text
  | .special name member => Step.ofExcept (Special.compile r name member)
  | .call function args => do
    Step.ofExcept (r.check .hostFunction function)
    let args ← Expr.compileAll r args
    return Code.call function args
  | .static className member => do
    Step.ofExcept (r.check .staticClass className)
    return className ++ "::" ++ member
  | .modified value modifiers => do
    let code ← value.compile r
    Modifier.compileAll r code modifiers

def Expr.compileAll (r : Rules) : List Expr → Step Plugins (List String)
  | [] => return []
  | e :: es => do
    let code ← e.compile r
    let codes ← Expr.compileAll r es
    return code :: codes

def Modifier.compile (r : Rules) (value : String) : Modifier → Step Plugins String
  | ⟨name, args⟩ => do
    Step.ofExcept (r.check .modifier name)
    let args ← Expr.compileAll r args
    applyModifier r name value args

def Modifier.compileAll (r : Rules) (value : String) : List Modifier → Step Plugins String
  | [] => return value
  | m :: ms => do
    let code ← m.compile r value
    Modifier.compileAll r code ms

end

def Expr.isLiteral : Expr → Bool
  | .code text => Decimal.isStaticLiteral text
  | _ => false

def Expr.split : Expr → Expr × List Modifier
  | .modified value modifiers => (value, modifiers)
  | e => (e, [])

def Expr.isStatic (e : Expr) : Bool :=
  e.split.1.isLiteral && e.split.2.all fun m => m.args.all Expr.isLiteral

def Expr.endsWith (names : List String) (e : Expr) : Bool :=
  match e.split.2.getLast? with
  | some m => names.contains m.name
  | none => false

/-- Where the settings enforce modifiers, a printed expression ends with one of them. Static
expressions are exempt unless the settings include them. -/
def Expr.checkEnforced (config : Config) (e : Expr) : Except CompileError Unit :=
  let names := config.enforcedModifiers
  if names.isEmpty || (e.isStatic && !config.enforceOnStatic) || e.endsWith names then .ok ()
  else .error (Fault.enforcement (", ".intercalate names))

def Draft.withPlugins {α : Type} (step : Step Plugins α) : Step Draft α :=
  Step.within Draft.plugins (fun d plugins => { d with plugins }) step

def Expr.compilePrint (r : Rules) (e : Expr) : Step Draft String := do
  Step.ofExcept (e.checkEnforced r.config)
  let code ← Draft.withPlugins (e.compile r)
  modify Draft.marked
  return Code.print code

end TagTemplate
