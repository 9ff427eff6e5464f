import TagTemplate.Compile.Template
import TagTemplate.Json.Printer

namespace TagTemplate

/-- `functions` holds the merged functions by name, in the order in which they were reserved. -/
structure Artifact where
  name : String
  function : String
  version : String
  hasCode : Bool
  dependencies : Dependencies
  plugins : Plugins
  functions : Table String String
  body : String
  deriving Repr, DecidableEq

def Dependency.toJson (d : Dependency) : Json := .object [
  ("path", .text d.path),
  ("timestamp", .nat d.timestamp.toNat),
  ("kind", .text d.kind.word)]

def Plugin.toJson (p : Plugin) : Json :=
  .object [("kind", .text p.kind), ("function", .text p.function)]

def Dependencies.toJson (t : Dependencies) : Json :=
  .object (t.entries.map fun (uid, d) => (uid, d.toJson))

def Plugins.toJson (t : Plugins) : Json :=
  .object (t.entries.map fun (name, p) => (name, p.toJson))

namespace Artifact

def properties (a : Artifact) : Json := Json.sorted (.object [
  ("version", .text a.version),
  ("unifunc", .text a.function),
  ("has_code", .bool a.hasCode),
  ("file_dependency", a.dependencies.toJson),
  ("required_plugins", a.plugins.toJson),
  ("merged_functions", .texts a.functions.keys)])

def header (a : Artifact) : String :=
  "/* stencil compiled \"" ++ Text.protect a.name ++ "\" " ++
    Text.protect a.properties.render ++ " */\n"

def functionText (name body : String) : String :=
  "if (!is_callable('" ++ name ++ "')) \x7bfunction " ++ name ++ "($_tpl) \x7b\n" ++ body ++
    "\x7d\x7d\n"

def render (a : Artifact) : String :=
  "<?php\n" ++ a.header ++
    String.join (a.functions.entries.map fun (name, body) => functionText name body) ++
    functionText a.function a.body

def ofCompiled (env : Environment) (s : Source) (c : Compiled) (session : Session) : Artifact := {
  name := s.name
  function := functionName s.name s.uid
  version := env.config.version
  hasCode := c.hasCode
  dependencies := c.dependencies
  plugins := c.plugins
  functions := Table.ofList (session.merged.map fun m => (m.function, m.body))
  body := c.body }

end Artifact

def resolveEntry (env : Environment) (name : String) : Step TrustIndex Source := do
  let s ← env.loader.resolve name
  if !s.found then Step.fail (.resource name "unable to load template")
  env.checkPlace s
  return s

def compileArtifact (env : Environment) (name : String) (inBlock : Bool) :
    Step TrustIndex Artifact := do
  let s ← resolveEntry env name
  fun trust =>
    let (r, pass) := (compileTemplate env s inBlock).run { trust }
    (r.map fun c => Artifact.ofCompiled env s c pass.session, pass.trust)

end TagTemplate
