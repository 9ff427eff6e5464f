import TagTemplate.Artifact
import TagTemplate.Source.Library

namespace TagTemplate

structure Engine where
  env : Environment
  trust : TrustIndex := {}

namespace Engine

def ofLoader (loader : Loader) : Engine := { env := { loader, tags := Registry.builtin } }

def withParser (e : Engine) (parse : Parser) : Engine := { e with env.parse := parse }

def withConfig (e : Engine) (config : Config) : Engine := { e with env.rules.config := config }

def withPolicy (e : Engine) (policy : Policy) : Engine :=
  { e with env.rules.policy := some policy }

def withLocations (e : Engine) (canonical : String → Location) : Engine :=
  { e with env.canonical := canonical }

def register (e : Engine) (name : String) (spec : TagSpec) : Option TagSpec × Engine :=
  (e.env.tags.find? name, { e with env.tags := e.env.tags.insert name spec })

def run {α : Type} (e : Engine) (step : Step TrustIndex α) : Except CompileError α × Engine :=
  let (r, trust) := step.run e.trust
  (r, { e with trust })

def compile (e : Engine) (name : String) : Except CompileError Artifact × Engine :=
  e.run (compileArtifact e.env name false)

def compileInBlock (e : Engine) (name : String) : Except CompileError Artifact × Engine :=
  e.run (compileArtifact e.env name true)

end Engine

end TagTemplate
