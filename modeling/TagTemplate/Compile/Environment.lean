import TagTemplate.Compile.Session
import TagTemplate.Document.Reading
import TagTemplate.Tags.Basic

namespace TagTemplate

abbrev Parser := Source → Except CompileError (List Node)

def Parser.document : Parser := fun s =>
  match Document.read s.content with
  | .ok nodes => .ok nodes
  | .error e =>
    .error (Fault.parse ("invalid node document '" ++ s.name ++ "': " ++ e.message))

structure Environment where
  rules : Rules := {}
  loader : Loader
  parse : Parser := Parser.document
  tags : Registry
  canonical : String → Location := Path.lexical []

namespace Environment

def config (env : Environment) : Config := env.rules.config

def policy (env : Environment) : Option Policy := env.rules.policy

def checkPlace (env : Environment) (s : Source) : Step TrustIndex Unit :=
  match env.policy, s.path with
  | some p, some path =>
    let roots := {
      templates := env.config.templateDirs
      configs := env.config.configDirs
      secure := p.secureDirs }
    TrustIndex.checkFile env.canonical roots (env.canonical path)
  | _, _ => pure ()

def locate (env : Environment) (name : String) : Step TrustIndex Source := do
  let s ← env.loader.resolve name
  env.checkPlace s
  return s

end Environment

/-- What happens in a compilation: a template is merged under a key, a source is compiled at a depth
of merging, the template under a key has been compiled from its source, or an include with codes for
its file and its compile identity has emitted code that calls a function. -/
inductive Event where
  | merged (key : MergeKey)
  | compiled (source : Source) (depth : Nat)
  | completed (key : MergeKey) (source : Source) (result : Compiled)
  | called (file : String) (compileId : Option String) (function code : String)
  deriving Repr, DecidableEq

/-- What the templates of one compilation share, and the events so far, the latest first. -/
structure Pass where
  session : Session := {}
  trust : TrustIndex := {}
  trace : List Event := []
  deriving Repr, DecidableEq

def Pass.withTrust {α : Type} (step : Step TrustIndex α) : Step Pass α :=
  Step.within Pass.trust (fun p trust => { p with trust }) step

def Pass.note (event : Event) (p : Pass) : Pass := { p with trace := event :: p.trace }

/-- Run a step one level deeper. The level is left also when the step fails. -/
def Pass.nested {α : Type} (step : Step Pass α) : Step Pass α := fun p =>
  let (r, p) := step.run { p with session := p.session.enter }
  (r, { p with session := p.session.leave })

structure Work where
  draft : Draft
  pass : Pass
  deriving Repr, DecidableEq

namespace Work

def withDraft {α : Type} (step : Step Draft α) : Step Work α :=
  Step.within Work.draft (fun w draft => { w with draft }) step

def withPass {α : Type} (step : Step Pass α) : Step Work α :=
  Step.within Work.pass (fun w pass => { w with pass }) step

end Work

end TagTemplate
