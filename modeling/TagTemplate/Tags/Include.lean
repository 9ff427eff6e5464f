import TagTemplate.Compile.Environment
import TagTemplate.Text.Comment

/-!
Includes. An include is compiled to code that runs the other template, or else the other template is
merged: compiled once for each compile identity, to a function that the include calls.
-/

namespace TagTemplate

inductive Scope where
  | local
  | parent
  | root
  | global
  deriving Repr, DecidableEq

namespace Scope

def code : Scope → Nat
  | .local => 0
  | .parent => 1
  | .root => 2
  | .global => 3

def word : Scope → String
  | .local => "local"
  | .parent => "parent"
  | .root => "root"
  | .global => "global"

def ofCode? (code : String) : Option Scope :=
  [Scope.local, .parent, .root, .global].find? fun s => s.word == Text.stripQuotes (Text.trim code)

end Scope

namespace Include

def contract : Contract := {
  required := ["file"]
  optional := ["assign", "scope", "compile_id", "cache_id", "cache_lifetime", wildcard]
  shorthand := ["file"]
  flags := ["inline", "caching"] }

def defaultCompileId : String := "$_tpl->compileId"

def defaultCacheId : String := "$_tpl->cacheId"

def scope (u : TagUse) (attrs : Attributes) : Except CompileError Scope :=
  match attrs.code? "scope" with
  | none => .ok .local
  | some code =>
    match Scope.ofCode? code with
    | some s => .ok s
    | none => u.require (.error (.badValue "scope" code))

def localCode (u : TagUse) (name : String) : AttrValue → Except CompileError String
  | .code text => .ok (Text.quote name ++ "=>" ++ text)
  | .flag b => .ok (Text.quote name ++ "=>" ++ boolText b)
  | .assign _ | .assigns _ => u.require (.error (.badValue name "assignment"))

def locals (u : TagUse) (attrs : Attributes) (scope : Scope) : Except CompileError String :=
  if attrs.extra.isEmpty then .ok "array()"
  else if scope ≠ .local then
    .error (.located (.policy .scopedVariables "parent/root/global scope") u.line)
  else do
    let pairs ← attrs.extra.entries.mapM fun (name, v) => localCode u name v
    return "array(" ++ ",".intercalate pairs ++ ")"

def arguments (attrs : Attributes) (file vars : String) (scope : Scope) : String :=
  ", ".intercalate [
    file,
    (attrs.code? "cache_id").getD defaultCacheId,
    (attrs.code? "compile_id").getD defaultCompileId,
    if attrs.flag "caching" then "1" else "0",
    (attrs.code? "cache_lifetime").getD "null",
    vars,
    toString scope.code]

def dispatchCode (args : String) : Option String → String
  | some var => Code.varAt var ++ " = new TplVar($_tpl->subTemplate(" ++ args ++ "));\n"
  | none => Code.print ("$_tpl->subTemplate(" ++ args ++ ")")

def startComment (template : String) : String :=
  "/*  Call merged included template \"" ++ Text.protect template ++ "\" */\n"

def endComment (template : String) : String :=
  "/*  End of included template \"" ++ Text.protect template ++ "\" */\n"

structure Target where
  template : String
  function : String
  deriving Repr, DecidableEq

def callCode (t : Target) (args : String) (assign : Option String) : String :=
  startComment t.template ++
  "$_tpl_stack[] = $_tpl;\n" ++
  " $_tpl = $_tpl->setupInlineSubTemplate(" ++ args ++ ");\n" ++
  (if assign.isSome then "ob_start(); " else "") ++
  t.function ++ "($_tpl);\n" ++
  "$_tpl = array_pop($_tpl_stack); " ++
  (match assign with
    | some var => " " ++ Code.varAt var ++ " = new TplVar(ob_get_clean());"
    | none => "") ++
  "\n" ++ endComment t.template

def isForced (config : Config) (d : Draft) : Bool := d.inBlock && config.mergeInBlocks

def isRequested (config : Config) (d : Draft) (attrs : Attributes) : Bool :=
  config.mergeIncludes || isForced config d || attrs.flag "inline"

def obstacle (file : String) (compileId : Option String) : Option String :=
  if !Text.isLiteral file then some "variable template file names"
  else match compileId with
    | some id => if Text.isLiteral id then none else some "variable compile_id"
    | none => none

def key (file : String) (compileId : Option String) : MergeKey :=
  ⟨(Text.unquote file).getD file, digest (compileId.getD defaultCompileId)⟩

def isMergeable (s : Source) : Bool := s.found && !s.uncompiled && !s.recompiled

/-- Compile a source as part of the pass, as the body of an inheritance block or not. -/
abbrev Merger := Source → Bool → Step Pass Compiled

def compileTarget (merge : Merger) (k : MergeKey) (s : Source) (inBlock : Bool) :
    Step Pass Compiled := do
  modify fun p => { p.note (.merged k) with session := p.session.reserve k }
  Pass.nested (merge s inBlock)

/-- Merge a template that has no record yet, unless its source forbids it. Without a merger the
limit on the depth of merging is reached. -/
def mergeNew (env : Environment) (merge : Option Merger) (k : MergeKey) :
    Step Work (Option Target) := do
  let s ← Work.withPass (Pass.withTrust (env.locate k.template))
  if !isMergeable s then return none
  match merge with
  | none => Step.fail (.mergeDepth k.template env.config.maxInlineDepth)
  | some merge =>
    let c ← Work.withPass (compileTarget merge k s (← get).draft.inBlock)
    modify fun w => { w with
      draft := w.draft.absorb c
      pass := { w.pass.note (.completed k s c) with session := w.pass.session.complete k c.body } }
    return some ⟨k.template, k.function⟩

def target (env : Environment) (merge : Option Merger) (u : TagUse) (attrs : Attributes)
    (file : String) : Step Work (Option Target) := do
  let d := (← get).draft
  let compileId := attrs.code? "compile_id"
  if !isRequested env.config d attrs || d.source.recompiled then return none
  match obstacle file compileId with
  | some reason =>
    if isForced env.config d then
      let fault := Fault.inlining (reason ++ " not allowed within inheritance blocks")
      throw (CompileError.located fault u.line)
    else return none
  | none =>
    let k := key file compileId
    match (← get).pass.session.function? k with
    | some function => return some ⟨k.template, function⟩
    | none => mergeNew env merge k

def compile (env : Environment) (merge : Option Merger) (u : TagUse) (attrs : Attributes) :
    Step Work String := do
  let file ← Step.ofExcept (u.require (attrs.requireCode "file"))
  let scope ← Step.ofExcept (scope u attrs)
  let vars ← Step.ofExcept (locals u attrs scope)
  let target ← target env merge u attrs file
  modify fun w => { w with draft := w.draft.marked }
  let args := arguments attrs file vars scope
  match target with
  | none => return dispatchCode args (attrs.code? "assign")
  | some t =>
    let code := callCode t args (attrs.code? "assign")
    let call := Event.called file (attrs.code? "compile_id") t.function code
    modify fun w => { w with pass := w.pass.note call }
    return code

end Include

end TagTemplate
