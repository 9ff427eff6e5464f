import TagTemplate.Tags.Registry

/-!
Compiling templates. The nodes of a template compile in order to texts and fragments of code; merged
includes compile other templates in turn, each level of merging one deeper than the one before.
-/

namespace TagTemplate

def dispatchName (tag : String) : String :=
  match tag.toList with
  | '/' :: name => String.ofList name ++ "close"
  | _ => tag

def Assignment.compile (r : Rules) (a : Assignment) : Step Plugins CodeAssignment := do
  return ⟨a.var, ← a.value.compile r⟩

def ArgValue.compile (r : Rules) : ArgValue → Step Plugins AttrValue
  | .expr e => do return .code (← e.compile r)
  | .flag b => return .flag b
  | .assign a => do return .assign (← a.compile r)
  | .assigns as => do return .assigns (← as.mapM (Assignment.compile r))

def TagArg.compile (r : Rules) : TagArg → Step Plugins Arg
  | .named name value => do return .named name (← value.compile r)
  | .flag name => return .flag name
  | .positional value => do return .positional (← value.compile r)

def TagOutput.emit (output : TagOutput) (code : String) : String :=
  match output with
  | .statement => code
  | .expression => Code.print code

def Tag.compile (env : Environment) (merge : Option Include.Merger) (t : Tag) :
    Step Work String := do
  let name := dispatchName t.name
  Step.ofExcept (env.rules.check .tag name)
  match env.tags.find? name with
  | none => Step.fail (.unknownTag t.name)
  | some spec =>
    let args ← Work.withDraft (Draft.withPlugins (t.args.mapM (TagArg.compile env.rules)))
    match Attributes.resolve (spec.contract t.variant) args with
    | .error e => Step.fail (.attribute name e)
    | .ok attrs =>
      let code ← spec.compile env merge ⟨env.rules, name, t.line, t.variant⟩ attrs
      unless code.isEmpty do modify fun w => { w with draft := w.draft.marked }
      return spec.output.emit code

inductive Piece where
  | text (content : String)
  | code (fragment : String)
  deriving Repr, DecidableEq

def Node.compile (env : Environment) (merge : Option Include.Merger) : Node → Step Work Piece
  | .text content => return .text content
  | .print value line => do
    return .code (← Step.atLine line (Work.withDraft (value.compilePrint env.rules)))
  | .tag t => do return .code (← Step.atLine t.line (t.compile env merge))

namespace Body

def echo (text : String) : String := if text.isEmpty then "" else Code.echo text

/-- The fragments in order. Texts next to each other are printed together; `run` is the text that
has not been printed yet. -/
def join (run : String) : List Piece → String
  | [] => echo run
  | .text content :: rest => join (run ++ content) rest
  | .code fragment :: rest => echo run ++ fragment ++ join "" rest

def texts (pieces : List Piece) : String :=
  String.join (pieces.map fun
    | .text content => content
    | .code _ => "")

def ofPieces (hasCode : Bool) (pieces : List Piece) : String :=
  if hasCode then join "" pieces else echo (texts pieces)

end Body

def compileNodes (env : Environment) (merge : Option Include.Merger) (nodes : List Node) :
    Step Work Compiled := do
  let pieces ← nodes.mapM (Node.compile env merge)
  let d := (← get).draft
  Step.ofExcept d.checkClosed
  return ⟨Body.ofPieces d.hasCode pieces, d.hasCode, d.dependencies, d.plugins⟩

def compileSource (env : Environment) (merge : Option Include.Merger) : Include.Merger :=
  fun source inBlock => do
    modify fun p => p.note (.compiled source p.session.depth)
    let nodes ← Step.ofExcept (env.parse source)
    fun pass =>
      let (r, w) := (compileNodes env merge nodes).run ⟨Draft.start source inBlock, pass⟩
      (r, w.pass)

/-- Compile a source from which includes can be merged as many levels deep as given. -/
def compileLevels (env : Environment) : Nat → Include.Merger
  | 0 => compileSource env none
  | n + 1 => compileSource env (some (compileLevels env n))

def levelsLeft (env : Environment) (depth : Nat) : Nat := env.config.maxInlineDepth.toNat - depth

def mergerAt (env : Environment) (depth : Nat) : Option Include.Merger :=
  match levelsLeft env depth with
  | 0 => none
  | n + 1 => some (compileLevels env n)

def compileTemplate (env : Environment) : Include.Merger := fun source inBlock => do
  compileLevels env (levelsLeft env (← get).session.depth) source inBlock

end TagTemplate
