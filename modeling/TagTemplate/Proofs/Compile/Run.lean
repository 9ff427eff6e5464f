import TagTemplate.Proofs.Compile.Steps

/-!
Successful compilations as derivations. A run takes the nodes of a template one by one: a node
either compiles without merging another template, or is an include that merges one, which has a run
of its own. Levels of merging do not show in a run, so that what holds of all runs is proved by
induction on the derivation.
-/

namespace TagTemplate

structure Merging (env : Environment) (t : Tag) (w : Work) where
  spec : TagSpec
  attrs : Attributes
  plugins : Plugins
  file : String
  vars : String
  scope : Scope
  source : Source
  trust : TrustIndex
  nodes : List Node
  prepared : t.Prepared env spec attrs w.draft.plugins plugins
  isInclude : spec.action = .builtin .include
  reads : Include.Reads (t.use env) attrs file vars scope
  eligible : Include.Eligible env w.draft attrs file
  unrecorded : w.pass.session.function? (Include.key file (attrs.code? "compile_id")) = none
  located : (env.locate (Include.key file (attrs.code? "compile_id")).template).Yields
    w.pass.trust source trust
  mergeable : Include.isMergeable source = true
  shallow : w.pass.session.depth < env.config.maxInlineDepth.toNat
  parsed : env.parse source = .ok nodes

namespace Merging

variable {env : Environment} {t : Tag} {w : Work} (m : Merging env t w)

def key : MergeKey := Include.key m.file (m.attrs.code? "compile_id")

def entered : Pass :=
  { session := (w.pass.session.reserve m.key).enter
    trust := m.trust
    trace := .merged m.key :: w.pass.trace }

def start : Work := ⟨Draft.start m.source w.draft.inBlock, m.entered.begin m.source⟩

def target : Include.Target := ⟨m.key.template, m.key.function⟩

def code : String := Include.codeFor m.attrs m.file m.vars m.scope (some m.target)

def piece : Piece := .code (m.spec.output.emit m.code)

def finish (c : Compiled) (p : Pass) : Work :=
  { draft := ({ w.draft with plugins := m.plugins }.absorb c).marked
    pass := {
      session := p.session.leave.complete m.key c.body
      trust := p.trust
      trace := .called m.file (m.attrs.code? "compile_id") m.key.function m.code ::
        .completed m.key m.source c :: p.trace } }

end Merging

inductive Run (env : Environment) : List Node → Work → List Piece → Work → Prop
  | nil {w} : Run env [] w [] w
  | plain {n ns w piece w₁ pieces w'} : (Node.compile env none n).Yields w piece w₁ →
      Run env ns w₁ pieces w' → Run env (n :: ns) w (piece :: pieces) w'
  | merge {t ns w inner w₁ pieces w'} (m : Merging env t w) :
      (compileTemplate env m.source w.draft.inBlock).Yields m.entered (w₁.draft.compiled inner)
        w₁.pass →
      Run env m.nodes m.start inner w₁ → w₁.draft.blocks = [] →
      Run env ns (m.finish (w₁.draft.compiled inner) w₁.pass) pieces w' →
      Run env (.tag t :: ns) w (m.piece :: pieces) w'

def Compiles (env : Environment) (s : Source) (inBlock : Bool) (p : Pass) (c : Compiled)
    (p' : Pass) : Prop :=
  ∃ nodes pieces w, env.parse s = .ok nodes ∧
    Run env nodes ⟨Draft.start s inBlock, p.begin s⟩ pieces w ∧ w.draft.blocks = [] ∧
    c = w.draft.compiled pieces ∧ p' = w.pass

/-! A node without merging -/

variable {env : Environment}

theorem TagSpec.compile_eq_withDraft (env : Environment) {spec : TagSpec}
    (h : spec.action ≠ .builtin .include) (u : TagUse) (attrs : Attributes) :
    ∃ step : Step Draft String, ∀ merge, spec.compile env merge u attrs = Work.withDraft step := by
  unfold TagSpec.compile
  cases ha : spec.action with
  | custom f => exact ⟨f u attrs, fun _ => rfl⟩
  | builtin b =>
    cases b with
    | «include» => exact absurd ha h
    | loop => exact ⟨_, fun _ => rfl⟩
    | fallback => exact ⟨_, fun _ => rfl⟩
    | endLoop => exact ⟨_, fun _ => rfl⟩
    | leftDelimiter => exact ⟨_, fun _ => rfl⟩
    | rightDelimiter => exact ⟨_, fun _ => rfl⟩
    | special => exact ⟨_, fun _ => rfl⟩

/-- What a node that merges nothing does to the pass: nothing, or it looks at a template that cannot
be merged, or it calls a template that has been merged before. -/
inductive PlainPass (env : Environment) (piece : Piece) (p : Pass) : Pass → Prop
  | same : PlainPass env piece p p
  | declined {name s trust} : (env.locate name).Yields p.trust s trust →
      PlainPass env piece p { p with trust }
  | called {file compileId function args assign output} :
      p.session.function? (Include.key file compileId) = some function →
      piece = .code (TagOutput.emit output
        (Include.callCode ⟨(Include.key file compileId).template, function⟩ args assign)) →
      PlainPass env piece p (p.note (.called file compileId function
        (Include.callCode ⟨(Include.key file compileId).template, function⟩ args assign)))

@[simp] theorem Work.pass_markedBy (code : String) (w : Work) :
    (w.markedBy code).pass = w.pass := by
  unfold markedBy
  split <;> rfl

theorem Work.markedBy_of_hasCode {w : Work} (h : w.draft.hasCode = true) (code : String) :
    w.markedBy code = w := by
  unfold markedBy
  split
  · rfl
  · rw [Draft.marked, ← h]

theorem Include.pass_compile {u : TagUse} {attrs : Attributes} {w w' : Work} {code : String}
    (output : TagOutput) (h : (Include.compile env none u attrs).Yields w code w') :
    PlainPass env (.code (output.emit code)) w.pass w'.pass := by
  obtain ⟨file, vars, sc, target, w₁, -, htarget, rfl, rfl⟩ := Include.yields_compile.1 h
  obtain ⟨-, -, rfl, rfl⟩ | ⟨-, ⟨function, hf, rfl, rfl⟩ | ⟨-, hnew⟩⟩ :=
    Include.yields_target.1 htarget
  · exact .same
  · exact .called hf rfl
  · obtain ⟨s, trust, hs, ⟨-, rfl, rfl⟩ | ⟨-, merger, c, p, hnone, -⟩⟩ :=
      Include.yields_mergeNew.1 hnew
    · exact .declined hs
    · cases hnone

theorem Node.pass_compile {n : Node} {w w' : Work} {piece : Piece}
    (h : (n.compile env none).Yields w piece w') : PlainPass env piece w.pass w'.pass := by
  cases n with
  | text content =>
    obtain ⟨rfl, rfl⟩ := Node.yields_compile_text.1 h
    exact .same
  | print value line =>
    obtain ⟨code, d, -, rfl, rfl⟩ := Node.yields_compile_print.1 h
    exact .same
  | tag t =>
    obtain ⟨code, ht, rfl⟩ := Node.yields_compile_tag.1 h
    obtain ⟨spec, attrs, plugins, fragment, w₁, -, hspec, rfl, rfl⟩ := Tag.yields_compile.1 ht
    rw [Work.pass_markedBy]
    by_cases hi : spec.action = .builtin .include
    · rw [TagSpec.compile, hi] at hspec
      have hpass := Include.pass_compile spec.output hspec
      exact hpass
    · obtain ⟨step, hstep⟩ := TagSpec.compile_eq_withDraft env hi (t.use env) attrs
      rw [hstep] at hspec
      obtain ⟨d, -, rfl⟩ := Work.yields_withDraft.1 hspec
      exact .same

namespace Include

structure Fresh (env : Environment) (w : Work) (attrs : Attributes) (file : String) (s : Source)
    (trust : TrustIndex) : Prop where
  eligible : Eligible env w.draft attrs file
  unrecorded : w.pass.session.function? (key file (attrs.code? "compile_id")) = none
  located : (env.locate (key file (attrs.code? "compile_id")).template).Yields w.pass.trust s trust
  mergeable : isMergeable s = true

theorem compile_cases {u : TagUse} {attrs : Attributes} {w w' : Work} {code : String}
    {merger : Merger} (h : (compile env (some merger) u attrs).Yields w code w') :
    (compile env none u attrs).Yields w code w' ∨
    ∃ file vars sc s trust c p, Reads u attrs file vars sc ∧ Fresh env w attrs file s trust ∧
      (compileTarget merger (key file (attrs.code? "compile_id")) s w.draft.inBlock).Yields
        { w.pass with trust } c p ∧
      code = codeFor attrs file vars sc (some ⟨(key file (attrs.code? "compile_id")).template,
        (key file (attrs.code? "compile_id")).function⟩) ∧
      w' = ⟨(w.draft.absorb c).marked, {
        session := p.session.complete (key file (attrs.code? "compile_id")) c.body
        trust := p.trust
        trace := .called file (attrs.code? "compile_id")
            (key file (attrs.code? "compile_id")).function code ::
          .completed (key file (attrs.code? "compile_id")) s c :: p.trace }⟩ := by
  obtain ⟨file, vars, sc, target', w₁, hreads, htarget, rfl, rfl⟩ := yields_compile.1 h
  -- a target found without the merger is found without one at all
  have plain (hnone : (target env none u attrs file).Yields w target' w₁) :
      (compile env none u attrs).Yields w (codeFor attrs file vars sc target') _ :=
    yields_compile.2 ⟨file, vars, sc, target', w₁, hreads, hnone, rfl, rfl⟩
  obtain hno | ⟨hel, hhit | ⟨hmiss, hnew⟩⟩ := yields_target.1 htarget
  · exact .inl (plain (yields_target.2 (.inl hno)))
  · exact .inl (plain (yields_target.2 (.inr ⟨hel, .inl hhit⟩)))
  · obtain ⟨s, trust, hs, hdeclined | ⟨hm, merger', c, p, heq, hc, rfl, rfl⟩⟩ :=
      yields_mergeNew.1 hnew
    · exact .inl (plain (yields_target.2 (.inr ⟨hel, .inr ⟨hmiss,
        yields_mergeNew.2 ⟨s, trust, hs, .inl hdeclined⟩⟩⟩)))
    · cases heq
      exact .inr ⟨file, vars, sc, s, trust, c, p, hreads, ⟨hel, hmiss, hs, hm⟩, hc, rfl, rfl⟩

end Include

theorem Node.compile_cases {n : Node} {w w' : Work} {piece : Piece} {merger : Include.Merger}
    (hshallow : w.pass.session.depth < env.config.maxInlineDepth.toNat)
    (hmerger : ∀ {s inBlock p c p'}, p.session.depth = w.pass.session.depth + 1 →
      (merger s inBlock).Yields p c p' →
      (compileTemplate env s inBlock).Yields p c p' ∧ Compiles env s inBlock p c p')
    (h : (n.compile env (some merger)).Yields w piece w') :
    (n.compile env none).Yields w piece w' ∨
    ∃ t, n = .tag t ∧ ∃ (m : Merging env t w) (inner : List Piece) (w₁ : Work),
      (compileTemplate env m.source w.draft.inBlock).Yields m.entered (w₁.draft.compiled inner)
        w₁.pass ∧
      Run env m.nodes m.start inner w₁ ∧ w₁.draft.blocks = [] ∧ piece = m.piece ∧
      w' = m.finish (w₁.draft.compiled inner) w₁.pass := by
  cases n with
  | text content => exact .inl h
  | print value line => exact .inl h
  | tag t =>
    obtain ⟨code, ht, rfl⟩ := Node.yields_compile_tag.1 h
    obtain ⟨spec, attrs, plugins, fragment, w₁, hprepared, hspec, rfl, rfl⟩ :=
      Tag.yields_compile.1 ht
    -- what compiles without a merger makes the tag compile without one
    have plain (hnone : (spec.compile env none (t.use env) attrs).Yields
        { w with draft := { w.draft with plugins } } fragment w₁) :
        ((Node.tag t).compile env none).Yields w (.code (spec.output.emit fragment))
          (w₁.markedBy fragment) :=
      Node.yields_compile_tag.2 ⟨_, Tag.yields_compile.2
        ⟨spec, attrs, plugins, fragment, w₁, hprepared, hnone, rfl, rfl⟩, rfl⟩
    by_cases hi : spec.action = .builtin .include
    · rw [TagSpec.compile, hi] at hspec plain
      obtain hnone | ⟨file, vars, sc, s, trust, c, p, hreads, hfresh, hc, rfl, rfl⟩ :=
        Include.compile_cases hspec
      · exact .inl (plain hnone)
      · obtain ⟨q, hq, rfl⟩ := Include.yields_compileTarget.1 hc
        obtain ⟨hcompiled, nodes, inner, w₂, hparse, hrun, hclosed, rfl, rfl⟩ := hmerger rfl hq
        let m : Merging env t w := {
          spec, attrs, plugins, file, vars, scope := sc, source := s, trust, nodes
          prepared := hprepared, isInclude := hi, reads := hreads
          eligible := ⟨hfresh.eligible.requested, hfresh.eligible.kept, hfresh.eligible.literal⟩
          unrecorded := hfresh.unrecorded, located := hfresh.located
          mergeable := hfresh.mergeable, shallow := hshallow, parsed := hparse }
        refine .inr ⟨t, rfl, m, inner, w₂, hcompiled, hrun, hclosed, rfl, ?_⟩
        exact Work.markedBy_of_hasCode rfl _
    · obtain ⟨step, hstep⟩ := TagSpec.compile_eq_withDraft env hi (t.use env) attrs
      rw [hstep] at hspec plain
      exact .inl (plain hspec)

/-! Runs of a compilation -/

theorem PlainPass.session {piece : Piece} {p p' : Pass} (h : PlainPass env piece p p') :
    p'.session = p.session := by
  cases h <;> rfl

theorem Run.depth {ns : List Node} {w w' : Work} {pieces : List Piece}
    (h : Run env ns w pieces w') : w'.pass.session.depth = w.pass.session.depth := by
  induction h with
  | nil => rfl
  | plain hn _ ih => rw [ih, (Node.pass_compile hn).session]
  | @merge t ns w inner w₁ pieces w' m _ _ _ _ ihInner ihRest =>
    rw [ihRest]
    change w₁.pass.session.depth - 1 = w.pass.session.depth
    rw [ihInner]
    exact Nat.add_sub_cancel w.pass.session.depth 1

theorem PlainPass.trace {piece : Piece} {p p' : Pass} (h : PlainPass env piece p p') :
    p'.trace = p.trace ∨ ∃ file compileId function code,
      p'.trace = .called file compileId function code :: p.trace := by
  cases h with
  | same => exact .inl rfl
  | declined _ => exact .inl rfl
  | called _ _ => exact .inr ⟨_, _, _, _, rfl⟩

theorem PlainPass.mem_trace {piece : Piece} {p p' : Pass} (h : PlainPass env piece p p')
    {event : Event} (hevent : event ∈ p'.trace)
    (hcall : ∀ file compileId function code, event ≠ .called file compileId function code) :
    event ∈ p.trace := by
  obtain htrace | ⟨file, compileId, function, code, htrace⟩ := h.trace
  · rwa [htrace] at hevent
  · rw [htrace] at hevent
    exact (List.mem_cons.1 hevent).resolve_left (hcall file compileId function code)

theorem Run.trace_suffix {ns : List Node} {w w' : Work} {pieces : List Piece}
    (h : Run env ns w pieces w') : w.pass.trace <:+ w'.pass.trace := by
  induction h with
  | nil => exact List.suffix_rfl
  | plain hn _ ih =>
    obtain htrace | ⟨_, _, _, _, htrace⟩ := (Node.pass_compile hn).trace
    · rwa [htrace] at ih
    · rw [htrace] at ih
      exact (List.suffix_cons _ _).trans ih
  | @merge t ns w inner w₁ pieces w' m _ _ _ _ ihInner ihRest =>
    have hstart : w.pass.trace <:+ m.start.pass.trace :=
      (List.suffix_cons _ _).trans (List.suffix_cons _ _)
    have hfinish : w₁.pass.trace <:+ (m.finish (w₁.draft.compiled inner) w₁.pass).pass.trace :=
      (List.suffix_cons _ _).trans (List.suffix_cons _ _)
    exact ((hstart.trans ihInner).trans hfinish).trans ihRest

theorem run_of_mapM {merge : Option Include.Merger} {depth : Nat}
    (hnode : ∀ {n ns w piece w₁ pieces w'}, w.pass.session.depth = depth →
      (Node.compile env merge n).Yields w piece w₁ → Run env ns w₁ pieces w' →
      Run env (n :: ns) w (piece :: pieces) w')
    {nodes : List Node} {w w' : Work} {pieces : List Piece} (hw : w.pass.session.depth = depth)
    (h : (nodes.mapM (Node.compile env merge)).Yields w pieces w') :
    Run env nodes w pieces w' := by
  induction nodes generalizing w pieces with
  | nil =>
    obtain ⟨rfl, rfl⟩ := Step.yields_mapM_nil.1 h
    exact .nil
  | cons n ns ih =>
    obtain ⟨piece, w₁, rest, hn, hns, rfl⟩ := Step.yields_mapM_cons.1 h
    have hw₁ : w₁.pass.session.depth = depth := (hnode hw hn .nil).depth.trans hw
    exact hnode hw hn (ih hw₁ hns)

theorem compiles_of_compileSource {merge : Option Include.Merger} {s : Source} {inBlock : Bool}
    {p p' : Pass} {c : Compiled}
    (hnode : ∀ {n ns w piece w₁ pieces w'}, w.pass.session.depth = p.session.depth →
      (Node.compile env merge n).Yields w piece w₁ → Run env ns w₁ pieces w' →
      Run env (n :: ns) w (piece :: pieces) w')
    (h : (compileSource env merge s inBlock).Yields p c p') : Compiles env s inBlock p c p' := by
  obtain ⟨nodes, w, hparse, hnodes, rfl⟩ := yields_compileSource.1 h
  obtain ⟨pieces, hpieces, hclosed, rfl⟩ := yields_compileNodes.1 hnodes
  exact ⟨nodes, pieces, w, hparse, run_of_mapM hnode rfl hpieces, hclosed, rfl, rfl⟩

theorem compiles_of_compileLevels {levels : Nat} {s : Source} {inBlock : Bool} {p p' : Pass}
    {c : Compiled} (hlevels : levels = levelsLeft env p.session.depth)
    (h : (compileLevels env levels s inBlock).Yields p c p') : Compiles env s inBlock p c p' := by
  induction levels generalizing s inBlock p p' c with
  | zero => exact compiles_of_compileSource (fun _ hn hrun => .plain hn hrun) h
  | succ n ih =>
    unfold levelsLeft at hlevels
    refine compiles_of_compileSource (fun {m ns w piece w₁ pieces w'} hw hn hrun => ?_) h
    have hshallow : w.pass.session.depth < env.config.maxInlineDepth.toNat := by omega
    have hmerger {s inBlock q c q'} (hq : q.session.depth = w.pass.session.depth + 1)
        (hc : (compileLevels env n s inBlock).Yields q c q') :
        (compileTemplate env s inBlock).Yields q c q' ∧ Compiles env s inBlock q c q' := by
      have hn : n = levelsLeft env q.session.depth := by
        unfold levelsLeft
        omega
      refine ⟨?_, ih hn hc⟩
      rw [compileTemplate, Step.yields_get_bind, ← hn]
      exact hc
    obtain hplain | ⟨t, rfl, m, inner, w₂, hcompiled, hinner, hclosed, rfl, rfl⟩ :=
      Node.compile_cases hshallow hmerger hn
    · exact .plain hplain hrun
    · exact .merge m hcompiled hinner hclosed hrun

theorem compiles_of_compileTemplate {s : Source} {inBlock : Bool} {p p' : Pass} {c : Compiled}
    (h : (compileTemplate env s inBlock).Yields p c p') : Compiles env s inBlock p c p' := by
  rw [compileTemplate, Step.yields_get_bind] at h
  exact compiles_of_compileLevels rfl h

structure Compilation (env : Environment) (name : String) (inBlock : Bool) (trust : TrustIndex)
    (a : Artifact) where
  source : Source
  entryTrust : TrustIndex
  result : Compiled
  pass : Pass
  resolved : (resolveEntry env name).Yields trust source entryTrust
  compiled : (compileTemplate env source inBlock).Yields { trust := entryTrust } result pass
  artifact : a = .ofCompiled env source result pass.session

theorem exists_compilation {name : String} {inBlock : Bool} {trust trust' : TrustIndex}
    {a : Artifact} (h : (compileArtifact env name inBlock).Yields trust a trust') :
    ∃ c : Compilation env name inBlock trust a, trust' = c.pass.trust := by
  obtain ⟨s, entryTrust, c, p, hs, hc, ha, htrust⟩ := yields_compileArtifact.1 h
  exact ⟨⟨s, entryTrust, c, p, hs, hc, ha⟩, htrust⟩

/-! A template that merges another, which calls itself -/

def Source.sampleNodes (s : Source) : List Node :=
  let part : Tag := { name := "include", args := [.positional (.expr (.code "'part'"))], line := 2 }
  if s.name = "main" then
    [.print (.modified (.call "count" [.code "$x"]) [⟨"escape", []⟩]) 1, .tag part]
  else [.print (.special "get" none) 1, .tag part]

def Environment.sample (policy : Option Policy) : Environment := {
  rules := { config := { mergeIncludes := true, templateDirs := ⟨1, ["t"]⟩ }, policy }
  loader := ⟨fun name => pure { name, uid := name, kind := .file, path := some ("t/" ++ name) }⟩
  parse := fun s => .ok s.sampleNodes
  tags := Registry.builtin
  canonical := fun path => if path = "t" then ["t"] else ["t", path] }

/-! Templates with given nodes -/

def Environment.ofNodes (nodes : List Node) : Environment := {
  Environment.sample none with parse := fun _ => .ok nodes }

def Source.sample : Source := { name := "main", uid := "main", kind := .file }

end TagTemplate
