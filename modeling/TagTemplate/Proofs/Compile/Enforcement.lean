import TagTemplate.Proofs.Compile.Plugin

namespace TagTemplate

variable {env : Environment} {r : Rules}

inductive Expr.EndsIn (names : List String) : Expr → Prop
  | modified {value modifiers m} : m.name ∈ names →
      EndsIn names (.modified value (modifiers ++ [m]))

inductive Expr.Static : Expr → Prop
  | literal {e} : e.isLiteral = true → Static e
  | modified {value modifiers} : value.isLiteral = true →
      (∀ m ∈ modifiers, ∀ a ∈ m.args, a.isLiteral = true) → Static (.modified value modifiers)

def Expr.Enforced (config : Config) (e : Expr) : Prop :=
  e.EndsIn config.enforcedModifiers ∨ e.Static ∧ config.enforceOnStatic = false

theorem Expr.endsWith_iff {names : List String} {e : Expr} :
    e.endsWith names = true ↔ e.EndsIn names := by
  constructor
  · intro h
    cases e with
    | modified value modifiers =>
      cases hlast : modifiers.getLast? with
      | none => simp [endsWith, split, hlast] at h
      | some m =>
        have hm : m.name ∈ names := by simpa [endsWith, split, hlast] using h
        obtain ⟨before, rfl⟩ := List.getLast?_eq_some_iff.1 hlast
        exact .modified hm
    | _ => cases h
  · intro h
    cases h with
    | modified hm => simpa [endsWith, split] using hm

theorem Expr.isStatic_iff {e : Expr} : e.isStatic = true ↔ e.Static := by
  constructor
  · intro h
    cases e with
    | modified value modifiers =>
      simp only [isStatic, split, Bool.and_eq_true, List.all_eq_true] at h
      exact .modified h.1 h.2
    | _ => exact .literal (by simpa [isStatic, split] using h)
  · intro h
    cases h with
    | literal hliteral =>
      cases e with
      | code text => simpa [isStatic, split] using hliteral
      | _ => cases hliteral
    | modified hvalue hargs =>
      simp only [isStatic, split, Bool.and_eq_true, List.all_eq_true]
      exact ⟨hvalue, hargs⟩

theorem Expr.checkEnforced_eq_ok {config : Config} (h : config.enforcedModifiers ≠ []) {e : Expr} :
    e.checkEnforced config = .ok () ↔ e.Enforced config := by
  have hnames : config.enforcedModifiers.isEmpty = false := by simpa using h
  rw [Enforced, ← endsWith_iff, ← isStatic_iff, checkEnforced]
  cases config.enforceOnStatic <;> cases e.isStatic <;>
    cases e.endsWith config.enforcedModifiers <;> simp [hnames]

theorem Expr.not_enforced_special (config : Config) (name : String) (member : Option String) :
    ¬ (Expr.special name member).Enforced config := by
  intro h
  cases h with
  | inl hends => cases hends
  | inr hstatic =>
    cases hstatic.1 with
    | literal h => cases h

inductive Node.Echoes (r : Rules) : Node → Expr → Prop
  | print {value line} : Echoes r (.print value line) value
  | special {t args attrs var} : dispatchName t.name = Builtin.special.name →
      (∀ plugins, ∃ plugins', (t.args.mapM (TagArg.compile r)).Yields plugins args plugins') →
      Attributes.resolve Special.contract args = .ok attrs → attrs.requireCode "var" = .ok var →
      Echoes r (.tag t) (.special ((Text.unquote var).getD var) (attrs.code? "member"))

structure Node.Echoing (env : Environment) (n : Node) (piece : Piece) : Prop where
  echoes : ∀ e, n.Echoes env.rules e → ∃ code, e.CompilesTo env.rules code ∧
    piece = .code (Code.print code)
  alone : ∀ t spec, n = .tag t → env.tags.find? (dispatchName t.name) = some spec →
    spec.output = .expression → ∃ e, n.Echoes env.rules e
  enforced : ∀ e line, n = .print e line → e.Enforced env.config
  exempt : ∀ e t, n = .tag t → n.Echoes env.rules e → ¬ e.Enforced env.config

theorem Node.echoing_text (content : String) (piece : Piece) :
    (Node.text content).Echoing env piece :=
  ⟨nofun, nofun, nofun, nofun⟩

theorem Node.echoing_print (hnames : env.config.enforcedModifiers ≠ []) {value : Expr} {line : Line}
    {w w' : Work} {piece : Piece}
    (h : ((Node.print value line).compile env none).Yields w piece w') :
    (Node.print value line).Echoing env piece := by
  obtain ⟨code, d, hd, rfl, -⟩ := Node.yields_compile_print.1 h
  obtain ⟨fragment, plugins, hcheck, hvalue, rfl, -⟩ := Expr.yields_compilePrint.1 hd
  refine ⟨fun e he => ?_, nofun, fun e line heq => ?_, nofun⟩
  · cases he
    exact ⟨fragment, Expr.compilesTo_of_yields hvalue, rfl⟩
  · cases heq
    exact (Expr.checkEnforced_eq_ok hnames).1 hcheck

theorem Tag.yields_special {t : Tag} {attrs : Attributes} {w w' : Work} {code : String}
    (h : (Builtin.special.spec.compile env none (t.use env) attrs).Yields w code w') :
    ∃ var, attrs.requireCode "var" = .ok var ∧
      (Expr.special ((Text.unquote var).getD var) (attrs.code? "member")).CompilesTo env.rules
        code := by
  change (Work.withDraft (Special.compileTag (t.use env) attrs)).Yields w code w' at h
  obtain ⟨d, hd, -⟩ := Work.yields_withDraft.1 h
  obtain ⟨var, hvar, hcode, -⟩ := Special.yields_compileTag hd
  refine ⟨var, hvar, fun plugins => ⟨plugins, ?_⟩⟩
  rw [Expr.compile]
  exact Step.yields_ofExcept.2 ⟨hcode, rfl⟩

theorem Node.echoes_special {t : Tag} {args : List Arg} {attrs : Attributes} {var : String}
    {plugins plugins' : Plugins} {e : Expr}
    (hargs : (t.args.mapM (TagArg.compile r)).Yields plugins args plugins')
    (hattrs : Attributes.resolve Special.contract args = .ok attrs)
    (hvar : attrs.requireCode "var" = .ok var) (h : (Node.tag t).Echoes r e) :
    e = .special ((Text.unquote var).getD var) (attrs.code? "member") := by
  cases h with
  | special _ hargs' hattrs' hvar' =>
    obtain ⟨_, hargs'⟩ := hargs' plugins
    obtain ⟨rfl, -⟩ := hargs.unique hargs'
    cases hattrs.symm.trans hattrs'
    cases hvar.symm.trans hvar'
    rfl

theorem Node.echoing_special {t : Tag} {attrs : Attributes} {w w₁ w' : Work} {code : String}
    {plugins : Plugins} (hname : dispatchName t.name = Builtin.special.name)
    (hprepared : t.Prepared env Builtin.special.spec attrs w.draft.plugins plugins)
    (h : (Builtin.special.spec.compile env none (t.use env) attrs).Yields w₁ code w') :
    (Node.tag t).Echoing env (.code (Code.print code)) := by
  obtain ⟨args, hargs, hresolve⟩ := hprepared.resolved
  have hattrs : Attributes.resolve Special.contract args = .ok attrs := hresolve
  obtain ⟨var, hvar, hcode⟩ := Tag.yields_special h
  refine ⟨fun e he => ?_, fun t' spec heq _ _ => ?_, nofun, fun e t' _ he => ?_⟩
  · rw [Node.echoes_special hargs hattrs hvar he]
    exact ⟨code, hcode, rfl⟩
  · exact ⟨_, .special hname (TagArg.yields_mapM_compile hargs) hattrs hvar⟩
  · rw [Node.echoes_special hargs hattrs hvar he]
    exact Expr.not_enforced_special _ _ _

theorem Node.echoing_statement (htags : env.tags = Registry.builtin) {t : Tag}
    (hname : dispatchName t.name ≠ Builtin.special.name) (piece : Piece) :
    (Node.tag t).Echoing env piece := by
  have hnone (e : Expr) : ¬ (Node.tag t).Echoes env.rules e := by
    intro h
    cases h
    contradiction
  refine ⟨fun e he => absurd he (hnone e), fun t' spec heq hfind houtput => ?_, nofun,
    fun e t' _ he => absurd he (hnone e)⟩
  cases heq
  rw [htags] at hfind
  exact absurd ((Registry.output_of_find? hfind).1 houtput) hname

theorem Node.echoing_tag (htags : env.tags = Registry.builtin) {t : Tag} {w w' : Work}
    {piece : Piece} (h : ((Node.tag t).compile env none).Yields w piece w') :
    (Node.tag t).Echoing env piece := by
  by_cases hname : dispatchName t.name = Builtin.special.name
  · obtain ⟨code, ht, rfl⟩ := Node.yields_compile_tag.1 h
    obtain ⟨spec, attrs, plugins, fragment, w₁, hprepared, hspec, rfl, -⟩ :=
      Tag.yields_compile.1 ht
    obtain rfl := hprepared.eq_special htags hname
    exact Node.echoing_special hname hprepared hspec
  · exact Node.echoing_statement htags hname piece

theorem Merging.echoing {t : Tag} {w : Work} (m : Merging env t w)
    (htags : env.tags = Registry.builtin) : (Node.tag t).Echoing env m.piece :=
  Node.echoing_statement htags (m.name_ne_special htags) m.piece

theorem Node.echoing_of_compile (htags : env.tags = Registry.builtin)
    (hnames : env.config.enforcedModifiers ≠ []) {n : Node} {w w' : Work} {piece : Piece}
    (h : (n.compile env none).Yields w piece w') : n.Echoing env piece := by
  cases n with
  | text content => exact Node.echoing_text content piece
  | print value line => exact Node.echoing_print hnames h
  | tag t => exact Node.echoing_tag htags h

theorem Run.forall₂ {R : Node → Piece → Prop}
    (hplain : ∀ {n w piece w'}, (Node.compile env none n).Yields w piece w' → R n piece)
    (hmerge : ∀ {t w} (m : Merging env t w), R (.tag t) m.piece) {nodes : List Node}
    {w w' : Work} {pieces : List Piece} (h : Run env nodes w pieces w') :
    List.Forall₂ R nodes pieces := by
  induction h with
  | nil => exact .nil
  | plain hn _ ih => exact .cons (hplain hn) ih
  | merge m _ _ _ _ _ ih => exact .cons (hmerge m) ih

theorem Run.compiles_of_completed {nodes : List Node} {w w' : Work} {pieces : List Piece}
    (h : Run env nodes w pieces w') {k : MergeKey} {s : Source} {c : Compiled}
    (hc : .completed k s c ∈ w'.pass.trace) :
    .completed k s c ∈ w.pass.trace ∨ ∃ inBlock p p', Compiles env s inBlock p c p' := by
  induction h with
  | nil => exact .inl hc
  | plain hn _ ih => exact (ih hc).imp_left fun hmem => (Node.pass_compile hn).mem_trace hmem nofun
  | @merge t ns w inner w₁ pieces w' m _ hinner hclosed _ ihInner ihRest =>
    cases ihRest hc with
    | inr hcompiles => exact .inr hcompiles
    | inl hfinish =>
      cases List.mem_cons.1 ((List.mem_cons.1 hfinish).resolve_left nofun) with
      | inl heq =>
        cases heq
        exact .inr ⟨_, _, _, m.nodes, inner, w₁, m.parsed, hinner, hclosed, rfl, rfl⟩
      | inr hmem =>
        apply (ihInner hmem).imp_left
        intro hstart
        simpa [Merging.start, Merging.entered, Pass.begin, Pass.note] using hstart

namespace Compilation

variable {name : String} {inBlock : Bool} {trust : TrustIndex} {a : Artifact}

def Makes (c : Compilation env name inBlock trust a) (s : Source) (result : Compiled) : Prop :=
  (s = c.source ∧ result = c.result) ∨ ∃ k, .completed k s result ∈ c.pass.trace

theorem compiles_of_makes (c : Compilation env name inBlock trust a) {s : Source}
    {result : Compiled} (h : c.Makes s result) :
    ∃ inBlock p p', Compiles env s inBlock p result p' := by
  cases h with
  | inl h =>
    obtain ⟨rfl, rfl⟩ := h
    exact ⟨_, _, _, compiles_of_compileTemplate c.compiled⟩
  | inr h =>
    obtain ⟨k, hk⟩ := h
    obtain ⟨nodes, pieces, w, hrun, hpass, -⟩ := c.exists_run
    rw [← hpass] at hk
    exact (hrun.compiles_of_completed hk).resolve_left (by simp [Pass.begin, Pass.note])

end Compilation

/-- Where the settings enforce modifiers, the expressions that print nodes echo satisfy them, in the
template and in every merged one. A tag that is registered as an expression echoes one that does
not. -/
theorem compileArtifact_enforced {name : String} {inBlock : Bool} {trust trust' : TrustIndex}
    {a : Artifact} (htags : env.tags = Registry.builtin)
    (hnames : env.config.enforcedModifiers ≠ [])
    (h : (compileArtifact env name inBlock).Yields trust a trust') :
    ∃ c : Compilation env name inBlock trust a, a.body = c.result.body ∧
      (∀ r ∈ c.pass.session.merged, ∃ s result, c.Makes s result ∧ r.body = result.body) ∧
      ∀ s result, c.Makes s result → ∃ nodes pieces, env.parse s = .ok nodes ∧
        result.body = Body.ofPieces result.hasCode pieces ∧
        List.Forall₂ (Node.Echoing env) nodes pieces := by
  obtain ⟨c, -⟩ := exists_compilation h
  refine ⟨c, congrArg Artifact.body c.artifact, fun r hr => ?_, fun s result hmakes => ?_⟩
  · obtain ⟨k, hk⟩ := c.mem_merged.1 hr
    obtain ⟨s, result, hcompleted, -, rfl⟩ := (c.finished hk).compiled
    exact ⟨s, result, .inr ⟨k, hcompleted⟩, rfl⟩
  · obtain ⟨_, _, _, nodes, pieces, w, hparse, hrun, -, rfl, -⟩ := c.compiles_of_makes hmakes
    refine ⟨nodes, pieces, hparse, rfl, hrun.forall₂ ?_ fun m => m.echoing htags⟩
    intro n w piece w' hn
    exact Node.echoing_of_compile htags hnames hn

def Tag.sampleSpecial : Tag := {
  name := "private_special_variable"
  args := [.positional (.expr (.code "'get'")), .positional (.expr (.code "'q'"))] }

def Environment.sampleEnforced : Environment := { Environment.sample none with
  rules := { config := { mergeIncludes := true, enforcedModifiers := ["escape"] } }
  parse := fun s => .ok (.tag .sampleSpecial ::
    if s.name = "main" then [
      .print (.modified (.code "$x") [⟨"escape", []⟩]) 1,
      .tag { name := "include", args := [.positional (.expr (.code "'part'"))] }]
    else [.print (.code "'a'") 1]) }

theorem compileArtifact_enforced_sample :
    ∃ a trust', (compileArtifact .sampleEnforced "main" false).Yields {} a trust' ∧
      a.functions.keys.length = 1 ∧ Environment.sampleEnforced.config.enforcedModifiers ≠ [] ∧
      ∃ c : Compilation .sampleEnforced "main" false {} a,
        ∀ s result, c.Makes s result → ∃ nodes pieces,
          Environment.sampleEnforced.parse s = .ok nodes ∧
          result.body = Body.ofPieces result.hasCode pieces ∧
          List.Forall₂ (Node.Echoing .sampleEnforced) nodes pieces := by
  obtain ⟨a, trust', h, hlength⟩ : ∃ a trust',
      (compileArtifact .sampleEnforced "main" false).Yields {} a trust' ∧
      (a.functions.keys.length == 1) = true :=
    Step.exists_yields (by decide +kernel)
  have hnames : Environment.sampleEnforced.config.enforcedModifiers ≠ [] := by decide
  obtain ⟨c, -, -, hmakes⟩ := compileArtifact_enforced rfl hnames h
  exact ⟨a, trust', h, beq_iff_eq.1 hlength, hnames, c, hmakes⟩

theorem Node.echoes_sampleSpecial (r : Rules) :
    (Node.tag .sampleSpecial).Echoes r (.special "get" (some "'q'")) := by
  let attrs : Attributes := ⟨.ofList [("var", .code "'get'"), ("member", .code "'q'")], ∅⟩
  have hattrs : Attributes.resolve Special.contract
      [.positional (.code "'get'"), .positional (.code "'q'")] = .ok attrs := by decide
  have hname : dispatchName Tag.sampleSpecial.name = Builtin.special.name := by decide
  exact .special hname (fun plugins => ⟨plugins, rfl⟩) hattrs rfl

/-- Although an escape is enforced, a template prints request data as it is. -/
theorem compileArtifact_not_enforced :
    Environment.sampleEnforced.config.enforcedModifiers = ["escape"] ∧
    ∃ a trust', (compileArtifact .sampleEnforced "part" false).Yields {} a trust' ∧
      a.body = "echo tpl_safe_lookup($_GET, 'q', 1);\necho 'a';\n" ∧
      ∃ c : Compilation .sampleEnforced "part" false {} a,
        ∃ nodes n e, Environment.sampleEnforced.parse c.source = .ok nodes ∧ n ∈ nodes ∧
          n.Echoes Environment.sampleEnforced.rules e ∧
          ¬ e.Enforced Environment.sampleEnforced.config := by
  obtain ⟨a, trust', h, hbody⟩ : ∃ a trust',
      (compileArtifact .sampleEnforced "part" false).Yields {} a trust' ∧
      (a.body == "echo tpl_safe_lookup($_GET, 'q', 1);\necho 'a';\n") = true :=
    Step.exists_yields (by decide +kernel)
  obtain ⟨c, -⟩ := exists_compilation h
  exact ⟨rfl, a, trust', h, beq_iff_eq.1 hbody, c, _, _, _, rfl, List.mem_cons_self,
    Node.echoes_sampleSpecial _, Expr.not_enforced_special _ _ _⟩

end TagTemplate
