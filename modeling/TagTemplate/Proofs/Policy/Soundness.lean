import TagTemplate.Proofs.Compile.Run
import TagTemplate.Proofs.Policy.Grant
import TagTemplate.Proofs.Policy.Place
import TagTemplate.Proofs.Registry

namespace TagTemplate

variable {env : Environment} {p : Policy} {held : Holdings}

theorem Special.allowed_of_compileTag {u : TagUse} {attrs : Attributes} {d d' : Draft}
    {code : String} (h : (compileTag u attrs).Yields d code d') :
    ∃ var, attrs.requireCode "var" = .ok var ∧ Allowed u.rules ((Text.unquote var).getD var) := by
  obtain ⟨var, hvar, hcode, -⟩ := yields_compileTag h
  exact ⟨var, hvar, allowed_of_compile hcode⟩

theorem Tag.Prepared.exprs_granted {t : Tag} {spec : TagSpec} {attrs : Attributes}
    {plugins plugins' : Plugins} (h : t.Prepared env spec attrs plugins plugins') :
    ∀ e ∈ (Node.tag t).exprs, e.Granted env.rules := by
  obtain ⟨args, hargs, -⟩ := h.resolved
  intro e he
  obtain ⟨a, ha, he⟩ := List.mem_flatMap.1 he
  exact Step.forall_of_yields_mapM TagArg.granted_of_compile hargs a ha e he

theorem Tag.allowed_of_compile {t : Tag} {w w' : Work} {code : String}
    (htags : env.tags = Registry.builtin) (h : (t.compile env none).Yields w code w') :
    t.Allowed env.rules := by
  obtain ⟨spec, attrs, plugins, fragment, w₁, hprepared, hspec, -, -⟩ := Tag.yields_compile.1 h
  refine ⟨hprepared.allowed, fun hname => ?_⟩
  obtain ⟨args, hargs, hattrs⟩ := hprepared.resolved
  rw [hprepared.eq_special htags hname] at hspec hattrs
  change (Work.withDraft (Special.compileTag (t.use env) attrs)).Yields _ fragment w₁ at hspec
  obtain ⟨d, hd, -⟩ := Work.yields_withDraft.1 hspec
  obtain ⟨var, hvar, hallowed⟩ := Special.allowed_of_compileTag hd
  exact ⟨_, ⟨args, attrs, var, TagArg.yields_mapM_compile hargs, hattrs, hvar, rfl⟩, hallowed⟩

theorem Node.granted_of_compile {n : Node} {w w' : Work} {piece : Piece}
    (htags : env.tags = Registry.builtin) (h : (n.compile env none).Yields w piece w') :
    n.Granted env.rules := by
  cases n with
  | text content => exact ⟨nofun, nofun⟩
  | print value line =>
    obtain ⟨code, d, hd, -, -⟩ := Node.yields_compile_print.1 h
    simp only [Expr.compilePrint, Step.yields_bind, Draft.yields_withPlugins] at hd
    obtain ⟨_, _, -, code, _, ⟨plugins, hvalue, -⟩, -⟩ := hd
    exact ⟨nofun, by simpa [exprs] using Expr.granted_of_compile value hvalue⟩
  | tag t =>
    obtain ⟨code, ht, -⟩ := Node.yields_compile_tag.1 h
    obtain ⟨spec, attrs, plugins, fragment, w₁, hprepared, -⟩ := Tag.yields_compile.1 ht
    refine ⟨fun t' heq => ?_, hprepared.exprs_granted⟩
    cases heq
    exact Tag.allowed_of_compile htags ht

theorem Merging.granted {t : Tag} {w : Work} (m : Merging env t w)
    (htags : env.tags = Registry.builtin) : (Node.tag t).Granted env.rules := by
  refine ⟨fun t' heq => ?_, m.prepared.exprs_granted⟩
  cases heq
  exact ⟨m.prepared.allowed, fun hname => absurd hname (m.name_ne_special htags)⟩

theorem Run.nodes_granted {nodes : List Node} {w w' : Work} {pieces : List Piece}
    (htags : env.tags = Registry.builtin) (h : Run env nodes w pieces w') :
    ∀ n ∈ nodes, n.Granted env.rules := by
  induction h with
  | nil => nofun
  | plain hn _ ih =>
    rw [List.forall_mem_cons]
    exact ⟨Node.granted_of_compile htags hn, ih⟩
  | merge m _ _ _ _ _ ih =>
    rw [List.forall_mem_cons]
    exact ⟨m.granted htags, ih⟩

theorem PlainPass.valid {piece : Piece} {q q' : Pass} (henv : env.Agrees held)
    (hl : env.loader.Keeps env.canonical held) (h : PlainPass env piece q q')
    (hq : q.trust.Valid env.canonical held) : q'.trust.Valid env.canonical held := by
  cases h with
  | same => exact hq
  | declined hs => exact (Environment.yields_locate henv hl hq hs).2
  | called _ _ => exact hq

theorem Run.valid {nodes : List Node} {w w' : Work} {pieces : List Piece}
    (henv : env.Agrees held) (hl : env.loader.Keeps env.canonical held)
    (h : Run env nodes w pieces w') (hw : w.pass.trust.Valid env.canonical held) :
    w'.pass.trust.Valid env.canonical held := by
  induction h with
  | nil => exact hw
  | plain hn _ ih => exact ih ((Node.pass_compile hn).valid henv hl hw)
  | merge m _ _ _ _ ihInner ihRest =>
    exact ihRest (ihInner (Environment.yields_locate henv hl hw m.located).2)

/-- The policy grants all nodes of the source, and its place as a fresh policy judges it. -/
structure Source.Granted (env : Environment) (p : Policy) (s : Source) : Prop where
  nodes : ∃ nodes, env.parse s = .ok nodes ∧ ∀ n ∈ nodes, n.Granted env.rules
  place : ∀ path ∈ s.path,
    (TrustIndex.checkFile env.canonical (env.roots p) (env.canonical path) {}).1 = .ok ()

theorem Source.granted_of_run {s : Source} {nodes : List Node} {w w' : Work} {pieces : List Piece}
    (htags : env.tags = Registry.builtin) (hp : env.policy = some p) (henv : env.Agrees held)
    (hs : env.Trusts s) (hparse : env.parse s = .ok nodes) (h : Run env nodes w pieces w') :
    s.Granted env p := by
  refine ⟨⟨nodes, hparse, h.nodes_granted htags⟩, fun path hpath => ?_⟩
  have hcover := hs p hp path hpath
  have hempty : TrustIndex.Valid env.canonical held {} := TrustIndex.valid_empty
  rw [hempty.checkFile_fst (henv.roots hp) (env.canonical path), if_pos hcover]

theorem Run.sources_granted {nodes : List Node} {w w' : Work} {pieces : List Piece}
    (htags : env.tags = Registry.builtin) (hp : env.policy = some p) (henv : env.Agrees held)
    (hl : env.loader.Keeps env.canonical held) (h : Run env nodes w pieces w')
    (hw : w.pass.trust.Valid env.canonical held) {s : Source} {depth : Nat}
    (hs : .compiled s depth ∈ w'.pass.trace) :
    .compiled s depth ∈ w.pass.trace ∨ s.Granted env p := by
  induction h with
  | nil => exact .inl hs
  | plain hn _ ih =>
    have hpass := Node.pass_compile hn
    exact (ih (hpass.valid henv hl hw) hs).imp_left fun hmem => hpass.mem_trace hmem nofun
  | @merge t ns w inner w₁ pieces w' m _ hinner _ _ ihInner ihRest =>
    -- the source was found in a trusted place before its own run began
    obtain ⟨htrusts, hvalid⟩ := Environment.yields_locate henv hl hw m.located
    have hstart : m.start.pass.trust.Valid env.canonical held := hvalid
    have hinnerValid := hinner.valid henv hl hstart
    obtain hfinish | hgranted := ihRest hinnerValid hs
    · have hmem : .compiled s depth ∈ w₁.pass.trace := by
        simpa [Merging.finish] using hfinish
      obtain hbefore | hgranted := ihInner hstart hmem
      · rcases List.mem_cons.1 hbefore with heq | hentered
        · cases heq
          exact .inr (Source.granted_of_run htags hp henv htrusts m.parsed hinner)
        · exact .inl (by simpa [Merging.entered] using hentered)
      · exact .inr hgranted
    · exact .inr hgranted

theorem Run.merged_compiled {nodes : List Node} {w w' : Work} {pieces : List Piece}
    (h : Run env nodes w pieces w') {k : MergeKey} (hk : .merged k ∈ w'.pass.trace) :
    .merged k ∈ w.pass.trace ∨ ∃ s c depth, .completed k s c ∈ w'.pass.trace ∧
      .compiled s depth ∈ w'.pass.trace := by
  induction h with
  | nil => exact .inl hk
  | plain hn _ ih =>
    exact (ih hk).imp_left fun hmem => (Node.pass_compile hn).mem_trace hmem nofun
  | @merge t ns w inner w₁ pieces w' m _ hinner _ hrest ihInner ihRest =>
    obtain hfinish | hcompiled := ihRest hk
    · have hmem : .merged k ∈ w₁.pass.trace := by
        simpa [Merging.finish] using hfinish
      have hlater : w₁.pass.trace ⊆ w'.pass.trace := fun e he =>
        hrest.trace_suffix.subset (List.mem_cons_of_mem _ (List.mem_cons_of_mem _ he))
      obtain hbefore | ⟨s, c, depth, hcompleted, hcompiled⟩ := ihInner hmem
      · rcases List.mem_cons.1 hbefore with heq | hentered
        · cases heq
        · rcases List.mem_cons.1 hentered with heq | hbefore
          · cases heq
            refine .inr ⟨m.source, w₁.draft.compiled inner, _, hrest.trace_suffix.subset ?_,
              hlater (hinner.trace_suffix.subset List.mem_cons_self)⟩
            exact List.mem_cons_of_mem _ List.mem_cons_self
          · exact .inl hbefore
      · exact .inr ⟨s, c, depth, hlater hcompleted, hlater hcompiled⟩
    · exact .inr hcompiled

/-- If a compilation under a policy succeeds, the policy has granted the template and every template
merged into it: each tag, each name in an expression, and the place of each file. The index may be
any that a policy comes to have, since histories keep indices valid (`LivePolicy.valid_run`). -/
theorem compileArtifact_granted {name : String} {inBlock : Bool} {trust trust' : TrustIndex}
    {a : Artifact} (htags : env.tags = Registry.builtin) (hp : env.policy = some p)
    (henv : env.Agrees held) (hl : env.loader.Keeps env.canonical held)
    (htrust : trust.Valid env.canonical held)
    (h : (compileArtifact env name inBlock).Yields trust a trust') :
    ∃ c : Compilation env name inBlock trust a,
      .compiled c.source 0 ∈ c.pass.trace ∧
      (∀ k, .merged k ∈ c.pass.trace → ∃ s r depth, .completed k s r ∈ c.pass.trace ∧
        .compiled s depth ∈ c.pass.trace) ∧
      ∀ s depth, .compiled s depth ∈ c.pass.trace → s.Granted env p := by
  obtain ⟨c, -⟩ := exists_compilation h
  refine ⟨c, ?_⟩
  obtain ⟨htrusts, hvalid⟩ := Environment.yields_resolveEntry henv hl htrust c.resolved
  obtain ⟨nodes, pieces, w, hparse, hrun, -, -, hpass⟩ := compiles_of_compileTemplate c.compiled
  rw [hpass]
  refine ⟨hrun.trace_suffix.subset List.mem_cons_self, fun k hk => ?_, fun s depth hs => ?_⟩
  · obtain hstart | hcompiled := hrun.merged_compiled hk
    · simp [Pass.begin, Pass.note] at hstart
    · exact hcompiled
  · obtain hstart | hgranted := hrun.sources_granted htags hp henv hl hvalid hs
    · obtain ⟨rfl, -⟩ : s = c.source ∧ depth = 0 := by
        simpa [Pass.begin, Pass.note] using hstart
      exact Source.granted_of_run htags hp henv htrusts hparse hrun
    · exact hgranted

theorem compileArtifact_granted_sample :
    ∃ a trust', (compileArtifact (.sample (some {})) "main" false).Yields {} a trust' ∧
      a.functions.keys.length = 1 ∧ ∃ c : Compilation (.sample (some {})) "main" false {} a,
        .compiled c.source 0 ∈ c.pass.trace ∧
        (∀ k, .merged k ∈ c.pass.trace → ∃ s r depth, .completed k s r ∈ c.pass.trace ∧
          .compiled s depth ∈ c.pass.trace) ∧
        ∀ s depth, .compiled s depth ∈ c.pass.trace → s.Granted (.sample (some {})) {} := by
  obtain ⟨a, trust', h, hlength⟩ : ∃ a trust',
      (compileArtifact (.sample (some {})) "main" false).Yields {} a trust' ∧
      (a.functions.keys.length == 1) = true :=
    Step.exists_yields (by decide +kernel)
  have hagrees : (Environment.sample (some {})).Agrees sampleHoldings :=
    Environment.agrees_sample (by simp)
  refine ⟨a, trust', h, beq_iff_eq.1 hlength, ?_⟩
  exact compileArtifact_granted rfl rfl hagrees (Environment.keeps_loader_sample _)
    TrustIndex.valid_empty h

end TagTemplate
