import TagTemplate.Proofs.Compile.Merger

namespace TagTemplate

variable {α : Type} {env : Environment} {merge : Option Include.Merger} {w : Work}
  {e : CompileError}

theorem Work.fails_withDraft {step : Step Draft α} :
    (Work.withDraft step).Fails w e ↔ step.Fails w.draft e :=
  Step.fails_within

theorem Work.fails_withPass {step : Step Pass α} :
    (Work.withPass step).Fails w e ↔ step.Fails w.pass e :=
  Step.fails_within

theorem Pass.fails_withTrust {step : Step TrustIndex α} {p : Pass} :
    (Pass.withTrust step).Fails p e ↔ step.Fails p.trust e :=
  Step.fails_within

theorem Draft.fails_withPlugins {step : Step Plugins α} {d : Draft} :
    (Draft.withPlugins step).Fails d e ↔ step.Fails d.plugins e :=
  Step.fails_within

/-! Tags -/

inductive Tag.Unprepared (env : Environment) (t : Tag) (plugins : Plugins) : CompileError → Prop
  | refused {e : CompileError} : env.rules.check .tag (dispatchName t.name) = .error e →
      Unprepared env t plugins e
  | unknown : env.rules.check .tag (dispatchName t.name) = .ok () →
      env.tags.find? (dispatchName t.name) = none →
      Unprepared env t plugins (Fault.unknownTag t.name)
  | argument {spec} {e : CompileError} : env.rules.check .tag (dispatchName t.name) = .ok () →
      env.tags.find? (dispatchName t.name) = some spec →
      (t.args.mapM (TagArg.compile env.rules)).Fails plugins e → Unprepared env t plugins e
  | unresolved {spec args plugins' cause} : env.rules.check .tag (dispatchName t.name) = .ok () →
      env.tags.find? (dispatchName t.name) = some spec →
      (t.args.mapM (TagArg.compile env.rules)).Yields plugins args plugins' →
      Attributes.resolve (spec.contract t.variant) args = .error cause →
      Unprepared env t plugins (Fault.attribute (dispatchName t.name) cause)

theorem Tag.fails_compile {t : Tag} :
    (t.compile env merge).Fails w e ↔
      t.Unprepared env w.draft.plugins e ∨
      ∃ spec attrs plugins, t.Prepared env spec attrs w.draft.plugins plugins ∧
        (spec.compile env merge (t.use env) attrs).Fails
          { w with draft := { w.draft with plugins } } e := by
  unfold Tag.compile
  simp only [Step.fails_bind, Step.fails_ofExcept, Step.yields_ofExcept]
  constructor
  · rintro (hrefused | ⟨⟨⟩, _, ⟨hallowed, rfl⟩, h⟩)
    · exact .inl (.refused hrefused)
    cases hspec : env.tags.find? (dispatchName t.name) with
    | none =>
      simp only [hspec, Step.fails_fail] at h
      exact h ▸ .inl (.unknown hallowed hspec)
    | some spec =>
      simp only [hspec, Step.fails_bind, Work.fails_withDraft, Draft.fails_withPlugins,
        Work.yields_withDraft, Draft.yields_withPlugins] at h
      obtain hargument | ⟨args, _, ⟨_, ⟨plugins, hargs, rfl⟩, rfl⟩, h⟩ := h
      · exact .inl (.argument hallowed hspec hargument)
      cases hattrs : Attributes.resolve (spec.contract t.variant) args with
      | error cause =>
        simp only [hattrs, Step.fails_fail] at h
        exact h ▸ .inl (.unresolved hallowed hspec hargs hattrs)
      | ok attrs =>
        simp only [hattrs, Step.fails_bind] at h
        refine .inr ⟨spec, attrs, plugins, ⟨hallowed, hspec, args, hargs, hattrs⟩, ?_⟩
        obtain h | ⟨code, w₁, -, h⟩ := h
        · exact h
        · split at h <;> simp at h
  · rintro (h | ⟨spec, attrs, plugins, ⟨hallowed, hspec, args, hargs, hattrs⟩, h⟩)
    · cases h with
      | refused hrefused => exact .inl hrefused
      | unknown hallowed hspec =>
        refine .inr ⟨(), w, ⟨hallowed, rfl⟩, ?_⟩
        simp only [hspec, Step.fails_fail]
      | argument hallowed hspec hargument =>
        refine .inr ⟨(), w, ⟨hallowed, rfl⟩, ?_⟩
        simp only [hspec, Step.fails_bind, Work.fails_withDraft, Draft.fails_withPlugins]
        exact .inl hargument
      | unresolved hallowed hspec hargs hattrs =>
        refine .inr ⟨(), w, ⟨hallowed, rfl⟩, ?_⟩
        simp only [hspec, Step.fails_bind, Work.yields_withDraft, Draft.yields_withPlugins]
        refine .inr ⟨_, _, ⟨_, ⟨_, hargs, rfl⟩, rfl⟩, ?_⟩
        simp only [hattrs, Step.fails_fail]
    · refine .inr ⟨(), w, ⟨hallowed, rfl⟩, ?_⟩
      simp only [hspec, Step.fails_bind, Work.yields_withDraft, Draft.yields_withPlugins]
      refine .inr ⟨args, _, ⟨_, ⟨plugins, hargs, rfl⟩, rfl⟩, ?_⟩
      simp only [hattrs, Step.fails_bind]
      exact .inl h

/-! Includes -/

theorem eq_error_of_bind_pure {α β ε : Type} {x : Except ε α} {f : α → β} {e : ε}
    (h : (x >>= fun a => pure (f a)) = .error e) : x = .error e := by
  cases x with
  | ok a => cases h
  | error e' =>
    cases h
    rfl

theorem exists_of_mapM_eq_error {α β ε : Type} {f : α → Except ε β} {as : List α} {e : ε}
    (h : as.mapM f = .error e) : ∃ a ∈ as, f a = .error e := by
  induction as with
  | nil => cases h
  | cons a as ih =>
    rw [List.mapM_cons] at h
    cases ha : f a with
    | error e' =>
      rw [ha] at h
      cases h
      exact ⟨a, List.mem_cons_self, ha⟩
    | ok b =>
      cases has : as.mapM f with
      | ok bs =>
        rw [ha, has] at h
        cases h
      | error e' =>
        rw [ha, has] at h
        cases h
        obtain ⟨a', hmem, ha'⟩ := ih has
        exact ⟨a', List.mem_cons_of_mem a hmem, ha'⟩

def Pass.enter (k : MergeKey) (p : Pass) : Pass :=
  { p.note (.merged k) with session := (p.session.reserve k).enter }

namespace Include

variable {u : TagUse} {attrs : Attributes} {file : String} {k : MergeKey}

theorem fails_compileTarget {merger : Merger} {s : Source} {inBlock : Bool} {p : Pass} :
    (compileTarget merger k s inBlock).Fails p e ↔ (merger s inBlock).Fails (p.enter k) e := by
  rw [compileTarget, Step.fails_modify_bind, Pass.nested_eq, Step.fails_within]
  rfl

theorem fails_mergeNew :
    (mergeNew env merge k).Fails w e ↔
      (env.locate k.template).Fails w.pass.trust e ∨
      ∃ s trust, (env.locate k.template).Yields w.pass.trust s trust ∧ isMergeable s = true ∧
        ((merge = none ∧ e = Fault.mergeDepth k.template env.config.maxInlineDepth) ∨
          ∃ merger, merge = some merger ∧
            (merger s w.draft.inBlock).Fails ({ w.pass with trust }.enter k) e) := by
  simp only [mergeNew, Step.fails_bind, Work.fails_withPass, Pass.fails_withTrust,
    Work.yields_withPass, Pass.yields_withTrust]
  refine or_congr_right ⟨?_, ?_⟩
  · rintro ⟨s, _, ⟨_, ⟨trust, hs, rfl⟩, rfl⟩, h⟩
    cases hm : isMergeable s with
    | false => simp [hm] at h
    | true =>
      refine ⟨s, trust, hs, hm, ?_⟩
      cases merge with
      | none => simpa [hm] using h
      | some merger =>
        refine .inr ⟨merger, rfl, ?_⟩
        simpa [hm, Work.fails_withPass, fails_compileTarget] using h
  · rintro ⟨s, trust, hs, hm, ⟨rfl, rfl⟩ | ⟨merger, rfl, h⟩⟩
    · refine ⟨s, _, ⟨_, ⟨trust, hs, rfl⟩, rfl⟩, ?_⟩
      simp [hm]
    · refine ⟨s, _, ⟨_, ⟨trust, hs, rfl⟩, rfl⟩, ?_⟩
      simpa [hm, Work.fails_withPass, fails_compileTarget] using h

def inliningError (u : TagUse) (reason : String) : CompileError :=
  .located (.inlining (reason ++ " not allowed within inheritance blocks")) u.line

theorem fails_target :
    (target env merge u attrs file).Fails w e ↔
      (isRequested env.config w.draft attrs = true ∧ w.draft.source.recompiled = false ∧
        isForced env.config w.draft = true ∧
        ∃ reason, obstacle file (attrs.code? "compile_id") = some reason ∧
          e = inliningError u reason) ∨
      (Eligible env w.draft attrs file ∧
        w.pass.session.function? (key file (attrs.code? "compile_id")) = none ∧
        (mergeNew env merge (key file (attrs.code? "compile_id"))).Fails w e) := by
  rw [target, Step.fails_get_bind]
  by_cases hreq : isRequested env.config w.draft attrs = true
  · cases hrec : w.draft.source.recompiled with
    | true =>
      have hel : ¬ Eligible env w.draft attrs file := fun h => by simp [h.kept] at hrec
      simp [hreq, hrec, hel]
    | false =>
      cases hobs : obstacle file (attrs.code? "compile_id") with
      | some reason =>
        have hel : ¬ Eligible env w.draft attrs file := fun h => by simp [h.literal] at hobs
        cases hforced : isForced env.config w.draft with
        | true => simp [hreq, hrec, hobs, hel, hforced, inliningError]
        | false => simp [hreq, hrec, hobs, hel, hforced]
      | none =>
        have hel : Eligible env w.draft attrs file := ⟨hreq, hrec, hobs⟩
        cases hf : w.pass.session.function? (key file (attrs.code? "compile_id")) with
        | none => simp [hreq, hrec, hobs, hel, hf]
        | some function => simp [hreq, hrec, hobs, hf]
  · have hel : ¬ Eligible env w.draft attrs file := fun h => hreq h.requested
    simp [hreq, hel]

theorem locals_eq_error {sc : Scope} (h : locals u attrs sc = .error e) :
    (attrs.extra.isEmpty = false ∧ sc ≠ .local ∧
      e = .located (.policy .scopedVariables "parent/root/global scope") u.line) ∨
    ∃ entry ∈ attrs.extra.entries, localCode u entry.1 entry.2 = .error e := by
  unfold locals at h
  split at h
  next => cases h
  next hothers =>
    split at h
    next hscope =>
      cases h
      exact .inl ⟨by simpa using hothers, hscope, rfl⟩
    next => exact .inr (exists_of_mapM_eq_error (eq_error_of_bind_pure h))

inductive Unreadable (u : TagUse) (attrs : Attributes) (e : CompileError) : Prop
  | file : u.require (attrs.requireCode "file") = .error e → Unreadable u attrs e
  | scope {file : String} : u.require (attrs.requireCode "file") = .ok file →
      scope u attrs = .error e → Unreadable u attrs e
  | vars {file : String} {sc : Scope} : u.require (attrs.requireCode "file") = .ok file →
      scope u attrs = .ok sc → locals u attrs sc = .error e → Unreadable u attrs e

theorem fails_compile :
    (compile env merge u attrs).Fails w e ↔
      Unreadable u attrs e ∨
      ∃ file vars sc, Reads u attrs file vars sc ∧ (target env merge u attrs file).Fails w e := by
  simp only [compile, Step.fails_bind, Step.fails_ofExcept, Step.yields_ofExcept]
  constructor
  · rintro (h | ⟨file, _, ⟨hfile, rfl⟩, h | ⟨sc, _, ⟨hsc, rfl⟩, h | ⟨vars, _, ⟨hvars, rfl⟩, h⟩⟩⟩)
    · exact .inl (.file h)
    · exact .inl (.scope hfile h)
    · exact .inl (.vars hfile hsc h)
    · refine .inr ⟨file, vars, sc, ⟨hfile, hsc, hvars⟩, ?_⟩
      obtain h | ⟨t, w₁, -, h | ⟨_, _, -, h⟩⟩ := h
      · exact h
      · exact absurd h Step.not_fails_modify
      · cases t with
        | none => exact absurd h Step.not_fails_pure
        | some t => simp at h
  · rintro (h | ⟨file, vars, sc, ⟨hfile, hsc, hvars⟩, h⟩)
    · cases h with
      | file h => exact .inl h
      | scope hfile h => exact .inr ⟨_, w, ⟨hfile, rfl⟩, .inl h⟩
      | vars hfile hsc h => exact .inr ⟨_, w, ⟨hfile, rfl⟩, .inr ⟨_, w, ⟨hsc, rfl⟩, .inl h⟩⟩
    · exact .inr ⟨file, w, ⟨hfile, rfl⟩, .inr ⟨sc, w, ⟨hsc, rfl⟩, .inr
        ⟨vars, w, ⟨hvars, rfl⟩, .inl h⟩⟩⟩

end Include

/-! Nodes -/

theorem Expr.fails_compilePrint {r : Rules} {value : Expr} {d : Draft} :
    (value.compilePrint r).Fails d e ↔
      value.checkEnforced r.config = .error e ∨
      value.checkEnforced r.config = .ok () ∧ (value.compile r).Fails d.plugins e := by
  simp only [compilePrint, Step.fails_bind, Step.fails_ofExcept, Step.yields_ofExcept,
    Draft.fails_withPlugins, Step.not_fails_modify, Step.not_fails_pure, and_false, exists_false,
    or_false]
  refine or_congr_right ⟨?_, ?_⟩
  · rintro ⟨⟨⟩, _, ⟨henforced, rfl⟩, h⟩
    exact ⟨henforced, h⟩
  · rintro ⟨henforced, h⟩
    exact ⟨(), d, ⟨henforced, rfl⟩, h⟩

theorem Node.not_fails_compile_text {content : String} :
    ¬ ((Node.text content).compile env merge).Fails w e :=
  Step.not_fails_pure

theorem Node.fails_compile_print {value : Expr} {line : Line} :
    ((Node.print value line).compile env merge).Fails w e ↔
      ∃ e', (value.compilePrint env.rules).Fails w.draft e' ∧ e = e'.atLine line := by
  simp only [Node.compile, Step.fails_bind, Step.fails_atLine, Work.fails_withDraft,
    Step.not_fails_pure, and_false, exists_false, or_false]

theorem Node.fails_compile_tag {t : Tag} :
    ((Node.tag t).compile env merge).Fails w e ↔
      ∃ e', (t.compile env merge).Fails w e' ∧ e = e'.atLine t.line := by
  simp only [Node.compile, Step.fails_bind, Step.fails_atLine, Step.not_fails_pure, and_false,
    exists_false, or_false]

/-! Templates that are merged -/

theorem mergerAt_eq_none_iff {depth : Nat} :
    mergerAt env depth = none ↔ env.config.maxInlineDepth.toNat ≤ depth := by
  obtain ⟨hdeep, hnone⟩ | ⟨hshallow, merger, hsome, -⟩ := mergerAt_cases env depth
  · exact iff_of_true hnone hdeep
  · exact iff_of_false (by simp [hsome]) (Nat.not_le.2 hshallow)

theorem run_mergerAt_iff {depth : Nat} {s : Source} {inBlock : Bool} {p : Pass}
    {outcome : Except CompileError Compiled × Pass} (hp : p.session.depth = depth + 1) :
    (∃ merger, mergerAt env depth = some merger ∧ (merger s inBlock).run p = outcome) ↔
      depth < env.config.maxInlineDepth.toNat ∧
        (compileTemplate env s inBlock).run p = outcome := by
  obtain ⟨hdeep, hnone⟩ | ⟨hshallow, merger, hsome, hrun⟩ := mergerAt_cases env depth
  · refine iff_of_false ?_ fun h => Nat.not_lt.2 hdeep h.1
    rintro ⟨merger, hmerger, -⟩
    cases hnone.symm.trans hmerger
  · rw [← hrun s inBlock p hp]
    constructor
    · rintro ⟨merger', hmerger, hout⟩
      cases hsome.symm.trans hmerger
      exact ⟨hshallow, hout⟩
    · exact fun h => ⟨merger, hsome, h.2⟩

inductive Tag.Finds (env : Environment) (t : Tag) (w : Work) (k : MergeKey) (s : Source)
    (trust : TrustIndex) : Prop
  | intro {spec attrs plugins file vars sc} :
      t.Prepared env spec attrs w.draft.plugins plugins → spec.action = .builtin .include →
      Include.Reads (t.use env) attrs file vars sc →
      Include.Fresh env { w with draft := { w.draft with plugins } } attrs file s trust →
      Include.key file (attrs.code? "compile_id") = k → Finds env t w k s trust

structure Tag.Enters (env : Environment) (t : Tag) (w : Work) (s : Source) (p : Pass) : Prop where
  found : ∃ k trust, t.Finds env w k s trust ∧ p = { w.pass with trust }.enter k
  shallow : w.pass.session.depth < env.config.maxInlineDepth.toNat

theorem Tag.Finds.fails {t : Tag} {k : MergeKey} {s : Source} {trust : TrustIndex}
    (h : t.Finds env w k s trust)
    (hs : (merge = none ∧ e = Fault.mergeDepth k.template env.config.maxInlineDepth) ∨
      ∃ merger, merge = some merger ∧
        (merger s w.draft.inBlock).Fails ({ w.pass with trust }.enter k) e) :
    ((Node.tag t).compile env merge).Fails w (e.atLine t.line) := by
  obtain @⟨spec, attrs, plugins, file, vars, sc, hprepared, hinclude, hreads, hfresh, rfl⟩ := h
  have hnew := Include.fails_mergeNew (w := { w with draft := { w.draft with plugins } }).2
    (.inr ⟨s, trust, hfresh.located, hfresh.mergeable, hs⟩)
  have htarget := Include.fails_target (u := t.use env).2
    (.inr ⟨hfresh.eligible, hfresh.unrecorded, hnew⟩)
  have hcompile := Include.fails_compile.2 (.inr ⟨file, vars, sc, hreads, htarget⟩)
  refine Node.fails_compile_tag.2
    ⟨e, Tag.fails_compile.2 (.inr ⟨spec, attrs, plugins, hprepared, ?_⟩), rfl⟩
  rw [TagSpec.compile, hinclude]
  exact hcompile

theorem Tag.Finds.fails_of_deep {t : Tag} {k : MergeKey} {s : Source} {trust : TrustIndex}
    (h : t.Finds env w k s trust)
    (hdeep : env.config.maxInlineDepth.toNat ≤ w.pass.session.depth) :
    ((Node.tag t).compile env (mergerAt env w.pass.session.depth)).Fails w
      (Fault.mergeDepth k.template env.config.maxInlineDepth) :=
  h.fails (.inl ⟨mergerAt_eq_none_iff.2 hdeep, rfl⟩)

/-- Where the template fails, the include that merges it fails alike, at its own line if no other is
known. -/
theorem Tag.Enters.fails {t : Tag} {s : Source} {p : Pass} (h : t.Enters env w s p)
    (hs : (compileTemplate env s w.draft.inBlock).Fails p e) :
    ((Node.tag t).compile env (mergerAt env w.pass.session.depth)).Fails w (e.atLine t.line) := by
  obtain ⟨k, trust, hfinds, rfl⟩ := h.found
  obtain ⟨q, hq⟩ := hs
  obtain ⟨merger, hsome, hrun⟩ := (run_mergerAt_iff rfl).2 ⟨h.shallow, hq⟩
  exact hfinds.fails (.inr ⟨merger, hsome, q, hrun⟩)

/-! Templates -/

def Block.unclosedError (b : Block) : CompileError :=
  .located (.nesting b.kind.tag .unclosed) b.line

theorem Draft.checkClosed_eq_error {d : Draft} :
    d.checkClosed = .error e ↔ ∃ b rest, d.blocks = b :: rest ∧ e = b.unclosedError := by
  unfold checkClosed
  split
  next hblocks => simp [hblocks]
  next b rest hblocks => simp [hblocks, Block.unclosedError, eq_comm]

inductive FailsAmong (env : Environment) (merge : Option Include.Merger) (nodes : List Node)
    (w : Work) (e : CompileError) : Prop
  | node {before n after pieces w'} : nodes = before ++ n :: after →
      (before.mapM (Node.compile env merge)).Yields w pieces w' →
      (n.compile env merge).Fails w' e → FailsAmong env merge nodes w e
  | unclosed {pieces w' b rest} : (nodes.mapM (Node.compile env merge)).Yields w pieces w' →
      w'.draft.blocks = b :: rest → e = b.unclosedError → FailsAmong env merge nodes w e

theorem fails_compileNodes {nodes : List Node} :
    (compileNodes env merge nodes).Fails w e ↔ FailsAmong env merge nodes w e := by
  have hnodes : (compileNodes env merge nodes).Fails w e ↔
      (nodes.mapM (Node.compile env merge)).Fails w e ∨
      ∃ pieces w', (nodes.mapM (Node.compile env merge)).Yields w pieces w' ∧
        w'.draft.checkClosed = .error e := by
    simp [compileNodes]
  simp only [hnodes, Draft.checkClosed_eq_error]
  constructor
  · rintro (h | ⟨pieces, w', hpieces, b, rest, hblocks, he⟩)
    · obtain ⟨before, n, after, pieces, w', hnodes, hbefore, h⟩ := Step.fails_mapM_iff.1 h
      exact .node hnodes hbefore h
    · exact .unclosed hpieces hblocks he
  · intro h
    cases h with
    | node hnodes hbefore h =>
      exact .inl (Step.fails_mapM_iff.2 ⟨_, _, _, _, _, hnodes, hbefore, h⟩)
    | unclosed hpieces hblocks he => exact .inr ⟨_, _, hpieces, _, _, hblocks, he⟩

theorem fails_compileTemplate {s : Source} {inBlock : Bool} {p : Pass} :
    (compileTemplate env s inBlock).Fails p e ↔
      env.parse s = .error e ∨
      ∃ nodes, env.parse s = .ok nodes ∧ FailsAmong env (mergerAt env p.session.depth) nodes
        ⟨Draft.start s inBlock, p.begin s⟩ e := by
  rw [Step.Fails, run_compileTemplate]
  change (compileSource env (mergerAt env p.session.depth) s inBlock).Fails p e ↔ _
  rw [compileSource_eq, Step.fails_modify_bind]
  simp only [Step.fails_bind, Step.fails_ofExcept, Step.yields_ofExcept, Step.fails_within,
    fails_compileNodes]
  refine or_congr_right ⟨?_, ?_⟩
  · rintro ⟨nodes, _, ⟨hparse, rfl⟩, h⟩
    exact ⟨nodes, hparse, h⟩
  · rintro ⟨nodes, hparse, h⟩
    exact ⟨nodes, _, ⟨hparse, rfl⟩, h⟩

theorem fails_compileArtifact {name : String} {inBlock : Bool} {trust : TrustIndex} :
    (compileArtifact env name inBlock).Fails trust e ↔
      (resolveEntry env name).Fails trust e ∨
      ∃ s entryTrust, (resolveEntry env name).Yields trust s entryTrust ∧
        (compileTemplate env s inBlock).Fails { trust := entryTrust } e := by
  simp [compileArtifact_eq]

end TagTemplate
