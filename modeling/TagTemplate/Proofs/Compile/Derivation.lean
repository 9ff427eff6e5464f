import TagTemplate.Proofs.Compile.Merger

namespace TagTemplate

variable {α : Type} {env : Environment} {w w' : Work}

theorem Include.Asks.of_none {x : Option Merger → Step Work α} (h : Asks env x w) {a : α}
    (hx : (x none).Yields w a w') (merge : Option Merger) : (x merge).Yields w a w' := by
  cases h with
  | never outcome hall _ => exact (hall merge).trans ((hall none).symm.trans hx)
  | once k s inBlock p e w₀ finish _ _ _ hnone _ _ _ _ => cases hnone.symm.trans hx

theorem Merging.yields_compile {t : Tag} (m : Merging env t w) {c : Compiled} {p : Pass}
    (h : (compileTemplate env m.source w.draft.inBlock).Yields m.entered c p) :
    ((Node.tag t).compile env (mergerAt env w.pass.session.depth)).Yields w m.piece
      (m.finish c p) := by
  obtain ⟨hlimit, -⟩ | ⟨-, merger, hsome, hrun⟩ := mergerAt_cases env w.pass.session.depth
  · exact absurd m.shallow (Nat.not_lt.2 hlimit)
  have hmerger : (merger m.source w.draft.inBlock).Yields m.entered c p :=
    (hrun m.source w.draft.inBlock m.entered rfl).trans h
  have htarget : (Include.compileTarget merger m.key m.source w.draft.inBlock).Yields
      { w.pass with trust := m.trust } c { p with session := p.session.leave } :=
    Include.yields_compileTarget.2 ⟨p, hmerger, rfl⟩
  let w₀ : Work := { w with draft := { w.draft with plugins := m.plugins } }
  have hnew := (Include.yields_mergeNew (w := w₀)).2 ⟨m.source, m.trust, m.located,
    .inr ⟨m.mergeable, merger, c, _, rfl, htarget, rfl, rfl⟩⟩
  have heligible : Include.Eligible env w₀.draft m.attrs m.file :=
    ⟨m.eligible.requested, m.eligible.kept, m.eligible.literal⟩
  have hfound := (Include.yields_target (u := t.use env)).2
    (.inr ⟨heligible, .inr ⟨m.unrecorded, hnew⟩⟩)
  have hinclude := Include.yields_compile.2 ⟨m.file, m.vars, m.scope, _, _, m.reads, hfound, rfl,
    rfl⟩
  have hspec : (m.spec.compile env (some merger) (t.use env) m.attrs).Yields
      { w with draft := { w.draft with plugins := m.plugins } } m.code (m.finish c p) := by
    rw [TagSpec.compile, m.isInclude]
    exact hinclude
  rw [hsome]
  refine Node.yields_compile_tag.2 ⟨_, Tag.yields_compile.2 ⟨m.spec, m.attrs, m.plugins, m.code,
    m.finish c p, m.prepared, hspec, rfl, ?_⟩, rfl⟩
  exact (Work.markedBy_of_hasCode rfl _).symm

theorem Run.yields_mapM {nodes : List Node} {pieces : List Piece} (h : Run env nodes w pieces w') :
    (nodes.mapM (Node.compile env (mergerAt env w.pass.session.depth))).Yields w pieces w' := by
  induction h with
  | nil => exact Step.yields_mapM_nil.2 ⟨rfl, rfl⟩
  | @plain n ns w piece w₁ pieces w' hn _ ih =>
    rw [(Node.pass_compile hn).session] at ih
    exact Step.yields_mapM_cons.2 ⟨piece, w₁, pieces, (n.asks_compile w).of_none hn _, ih, rfl⟩
  | @merge t ns w inner w₁ pieces w' m hcompiled hinner _ _ _ ih =>
    have hdepth : (m.finish (w₁.draft.compiled inner) w₁.pass).pass.session.depth =
        w.pass.session.depth := by
      change w₁.pass.session.depth - 1 = _
      rw [hinner.depth]
      exact Nat.add_sub_cancel w.pass.session.depth 1
    rw [hdepth] at ih
    exact Step.yields_mapM_cons.2 ⟨m.piece, _, pieces, m.yields_compile hcompiled, ih, rfl⟩

theorem yields_compileTemplate {s : Source} {inBlock : Bool} {p p' : Pass} {c : Compiled} :
    (compileTemplate env s inBlock).Yields p c p' ↔ Compiles env s inBlock p c p' := by
  constructor
  · exact compiles_of_compileTemplate
  · rintro ⟨nodes, pieces, w, hparse, hrun, hclosed, rfl, rfl⟩
    rw [Step.Yields, run_compileTemplate]
    exact yields_compileSource.2 ⟨nodes, w, hparse,
      yields_compileNodes.2 ⟨pieces, hrun.yields_mapM, hclosed, rfl⟩, rfl⟩

end TagTemplate
