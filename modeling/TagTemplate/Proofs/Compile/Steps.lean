import TagTemplate.Artifact
import TagTemplate.Proofs.Step

namespace TagTemplate

variable {α : Type} {env : Environment} {merge : Option Include.Merger}

theorem Work.yields_withDraft {step : Step Draft α} {w w' : Work} {a : α} :
    (Work.withDraft step).Yields w a w' ↔
      ∃ d, step.Yields w.draft a d ∧ w' = { w with draft := d } :=
  Step.yields_within

theorem Work.yields_withPass {step : Step Pass α} {w w' : Work} {a : α} :
    (Work.withPass step).Yields w a w' ↔
      ∃ p, step.Yields w.pass a p ∧ w' = { w with pass := p } :=
  Step.yields_within

theorem Pass.yields_withTrust {step : Step TrustIndex α} {p p' : Pass} {a : α} :
    (Pass.withTrust step).Yields p a p' ↔
      ∃ trust, step.Yields p.trust a trust ∧ p' = { p with trust } :=
  Step.yields_within

theorem Draft.yields_withPlugins {step : Step Plugins α} {d d' : Draft} {a : α} :
    (Draft.withPlugins step).Yields d a d' ↔
      ∃ plugins, step.Yields d.plugins a plugins ∧ d' = { d with plugins } :=
  Step.yields_within

theorem Pass.nested_eq (step : Step Pass α) :
    Pass.nested step = Step.within (fun p => { p with session := p.session.enter })
      (fun _ q => { q with session := q.session.leave }) step :=
  rfl

theorem Pass.yields_nested {step : Step Pass α} {p p' : Pass} {a : α} :
    (Pass.nested step).Yields p a p' ↔
      ∃ q, step.Yields { p with session := p.session.enter } a q ∧
        p' = { q with session := q.session.leave } :=
  Pass.nested_eq step ▸ Step.yields_within

/-! Tags -/

def Tag.use (env : Environment) (t : Tag) : TagUse :=
  ⟨env.rules, dispatchName t.name, t.line, t.variant⟩

theorem TagUse.require_eq_ok {u : TagUse} {x : Except AttributeError α} {a : α}
    (h : u.require x = .ok a) : x = .ok a := by
  cases x with
  | ok b => exact congrArg Except.ok (Except.ok.inj h)
  | error e => cases h

theorem TagUse.require_bind_eq_ok {β : Type} {u : TagUse} {x : Except AttributeError α}
    {f : α → Except CompileError β} {b : β} (h : (u.require x >>= f) = .ok b) :
    ∃ a, x = .ok a ∧ f a = .ok b := by
  cases x with
  | ok a => exact ⟨a, rfl, h⟩
  | error e => cases h

structure Tag.Prepared (env : Environment) (t : Tag) (spec : TagSpec) (attrs : Attributes)
    (plugins plugins' : Plugins) : Prop where
  allowed : env.rules.check .tag (dispatchName t.name) = .ok ()
  known : env.tags.find? (dispatchName t.name) = some spec
  resolved : ∃ args, (t.args.mapM (TagArg.compile env.rules)).Yields plugins args plugins' ∧
    Attributes.resolve (spec.contract t.variant) args = .ok attrs

def Work.markedBy (code : String) (w : Work) : Work :=
  if code.isEmpty then w else { w with draft := w.draft.marked }

theorem Tag.yields_compile {t : Tag} {w w' : Work} {code : String} :
    (t.compile env merge).Yields w code w' ↔
      ∃ spec attrs plugins fragment w₁, t.Prepared env spec attrs w.draft.plugins plugins ∧
        (spec.compile env merge (t.use env) attrs).Yields
          { w with draft := { w.draft with plugins } } fragment w₁ ∧
        code = spec.output.emit fragment ∧ w' = w₁.markedBy fragment := by
  unfold Tag.compile
  simp only [Step.yields_bind, Step.yields_ofExcept]
  constructor
  · rintro ⟨⟨⟩, _, ⟨hallowed, rfl⟩, h⟩
    cases hspec : env.tags.find? (dispatchName t.name) with
    | none => simp [hspec] at h
    | some spec =>
      simp only [hspec, Step.yields_bind, Work.yields_withDraft, Draft.yields_withPlugins] at h
      obtain ⟨args, _, ⟨_, ⟨plugins, hargs, rfl⟩, rfl⟩, h⟩ := h
      cases hattrs : Attributes.resolve (spec.contract t.variant) args with
      | error e => simp [hattrs] at h
      | ok attrs =>
        simp only [hattrs, Step.yields_bind] at h
        obtain ⟨fragment, w₁, hfragment, h⟩ := h
        refine ⟨spec, attrs, plugins, fragment, w₁, ⟨hallowed, hspec, args, hargs, hattrs⟩,
          hfragment, ?_⟩
        unfold Work.markedBy
        split at h <;> simp_all
  · rintro ⟨spec, attrs, plugins, fragment, w₁, ⟨hallowed, hspec, args, hargs, hattrs⟩, hfragment,
      rfl, rfl⟩
    refine ⟨(), w, ⟨hallowed, rfl⟩, ?_⟩
    simp only [hspec, Step.yields_bind, Work.yields_withDraft, Draft.yields_withPlugins]
    refine ⟨args, _, ⟨_, ⟨plugins, hargs, rfl⟩, rfl⟩, ?_⟩
    simp only [hattrs, Step.yields_bind]
    refine ⟨fragment, w₁, hfragment, ?_⟩
    unfold Work.markedBy
    split <;> simp

theorem Special.yields_compileTag {u : TagUse} {attrs : Attributes} {d d' : Draft} {code : String}
    (h : (compileTag u attrs).Yields d code d') :
    ∃ var, attrs.requireCode "var" = .ok var ∧
      compile u.rules ((Text.unquote var).getD var) (attrs.code? "member") = .ok code ∧
      d' = d.marked := by
  simp only [compileTag, Step.yields_bind, Step.yields_ofExcept, Step.yields_modify,
    Step.yields_pure] at h
  obtain ⟨var, _, ⟨hvar, rfl⟩, _, _, ⟨hcode, rfl⟩, _, _, rfl, rfl, rfl⟩ := h
  exact ⟨var, TagUse.require_eq_ok hvar, hcode, rfl⟩

/-! Includes -/

namespace Include

variable {u : TagUse} {attrs : Attributes} {file : String} {k : MergeKey} {w w' : Work}

structure Eligible (env : Environment) (d : Draft) (attrs : Attributes) (file : String) :
    Prop where
  requested : isRequested env.config d attrs = true
  kept : d.source.recompiled = false
  literal : obstacle file (attrs.code? "compile_id") = none

theorem yields_compileTarget {merger : Merger} {s : Source} {inBlock : Bool} {p p' : Pass}
    {c : Compiled} :
    (compileTarget merger k s inBlock).Yields p c p' ↔
      ∃ q, (merger s inBlock).Yields
          { p.note (.merged k) with session := (p.session.reserve k).enter } c q ∧
        p' = { q with session := q.session.leave } := by
  simp only [compileTarget, Step.yields_bind, Step.yields_modify, Pass.yields_nested]
  constructor
  · rintro ⟨_, _, rfl, q, hq, rfl⟩
    exact ⟨q, hq, rfl⟩
  · rintro ⟨q, hq, rfl⟩
    exact ⟨(), _, rfl, q, hq, rfl⟩

theorem yields_mergeNew {target : Option Target} :
    (mergeNew env merge k).Yields w target w' ↔
      ∃ s trust, (env.locate k.template).Yields w.pass.trust s trust ∧
        (isMergeable s = false ∧ target = none ∧ w' = { w with pass := { w.pass with trust } } ∨
        isMergeable s = true ∧ ∃ merger c p, merge = some merger ∧
          (compileTarget merger k s w.draft.inBlock).Yields { w.pass with trust } c p ∧
          target = some ⟨k.template, k.function⟩ ∧
          w' = ⟨w.draft.absorb c,
            { p.note (.completed k s c) with session := p.session.complete k c.body }⟩) := by
  simp only [mergeNew, Step.yields_bind, Work.yields_withPass, Pass.yields_withTrust]
  constructor
  · rintro ⟨s, _, ⟨_, ⟨trust, hs, rfl⟩, rfl⟩, h⟩
    refine ⟨s, trust, hs, ?_⟩
    cases hm : isMergeable s with
    | false =>
      simp only [hm, Bool.not_false, if_true, Step.yields_pure] at h
      exact .inl ⟨rfl, h⟩
    | true =>
      cases merge with
      | none => simp [hm] at h
      | some merger =>
        simp only [hm, Bool.not_true, Bool.false_eq_true, if_false, Step.yields_bind,
          Step.yields_get, Work.yields_withPass, Step.yields_modify, Step.yields_pure] at h
        obtain ⟨_, _, ⟨rfl, rfl⟩, c, _, ⟨p, hp, rfl⟩, _, _, rfl, rfl, rfl⟩ := h
        exact .inr ⟨rfl, merger, c, p, rfl, hp, rfl, rfl⟩
  · rintro ⟨s, trust, hs, ⟨hm, rfl, rfl⟩ | ⟨hm, merger, c, p, rfl, hp, rfl, rfl⟩⟩
    · refine ⟨s, _, ⟨_, ⟨trust, hs, rfl⟩, rfl⟩, ?_⟩
      simp [hm]
    · refine ⟨s, _, ⟨_, ⟨trust, hs, rfl⟩, rfl⟩, ?_⟩
      simp only [hm, Bool.not_true, Bool.false_eq_true, if_false, Step.yields_bind,
        Step.yields_get, Work.yields_withPass, Step.yields_modify, Step.yields_pure]
      exact ⟨_, _, ⟨rfl, rfl⟩, c, _, ⟨p, hp, rfl⟩, (), _, rfl, trivial, rfl⟩

theorem yields_target {target' : Option Target} :
    (target env merge u attrs file).Yields w target' w' ↔
      (¬ Eligible env w.draft attrs file ∧
        (isRequested env.config w.draft attrs = true → w.draft.source.recompiled = false →
          isForced env.config w.draft = false) ∧
        target' = none ∧ w' = w) ∨
      (Eligible env w.draft attrs file ∧
        ((∃ function,
            w.pass.session.function? (key file (attrs.code? "compile_id")) = some function ∧
            target' = some ⟨(key file (attrs.code? "compile_id")).template, function⟩ ∧ w' = w) ∨
          w.pass.session.function? (key file (attrs.code? "compile_id")) = none ∧
            (mergeNew env merge (key file (attrs.code? "compile_id"))).Yields w target' w')) := by
  rw [target, Step.yields_get_bind]
  by_cases hreq : isRequested env.config w.draft attrs = true
  · cases hrec : w.draft.source.recompiled with
    | true =>
      have hel : ¬ Eligible env w.draft attrs file := fun h => by simp [h.kept] at hrec
      simp [hreq, hrec, hel]
    | false =>
      cases hobs : obstacle file (attrs.code? "compile_id") with
      | some reason =>
        have hel : ¬ Eligible env w.draft attrs file := fun h => by simp [h.literal] at hobs
        cases hforced : isForced env.config w.draft with
        | true => simp [hreq, hrec, hobs, hel, hforced]
        | false => simp [hreq, hrec, hobs, hel, hforced]
      | none =>
        have hel : Eligible env w.draft attrs file := ⟨hreq, hrec, hobs⟩
        cases hf : w.pass.session.function? (key file (attrs.code? "compile_id")) with
        | none => simp [hreq, hrec, hobs, hel, hf]
        | some function => simp [hreq, hrec, hobs, hel, hf]
  · have hel : ¬ Eligible env w.draft attrs file := fun h => hreq h.requested
    simp [hreq, hel]

structure Reads (u : TagUse) (attrs : Attributes) (file vars : String) (sc : Scope) : Prop where
  file : u.require (attrs.requireCode "file") = .ok file
  scope : scope u attrs = .ok sc
  vars : locals u attrs sc = .ok vars

def codeFor (attrs : Attributes) (file vars : String) (sc : Scope) : Option Target → String
  | some t => callCode t (arguments attrs file vars sc) (attrs.code? "assign")
  | none => dispatchCode (arguments attrs file vars sc) (attrs.code? "assign")

def noteCall (attrs : Attributes) (file code : String) : Option Target → Pass → Pass
  | some t, p => p.note (.called file (attrs.code? "compile_id") t.function code)
  | none, p => p

theorem yields_compile {code : String} :
    (compile env merge u attrs).Yields w code w' ↔
      ∃ file vars sc t w₁, Reads u attrs file vars sc ∧
        (target env merge u attrs file).Yields w t w₁ ∧ code = codeFor attrs file vars sc t ∧
        w' = ⟨w₁.draft.marked, noteCall attrs file code t w₁.pass⟩ := by
  simp only [compile, Step.yields_bind, Step.yields_ofExcept]
  constructor
  · rintro ⟨file, _, ⟨hfile, rfl⟩, sc, _, ⟨hsc, rfl⟩, vars, _, ⟨hvars, rfl⟩, t, w₁, ht, ⟨⟩, _,
      hmark, h⟩
    rw [Step.yields_modify.1 hmark] at h
    refine ⟨file, vars, sc, t, w₁, ⟨hfile, hsc, hvars⟩, ht, ?_⟩
    cases t with
    | none => exact Step.yields_pure.1 h
    | some t =>
      simp only [Step.yields_modify_bind, Step.yields_pure] at h
      obtain ⟨rfl, rfl⟩ := h
      exact ⟨rfl, rfl⟩
  · rintro ⟨file, vars, sc, t, w₁, ⟨hfile, hsc, hvars⟩, ht, rfl, rfl⟩
    refine ⟨file, w, ⟨hfile, rfl⟩, sc, w, ⟨hsc, rfl⟩, vars, w, ⟨hvars, rfl⟩, t, w₁, ht, ?_⟩
    cases t with
    | none => simp [codeFor, noteCall]
    | some t => simp [codeFor, noteCall]

end Include

/-! Nodes and templates -/

theorem Expr.yields_compilePrint {r : Rules} {e : Expr} {d d' : Draft} {code : String} :
    (e.compilePrint r).Yields d code d' ↔
      ∃ fragment plugins, e.checkEnforced r.config = .ok () ∧
        (e.compile r).Yields d.plugins fragment plugins ∧ code = Code.print fragment ∧
        d' = { d with plugins }.marked := by
  simp only [compilePrint, Step.yields_bind, Step.yields_ofExcept, Draft.yields_withPlugins,
    Step.yields_modify, Step.yields_pure]
  constructor
  · rintro ⟨⟨⟩, _, ⟨henforced, rfl⟩, fragment, _, ⟨plugins, he, rfl⟩, _, _, rfl, rfl, rfl⟩
    exact ⟨fragment, plugins, henforced, he, rfl, rfl⟩
  · rintro ⟨fragment, plugins, henforced, he, rfl, rfl⟩
    exact ⟨(), d, ⟨henforced, rfl⟩, fragment, _, ⟨plugins, he, rfl⟩, (), _, rfl, rfl, rfl⟩

theorem Node.yields_compile_text {content : String} {w w' : Work} {piece : Piece} :
    ((Node.text content).compile env merge).Yields w piece w' ↔
      piece = .text content ∧ w' = w :=
  Step.yields_pure

theorem Node.yields_compile_print {value : Expr} {line : Line} {w w' : Work} {piece : Piece} :
    ((Node.print value line).compile env merge).Yields w piece w' ↔
      ∃ code d, (value.compilePrint env.rules).Yields w.draft code d ∧ piece = .code code ∧
        w' = { w with draft := d } := by
  simp only [Node.compile, Step.yields_bind, Step.yields_atLine, Work.yields_withDraft,
    Step.yields_pure]
  constructor
  · rintro ⟨code, _, ⟨d, hd, rfl⟩, rfl, rfl⟩
    exact ⟨code, d, hd, rfl, rfl⟩
  · rintro ⟨code, d, hd, rfl, rfl⟩
    exact ⟨code, _, ⟨d, hd, rfl⟩, rfl, rfl⟩

theorem Node.yields_compile_tag {t : Tag} {w w' : Work} {piece : Piece} :
    ((Node.tag t).compile env merge).Yields w piece w' ↔
      ∃ code, (t.compile env merge).Yields w code w' ∧ piece = .code code := by
  simp only [Node.compile, Step.yields_bind, Step.yields_atLine, Step.yields_pure]
  constructor
  · rintro ⟨code, _, h, rfl, rfl⟩
    exact ⟨code, h, rfl⟩
  · rintro ⟨code, h, rfl⟩
    exact ⟨code, w', h, rfl, rfl⟩

theorem Draft.checkClosed_eq_ok {d : Draft} : d.checkClosed = .ok () ↔ d.blocks = [] := by
  unfold checkClosed
  split <;> simp_all

def Draft.compiled (d : Draft) (pieces : List Piece) : Compiled :=
  ⟨Body.ofPieces d.hasCode pieces, d.hasCode, d.dependencies, d.plugins⟩

theorem yields_compileNodes {nodes : List Node} {w w' : Work} {c : Compiled} :
    (compileNodes env merge nodes).Yields w c w' ↔
      ∃ pieces, (nodes.mapM (Node.compile env merge)).Yields w pieces w' ∧
        w'.draft.blocks = [] ∧ c = w'.draft.compiled pieces := by
  simp only [compileNodes, Step.yields_bind, Step.yields_get, Step.yields_ofExcept,
    Step.yields_pure]
  constructor
  · rintro ⟨pieces, _, hpieces, _, _, ⟨rfl, rfl⟩, ⟨⟩, _, ⟨hclosed, rfl⟩, rfl, rfl⟩
    exact ⟨pieces, hpieces, Draft.checkClosed_eq_ok.1 hclosed, rfl⟩
  · rintro ⟨pieces, hpieces, hclosed, rfl⟩
    have hclosed := Draft.checkClosed_eq_ok.2 hclosed
    exact ⟨pieces, w', hpieces, w', w', ⟨rfl, rfl⟩, (), w', ⟨hclosed, rfl⟩, rfl, rfl⟩

def Pass.begin (s : Source) (p : Pass) : Pass := p.note (.compiled s p.session.depth)

theorem compileSource_eq (s : Source) (inBlock : Bool) :
    compileSource env merge s inBlock = (do
      modify fun p => p.begin s
      let nodes ← Step.ofExcept (env.parse s)
      Step.within (fun p => ⟨Draft.start s inBlock, p⟩) (fun _ w => w.pass)
        (compileNodes env merge nodes)) :=
  rfl

theorem yields_compileSource {s : Source} {inBlock : Bool} {p p' : Pass} {c : Compiled} :
    (compileSource env merge s inBlock).Yields p c p' ↔
      ∃ nodes w, env.parse s = .ok nodes ∧
        (compileNodes env merge nodes).Yields ⟨Draft.start s inBlock, p.begin s⟩ c w ∧
        p' = w.pass := by
  simp only [compileSource_eq, Step.yields_bind, Step.yields_modify, Step.yields_ofExcept,
    Step.yields_within]
  constructor
  · rintro ⟨_, _, rfl, nodes, _, ⟨hparse, rfl⟩, w, hw, rfl⟩
    exact ⟨nodes, w, hparse, hw, rfl⟩
  · rintro ⟨nodes, w, hparse, hw, rfl⟩
    exact ⟨(), _, rfl, nodes, _, ⟨hparse, rfl⟩, w, hw, rfl⟩

theorem compileArtifact_eq (name : String) (inBlock : Bool) :
    compileArtifact env name inBlock = (do
      let s ← resolveEntry env name
      Step.within (fun trust => { trust }) (fun _ p => p.trust) do
        let c ← compileTemplate env s inBlock
        return .ofCompiled env s c (← get).session) := by
  unfold compileArtifact
  congr 1
  funext s trust
  simp only [Step.within, Step.run_bind]
  rcases (compileTemplate env s inBlock).run { trust } with ⟨r, p⟩
  cases r <;> rfl

theorem yields_compileArtifact {name : String} {inBlock : Bool} {trust trust' : TrustIndex}
    {a : Artifact} :
    (compileArtifact env name inBlock).Yields trust a trust' ↔
      ∃ s entryTrust c p, (resolveEntry env name).Yields trust s entryTrust ∧
        (compileTemplate env s inBlock).Yields { trust := entryTrust } c p ∧
        a = .ofCompiled env s c p.session ∧ trust' = p.trust := by
  simp only [compileArtifact_eq, Step.yields_bind, Step.yields_within, Step.yields_get,
    Step.yields_pure]
  constructor
  · rintro ⟨s, entryTrust, hs, _, ⟨c, p, hc, _, _, ⟨rfl, rfl⟩, rfl, rfl⟩, rfl⟩
    exact ⟨s, entryTrust, c, _, hs, hc, rfl, rfl⟩
  · rintro ⟨s, entryTrust, c, p, hs, hc, rfl, rfl⟩
    exact ⟨s, entryTrust, hs, _, ⟨c, _, hc, _, _, ⟨rfl, rfl⟩, rfl, rfl⟩, rfl⟩

end TagTemplate
