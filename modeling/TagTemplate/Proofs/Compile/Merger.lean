import TagTemplate.Proofs.Compile.Run

/-!
Nodes and mergers. Whatever its outcome, a node asks for at most one template to be merged, and
besides that leaves the session as it is.
-/

namespace TagTemplate

variable {α β : Type} {env : Environment} {w : Work}

def Event.isCall : Event → Bool
  | .called .. => true
  | _ => false

structure Pass.Quiet (p q : Pass) : Prop where
  session : q.session = p.session
  trace : ∃ calls, q.trace = calls ++ p.trace ∧ ∀ event ∈ calls, event.isCall = true

namespace Pass.Quiet

variable {p q r : Pass}

theorem of_same (hsession : q.session = p.session) (htrace : q.trace = p.trace) : p.Quiet q :=
  ⟨hsession, [], htrace, nofun⟩

theorem refl (p : Pass) : p.Quiet p := of_same rfl rfl

theorem trans (h : p.Quiet q) (h' : q.Quiet r) : p.Quiet r := by
  obtain ⟨calls, htrace, hcalls⟩ := h.trace
  obtain ⟨calls', htrace', hcalls'⟩ := h'.trace
  refine ⟨h'.session.trans h.session, calls' ++ calls, ?_, ?_⟩
  · rw [htrace', htrace, List.append_assoc]
  · intro event hevent
    rcases List.mem_append.1 hevent with hmem | hmem
    · exact hcalls' event hmem
    · exact hcalls event hmem

end Pass.Quiet

/-! Quiet steps -/

def Work.Quiet (step : Step Work α) : Prop := ∀ w : Work, w.pass.Quiet (step.run w).2.pass

theorem Work.quiet_pure (a : α) : Work.Quiet (pure a) := fun w => .refl w.pass

theorem Work.quiet_throw (e : CompileError) : Work.Quiet (throw e : Step Work α) :=
  fun w => .refl w.pass

theorem Work.quiet_fail (fault : Fault) : Work.Quiet (Step.fail fault : Step Work α) :=
  Work.quiet_throw fault

theorem Work.quiet_ofExcept (r : Except CompileError α) : Work.Quiet (Step.ofExcept r) := by
  cases r with
  | ok a => exact Work.quiet_pure a
  | error e => exact Work.quiet_throw e

theorem Work.quiet_modify {f : Work → Work} (h : ∀ w : Work, w.pass.Quiet (f w).pass) :
    Work.Quiet (modify f) :=
  h

theorem Work.quiet_withDraft (step : Step Draft α) : Work.Quiet (Work.withDraft step) :=
  fun w => .refl w.pass

theorem Work.quiet_withTrust (step : Step TrustIndex α) :
    Work.Quiet (Work.withPass (Pass.withTrust step)) :=
  fun _ => .of_same rfl rfl

theorem Work.quiet_bind {x : Step Work α} {f : α → Step Work β} (hx : Work.Quiet x)
    (hf : ∀ a, Work.Quiet (f a)) : Work.Quiet (x >>= f) := by
  intro w
  have hquiet := hx w
  rw [Step.run_bind]
  rcases h : (x.run w : Except CompileError α × Work) with ⟨r, w₁⟩
  rw [h] at hquiet
  cases r with
  | ok a => exact hquiet.trans (hf a w₁)
  | error e => exact hquiet

namespace Include

/-! Steps that depend on a merger -/

def recorded (k : MergeKey) (s : Source) : Except CompileError Compiled × Pass → Pass
  | (.ok c, p) => { p.note (.completed k s c) with session := p.session.complete k c.body }
  | (.error _, p) => p

/-- From `w` the step either does not use its merger, or uses it once, for a template that has no
record yet. Without a merger it fails then, as it does where the template fails to be merged. -/
inductive Asks (env : Environment) (x : Option Merger → Step Work α) (w : Work) : Prop
  | never (outcome : Except CompileError α × Work) : (∀ merge, (x merge).run w = outcome) →
      w.pass.Quiet outcome.2.pass → Asks env x w
  | once (k : MergeKey) (s : Source) (inBlock : Bool) (p : Pass) (e : CompileError) (w₀ : Work)
      (finish : Except CompileError Compiled × Pass → Except CompileError α × Work) :
      (∃ index index', (env.locate k.template).Yields index s index') → w.pass.Quiet p →
      w.pass.session.function? k = none → (x none).run w = (.error e, w₀) → w.pass.Quiet w₀.pass →
      (∀ merger, (x (some merger)).run w = finish ((compileTarget merger k s inBlock).run p)) →
      (∀ outcome, (recorded k s outcome).Quiet (finish outcome).2.pass) →
      (∀ e q, ∃ e', (finish (.error e, q)).1 = .error e') → Asks env x w

theorem asks_of_quiet {x : Step Work α} (hx : Work.Quiet x) : Asks env (fun _ => x) w :=
  .never (x.run w) (fun _ => rfl) (hx w)

theorem asks_after {x : Step Work α} {f : α → Option Merger → Step Work β} (hx : Work.Quiet x)
    (hf : ∀ a w', x.Yields w a w' → w.pass.Quiet w'.pass → Asks env (f a) w') :
    Asks env (fun merge => x >>= fun a => f a merge) w := by
  have hquiet := hx w
  rcases h : (x.run w : Except CompileError α × Work) with ⟨r, w₁⟩
  rw [h] at hquiet
  cases r with
  | error e =>
    refine .never (.error e, w₁) (fun merge => ?_) hquiet
    rw [Step.run_bind, h]
  | ok a =>
    -- the bound step runs from the state that `x` leaves
    have hrun (merge : Option Merger) : (x >>= fun a => f a merge).run w = (f a merge).run w₁ := by
      rw [Step.run_bind, h]
    cases hf a w₁ h hquiet with
    | never outcome hall hlater =>
      exact .never outcome (fun merge => (hrun merge).trans (hall merge)) (hquiet.trans hlater)
    | once k s inBlock p e w₀ finish hs hp hnew hnone hw₀ hsome hfinish herror =>
      rw [hquiet.session] at hnew
      exact .once k s inBlock p e w₀ finish hs (hquiet.trans hp) hnew ((hrun none).trans hnone)
        (hquiet.trans hw₀) (fun merger => (hrun (some merger)).trans (hsome merger)) hfinish herror

theorem Asks.andThen {x : Option Merger → Step Work α} {y : Option Merger → Step Work β}
    (h : Asks env x w) (g : Except CompileError α × Work → Except CompileError β × Work)
    (hg : ∀ outcome : Except CompileError α × Work, outcome.2.pass.Quiet (g outcome).2.pass)
    (hfail : ∀ e w', ∃ e', (g (.error e, w')).1 = .error e')
    (hy : ∀ merge, (y merge).run w = g ((x merge).run w)) : Asks env y w := by
  cases h with
  | never outcome hall hquiet =>
    refine .never (g outcome) (fun merge => ?_) (hquiet.trans (hg outcome))
    rw [hy, hall]
  | once k s inBlock p e w₀ finish hs hp hnew hnone hw₀ hsome hfinish herror =>
    obtain ⟨e', he'⟩ := hfail e w₀
    refine .once k s inBlock p e' (g (.error e, w₀)).2 (fun outcome => g (finish outcome)) hs hp
      hnew ?_ (hw₀.trans (hg (.error e, w₀))) (fun merger => ?_)
      (fun outcome => (hfinish outcome).trans (hg (finish outcome))) fun e q => ?_
    · rw [hy, hnone, ← he']
    · rw [hy, hsome]
    · obtain ⟨e₁, he₁⟩ := herror e q
      rw [← Prod.eta (finish (.error e, q)), he₁]
      exact hfail e₁ _

theorem Asks.bind {x : Option Merger → Step Work α} {f : α → Step Work β} (h : Asks env x w)
    (hf : ∀ a, Work.Quiet (f a)) : Asks env (fun merge => x merge >>= f) w := by
  refine h.andThen (fun
    | (.ok a, w') => (f a).run w'
    | (.error e, w') => (.error e, w')) ?_ ?_ ?_
  · rintro ⟨r, w'⟩
    cases r with
    | ok a => exact hf a w'
    | error e => exact .refl w'.pass
  · exact fun e w' => ⟨e, rfl⟩
  · intro merge
    rw [Step.run_bind]
    rcases ((x merge).run w : Except CompileError α × Work) with ⟨r, w'⟩
    cases r <;> rfl

theorem Asks.atLine {x : Option Merger → Step Work α} (line : Line) (h : Asks env x w) :
    Asks env (fun merge => Step.atLine line (x merge)) w := by
  refine h.andThen (fun outcome => (outcome.1.mapError fun e => e.atLine line, outcome.2)) ?_ ?_ ?_
  · exact fun outcome => .refl outcome.2.pass
  · exact fun e w' => ⟨e.atLine line, rfl⟩
  · exact fun merge => rfl

/-! Includes -/

theorem asks_mergeNew {k : MergeKey} (hnew : w.pass.session.function? k = none) :
    Asks env (fun merge => mergeNew env merge k) w := by
  unfold mergeNew
  refine asks_after (Work.quiet_withTrust _) fun s w₁ hs hquiet => ?_
  obtain ⟨_, hs, -⟩ := Work.yields_withPass.1 hs
  obtain ⟨index, hs, -⟩ := Pass.yields_withTrust.1 hs
  rw [← hquiet.session] at hnew
  cases hm : isMergeable s with
  | false => exact asks_of_quiet (Work.quiet_pure none)
  | true =>
    refine .once k s w₁.draft.inBlock w₁.pass _ w₁ (fun
      | (.ok c, p) =>
        (.ok (some ⟨k.template, k.function⟩), ⟨w₁.draft.absorb c, recorded k s (.ok c, p)⟩)
      | (.error e, p) => (.error e, { w₁ with pass := p })) ⟨_, index, hs⟩ (.refl w₁.pass) hnew rfl
      (.refl w₁.pass) ?_ ?_ fun e _ => ⟨e, rfl⟩
    · intro merger
      change (Work.withPass (compileTarget merger k s w₁.draft.inBlock) >>= _).run w₁ = _
      rw [Step.run_bind, Work.withPass, Step.run_within]
      rcases ((compileTarget merger k s w₁.draft.inBlock).run w₁.pass :
        Except CompileError Compiled × Pass) with ⟨r, p⟩
      cases r <;> rfl
    · rintro ⟨r, p⟩
      cases r with
      | ok c => exact .refl _
      | error e => exact .refl p

theorem asks_target (u : TagUse) (attrs : Attributes) (file : String) (w : Work) :
    Asks env (fun merge => target env merge u attrs file) w := by
  unfold target
  refine asks_after (x := get) (fun w => .refl w.pass) fun w' w₁ hw _ => ?_
  obtain ⟨rfl, rfl⟩ := Step.yields_get.1 hw
  cases hdeclined : !isRequested env.config w₁.draft attrs || w₁.draft.source.recompiled with
  | true =>
    simp only [hdeclined, if_true]
    exact asks_of_quiet (Work.quiet_pure none)
  | false =>
    simp only [hdeclined, Bool.false_eq_true, if_false]
    cases obstacle file (attrs.code? "compile_id") with
    | some reason =>
      cases isForced env.config w₁.draft with
      | true => exact asks_of_quiet (Work.quiet_throw _)
      | false => exact asks_of_quiet (Work.quiet_pure none)
    | none =>
      refine asks_after (x := get) (fun w => .refl w.pass) fun w' w₂ hw _ => ?_
      obtain ⟨rfl, rfl⟩ := Step.yields_get.1 hw
      cases hf : w₂.pass.session.function? (key file (attrs.code? "compile_id")) with
      | some function => exact asks_of_quiet (Work.quiet_pure _)
      | none => exact asks_mergeNew hf

theorem asks_compile (u : TagUse) (attrs : Attributes) (w : Work) :
    Asks env (fun merge => compile env merge u attrs) w := by
  unfold compile
  refine asks_after (Work.quiet_ofExcept _) fun file _ _ _ => ?_
  refine asks_after (Work.quiet_ofExcept _) fun scope _ _ _ => ?_
  refine asks_after (Work.quiet_ofExcept _) fun vars w _ _ => ?_
  refine (asks_target u attrs file w).bind fun target => ?_
  refine Work.quiet_bind (Work.quiet_modify fun w => .refl w.pass) fun _ => ?_
  cases target with
  | none => exact Work.quiet_pure _
  | some t =>
    refine Work.quiet_bind (Work.quiet_modify fun w => ⟨rfl, [_], rfl, ?_⟩) fun _ => ?_
    · simp [Event.isCall]
    · exact Work.quiet_pure _

end Include

open Include

theorem TagSpec.asks_compile (spec : TagSpec) (u : TagUse) (attrs : Attributes) (w : Work) :
    Asks env (fun merge => spec.compile env merge u attrs) w := by
  by_cases h : spec.action = .builtin .include
  · simp only [TagSpec.compile, h]
    exact Include.asks_compile u attrs w
  · obtain ⟨step, hstep⟩ := TagSpec.compile_eq_withDraft env h u attrs
    simp only [hstep]
    exact asks_of_quiet (Work.quiet_withDraft step)

theorem Tag.asks_compile (t : Tag) (w : Work) : Asks env (fun merge => t.compile env merge) w := by
  unfold Tag.compile
  refine asks_after (Work.quiet_ofExcept _) fun _ _ _ _ => ?_
  cases env.tags.find? (dispatchName t.name) with
  | none => exact asks_of_quiet (Work.quiet_fail _)
  | some spec =>
    refine asks_after (Work.quiet_withDraft _) fun args w _ _ => ?_
    cases Attributes.resolve (spec.contract t.variant) args with
    | error e => exact asks_of_quiet (Work.quiet_fail _)
    | ok attrs =>
      refine (spec.asks_compile _ attrs w).bind fun code => ?_
      split
      · exact Work.quiet_pure _
      · refine Work.quiet_bind (Work.quiet_modify fun w => .refl w.pass) fun _ => ?_
        exact Work.quiet_pure _

theorem Node.asks_compile (n : Node) (w : Work) :
    Asks env (fun merge => n.compile env merge) w := by
  cases n with
  | text content => exact asks_of_quiet (Work.quiet_pure _)
  | print value line =>
    have h : Asks env (fun _ => Work.withDraft (value.compilePrint env.rules)) w :=
      asks_of_quiet (Work.quiet_withDraft _)
    exact (h.atLine line).bind fun code => Work.quiet_pure _
  | tag t => exact ((t.asks_compile w).atLine t.line).bind fun code => Work.quiet_pure _

/-! Templates -/

variable {merge : Option Merger}

theorem run_compileNodes (nodes : List Node) (w : Work) :
    (compileNodes env merge nodes).run w =
      match (nodes.mapM (Node.compile env merge)).run w with
      | (.ok pieces, w') =>
        (w'.draft.checkClosed.map fun _ => w'.draft.compiled pieces, w')
      | (.error e, w') => (.error e, w') := by
  rw [compileNodes, Step.run_bind]
  rcases ((nodes.mapM (Node.compile env merge)).run w : Except CompileError (List Piece) × Work)
    with ⟨r, w'⟩
  cases r with
  | error e => rfl
  | ok pieces =>
    change (Step.ofExcept w'.draft.checkClosed >>= fun _ =>
      pure (w'.draft.compiled pieces)).run w' =
      (w'.draft.checkClosed.map fun _ => w'.draft.compiled pieces, w')
    cases w'.draft.checkClosed <;> rfl

theorem run_compileSource (s : Source) (inBlock : Bool) (p : Pass) :
    (compileSource env merge s inBlock).run p =
      match env.parse s with
      | .ok nodes =>
        let outcome := (compileNodes env merge nodes).run ⟨Draft.start s inBlock, p.begin s⟩
        (outcome.1, outcome.2.pass)
      | .error e => (.error e, p.begin s) := by
  rw [compileSource_eq]
  cases env.parse s <;> rfl

theorem compileLevels_levelsLeft (depth : Nat) :
    compileLevels env (levelsLeft env depth) = compileSource env (mergerAt env depth) := by
  unfold mergerAt
  cases levelsLeft env depth with
  | zero => rfl
  | succ n => rfl

theorem run_compileTemplate (s : Source) (inBlock : Bool) (p : Pass) :
    (compileTemplate env s inBlock).run p =
      (compileSource env (mergerAt env p.session.depth) s inBlock).run p := by
  rw [← compileLevels_levelsLeft, compileTemplate, Step.run_get_bind]

theorem yields_compileTemplate_nodes {s : Source} {inBlock : Bool} {p p' : Pass} {c : Compiled} :
    (compileTemplate env s inBlock).Yields p c p' ↔
      ∃ nodes pieces w, env.parse s = .ok nodes ∧
        (nodes.mapM (Node.compile env (mergerAt env p.session.depth))).Yields
          ⟨Draft.start s inBlock, p.begin s⟩ pieces w ∧
        w.draft.blocks = [] ∧ c = w.draft.compiled pieces ∧ p' = w.pass := by
  rw [Step.Yields, run_compileTemplate]
  refine yields_compileSource.trans ?_
  constructor
  · rintro ⟨nodes, w, hparse, hw, rfl⟩
    obtain ⟨pieces, hpieces, hblocks, rfl⟩ := yields_compileNodes.1 hw
    exact ⟨nodes, pieces, w, hparse, hpieces, hblocks, rfl, rfl⟩
  · rintro ⟨nodes, pieces, w, hparse, hpieces, hblocks, rfl, rfl⟩
    exact ⟨nodes, w, hparse, yields_compileNodes.2 ⟨pieces, hpieces, hblocks, rfl⟩, rfl⟩

theorem mergerAt_cases (env : Environment) (depth : Nat) :
    (env.config.maxInlineDepth.toNat ≤ depth ∧ mergerAt env depth = none) ∨
    (depth < env.config.maxInlineDepth.toNat ∧ ∃ merger, mergerAt env depth = some merger ∧
      ∀ s inBlock (p : Pass), p.session.depth = depth + 1 →
        (merger s inBlock).run p = (compileTemplate env s inBlock).run p) := by
  unfold mergerAt
  have hlevels : levelsLeft env depth = env.config.maxInlineDepth.toNat - depth := rfl
  cases h : levelsLeft env depth with
  | zero => exact .inl ⟨by omega, rfl⟩
  | succ n =>
    refine .inr ⟨by omega, _, rfl, fun s inBlock p hp => ?_⟩
    have hn : n = levelsLeft env p.session.depth := by
      unfold levelsLeft
      omega
    rw [hn, compileTemplate, Step.run_get_bind]

end TagTemplate
