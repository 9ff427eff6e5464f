import TagTemplate.Proofs.Policy.Narrower
import TagTemplate.Proofs.Policy.Place
import TagTemplate.Proofs.Registry

/-!
A policy is only a filter. Two compilations that differ in the policy run in lockstep up to the
first refusal; neither names that are checked nor the index of trusted directories leave a trace in
what is compiled.
-/

namespace TagTemplate

open Step

def Environment.under (env : Environment) (policy : Option Policy) : Environment :=
  { env with rules := { env.rules with policy } }

@[simp] theorem Environment.config_under (env : Environment) (policy : Option Policy) :
    (env.under policy).config = env.config :=
  rfl

/-- What a loader gives does not depend on the index of trusted directories. It holds no policy. -/
def Loader.Pure (l : Loader) : Prop := ∀ name, ∃ r, l.resolve name = ofExcept r

theorem Library.pure_loader (library : Library) : library.loader.Pure :=
  fun name => ⟨.ok (library.source name), rfl⟩

namespace DirectoryLoader

variable {d : DirectoryLoader}

theorem pure_fileSource (h : d.policy = none) (name : String) :
    ∃ r, d.fileSource name = ofExcept r := by
  unfold fileSource
  split
  next => exact ⟨.ok _, rfl⟩
  next path _ =>
    have hcheck : d.checkPath path = pure () := by
      rw [checkPath, h]
    rw [hcheck, pure_bind]
    split
    next => exact ⟨.error _, rfl⟩
    next => exact ⟨.ok _, rfl⟩

theorem pure_loader (h : d.policy = none) : d.loader.Pure := by
  intro name
  change ∃ r, d.resolve name = ofExcept r
  unfold resolve
  split
  next s _ => exact ⟨.ok s, rfl⟩
  next =>
    split
    next rest _ => exact pure_fileSource h rest
    next scheme _ _ =>
      rw [h]
      exact ⟨.error _, rfl⟩
    next => exact pure_fileSource h name

end DirectoryLoader

/-- Two policies for an environment, of which the first lets nothing pass that the second stops.
Without a policy everything passes. -/
structure Filtering (env : Environment) (held : Holdings) (P Q : Option Policy) : Prop where
  builtin : env.tags = Registry.builtin
  pure : env.loader.Pure
  agrees₁ : (env.under P).Agrees held
  agrees₂ : (env.under Q).Agrees held
  names : ∀ kind ∈ Privilege.named, ∀ name,
    Policy.check P kind name = .ok () → Policy.check Q kind name = .ok ()
  places : ∀ s, (env.under P).Trusts s → (env.under Q).Trusts s

/-! The rules of a tag's use matter to nothing but expressions. -/

theorem TagUse.require_rules {α : Type} (u : TagUse) (r : Rules) (x : Except AttributeError α) :
    { u with rules := r }.require x = u.require x := by
  cases x <;> rfl

theorem Include.scope_rules (u : TagUse) (r : Rules) (attrs : Attributes) :
    scope { u with rules := r } attrs = scope u attrs := by
  simp only [scope, TagUse.require_rules]

theorem Include.localCode_rules (u : TagUse) (r : Rules) (name : String) (v : AttrValue) :
    localCode { u with rules := r } name v = localCode u name v := by
  cases v <;> simp only [localCode, TagUse.require_rules]

theorem Include.locals_rules (u : TagUse) (r : Rules) (attrs : Attributes) (sc : Scope) :
    locals { u with rules := r } attrs sc = locals u attrs sc := by
  simp only [locals, localCode_rules]

theorem Loop.head_rules (u : TagUse) (r : Rules) (attrs : Attributes) :
    head { u with rules := r } attrs = head u attrs := by
  simp only [head, range, general, TagUse.require_rules]

namespace Filtering

variable {env : Environment} {held : Holdings} {P Q : Option Policy}

def Indices (env : Environment) (held : Holdings) (i j : TrustIndex) : Prop :=
  i.Valid env.canonical held ∧ j.Valid env.canonical held

structure Passes (env : Environment) (held : Holdings) (p q : Pass) : Prop where
  session : q.session = p.session
  trace : q.trace = p.trace
  trust : Indices env held p.trust q.trust

structure Works (env : Environment) (held : Holdings) (v w : Work) : Prop where
  draft : w.draft = v.draft
  pass : Passes env held v.pass w.pass

theorem narrower (h : Filtering env held P Q) :
    (env.under P).rules.Narrower (env.under Q).rules :=
  ⟨rfl, h.names⟩

/-! Places -/

theorem lockstep_checkPlace (h : Filtering env held P Q) (s : Source) :
    Lockstep (Indices env held) Eq ((env.under P).checkPlace s) ((env.under Q).checkPlace s) where
  yields {i j u i'} hij hi := by
    obtain ⟨htrusts, hvalid⟩ := Environment.yields_checkPlace h.agrees₁ hij.1 hi
    have hkeeps := Environment.keeps_checkPlace h.agrees₂ s
    obtain ⟨-, hok⟩ | ⟨hnot, -⟩ := Environment.checkPlace_cases h.agrees₂ hij.2 s
    · exact ⟨(), _, Prod.ext hok rfl, rfl, hvalid, hkeeps j hij.2⟩
    · exact absurd (h.places s htrusts) hnot
  fails {i j e} hij hi := by
    obtain ⟨i', hi⟩ := hi
    obtain ⟨-, hok⟩ | ⟨-, name, herror⟩ := Environment.checkPlace_cases h.agrees₁ hij.1 s
    · rw [hi] at hok
      cases hok
    · rw [hi] at herror
      cases herror
      exact .inl rfl

theorem lockstep_resolve (h : Filtering env held P Q) (name : String) :
    Lockstep (Indices env held) Eq ((env.under P).loader.resolve name)
      ((env.under Q).loader.resolve name) := by
  obtain ⟨r, hr⟩ := h.pure name
  change Lockstep _ _ (env.loader.resolve name) (env.loader.resolve name)
  rw [hr]
  exact lockstep_ofExcept (.refl _)

theorem lockstep_locate (h : Filtering env held P Q) (name : String) :
    Lockstep (Indices env held) Eq ((env.under P).locate name) ((env.under Q).locate name) := by
  refine lockstep_bind_eq (h.lockstep_resolve name) fun s => ?_
  refine lockstep_bind_eq (h.lockstep_checkPlace s) fun _ => ?_
  exact lockstep_pure rfl

theorem lockstep_resolveEntry (h : Filtering env held P Q) (name : String) :
    Lockstep (Indices env held) Eq (resolveEntry (env.under P) name)
      (resolveEntry (env.under Q) name) := by
  refine lockstep_bind_eq (h.lockstep_resolve name) fun s => ?_
  split
  · exact lockstep_fail _
  · refine lockstep_bind_eq (h.lockstep_checkPlace s) fun _ => ?_
    exact lockstep_pure rfl

/-! Parts of the work -/

theorem lockstep_withDraft {α : Type} {x y : Step Draft α} (h : Lockstep Eq Eq x y) :
    Lockstep (Works env held) Eq (Work.withDraft x) (Work.withDraft y) :=
  lockstep_within h (fun _ _ hw => hw.draft.symm) fun _ _ _ _ hw hd => ⟨hd.symm, hw.pass⟩

theorem lockstep_withPlugins {α : Type} {x y : Step Plugins α} (h : Lockstep Eq Eq x y) :
    Lockstep Eq Eq (Draft.withPlugins x) (Draft.withPlugins y) :=
  lockstep_within h (fun _ _ hd => congrArg Draft.plugins hd) fun _ _ _ _ hd hp => by rw [hd, hp]

theorem lockstep_withPass {α : Type} {x y : Step Pass α}
    (h : Lockstep (Passes env held) Eq x y) :
    Lockstep (Works env held) Eq (Work.withPass x) (Work.withPass y) :=
  lockstep_within h (fun _ _ hw => hw.pass) fun _ _ _ _ hw hp => ⟨hw.draft, hp⟩

theorem lockstep_withTrust {α : Type} {x y : Step TrustIndex α}
    (h : Lockstep (Indices env held) Eq x y) :
    Lockstep (Passes env held) Eq (Pass.withTrust x) (Pass.withTrust y) :=
  lockstep_within h (fun _ _ hp => hp.trust) fun _ _ _ _ hp ht => ⟨hp.session, hp.trace, ht⟩

theorem lockstep_modifyDraft (f : Draft → Draft) :
    Lockstep (Works env held) Eq (modify fun w => { w with draft := f w.draft })
      (modify fun w => { w with draft := f w.draft }) :=
  lockstep_modify fun _ _ hw => ⟨congrArg f hw.draft, hw.pass⟩

theorem lockstep_note (event : Event) :
    Lockstep (Works env held) Eq (modify fun w => { w with pass := w.pass.note event })
      (modify fun w => { w with pass := w.pass.note event }) :=
  lockstep_modify fun _ _ hw =>
    ⟨hw.draft, hw.pass.session, congrArg (event :: ·) hw.pass.trace, hw.pass.trust⟩

theorem lockstep_nested {α : Type} {x y : Step Pass α} (h : Lockstep (Passes env held) Eq x y) :
    Lockstep (Passes env held) Eq (Pass.nested x) (Pass.nested y) := by
  rw [Pass.nested_eq, Pass.nested_eq]
  refine lockstep_within h (fun p q hp => ?_) fun p q p' q' _ hp => ?_
  · exact ⟨congrArg Session.enter hp.session, hp.trace, hp.trust⟩
  · exact ⟨congrArg Session.leave hp.session, hp.trace, hp.trust⟩

/-! Includes -/

def Mergers (env : Environment) (held : Holdings) : (m m' : Option Include.Merger) → Prop :=
  Option.Rel fun m m' => ∀ s inBlock, Lockstep (Passes env held) Eq (m s inBlock) (m' s inBlock)

variable {m m' : Option Include.Merger}

theorem lockstep_compileTarget {m m' : Include.Merger}
    (hm : ∀ s inBlock, Lockstep (Passes env held) Eq (m s inBlock) (m' s inBlock)) (k : MergeKey)
    (s : Source) (inBlock : Bool) :
    Lockstep (Passes env held) Eq (Include.compileTarget m k s inBlock)
      (Include.compileTarget m' k s inBlock) := by
  refine lockstep_bind_eq (lockstep_modify fun p q hp => ?_) fun _ => ?_
  · exact ⟨congrArg (·.reserve k) hp.session, congrArg (Event.merged k :: ·) hp.trace, hp.trust⟩
  · exact lockstep_nested (hm s inBlock)

theorem lockstep_mergeNew (h : Filtering env held P Q) (hm : Mergers env held m m')
    (k : MergeKey) :
    Lockstep (Works env held) Eq (Include.mergeNew (env.under P) m k)
      (Include.mergeNew (env.under Q) m' k) := by
  unfold Include.mergeNew
  refine lockstep_bind_eq (lockstep_withPass (lockstep_withTrust (h.lockstep_locate k.template)))
    fun s => ?_
  split
  · exact lockstep_pure rfl
  cases hm with
  | none => exact lockstep_fail _
  | some hm =>
    refine lockstep_bind lockstep_get fun v w hw => ?_
    rw [hw.draft]
    refine lockstep_bind_eq (lockstep_withPass (lockstep_compileTarget hm k s v.draft.inBlock))
      fun c => ?_
    refine lockstep_bind_eq (lockstep_modify fun v w hw => ?_) fun _ => lockstep_pure rfl
    exact ⟨congrArg (·.absorb c) hw.draft, congrArg (·.complete k c.body) hw.pass.session,
      congrArg (Event.completed k s c :: ·) hw.pass.trace, hw.pass.trust⟩

theorem lockstep_target (h : Filtering env held P Q) (hm : Mergers env held m m') (u : TagUse)
    (attrs : Attributes) (file : String) :
    Lockstep (Works env held) Eq
      (Include.target (env.under P) m { u with rules := (env.under P).rules } attrs file)
      (Include.target (env.under Q) m' { u with rules := (env.under Q).rules } attrs file) := by
  unfold Include.target
  refine lockstep_bind lockstep_get fun v w hw => ?_
  rw [hw.draft]
  simp only [Environment.config_under]
  refine lockstep_ite (lockstep_pure rfl) ?_
  cases Include.obstacle file (attrs.code? "compile_id") with
  | some reason => exact lockstep_ite (lockstep_throw _) (lockstep_pure rfl)
  | none =>
    refine lockstep_bind lockstep_get fun v w hw => ?_
    rw [hw.pass.session]
    cases v.pass.session.function? (Include.key file (attrs.code? "compile_id")) with
    | some function => exact lockstep_pure rfl
    | none => exact h.lockstep_mergeNew hm _

theorem lockstep_include (h : Filtering env held P Q) (hm : Mergers env held m m') (u : TagUse)
    (attrs : Attributes) :
    Lockstep (Works env held) Eq
      (Include.compile (env.under P) m { u with rules := (env.under P).rules } attrs)
      (Include.compile (env.under Q) m' { u with rules := (env.under Q).rules } attrs) := by
  unfold Include.compile
  simp only [TagUse.require_rules, Include.scope_rules, Include.locals_rules]
  refine lockstep_bind_eq (lockstep_ofExcept (.refl _)) fun file => ?_
  refine lockstep_bind_eq (lockstep_ofExcept (.refl _)) fun scope => ?_
  refine lockstep_bind_eq (lockstep_ofExcept (.refl _)) fun vars => ?_
  refine lockstep_bind_eq (h.lockstep_target hm u attrs file) fun target => ?_
  refine lockstep_bind_eq (lockstep_modifyDraft Draft.marked) fun _ => ?_
  cases target with
  | none => exact lockstep_pure rfl
  | some t =>
    refine lockstep_bind_eq (lockstep_note _) fun _ => ?_
    exact lockstep_pure rfl

/-! Tags and nodes -/

theorem lockstep_special (h : Filtering env held P Q) (u : TagUse) (attrs : Attributes) :
    Lockstep Eq Eq (Special.compileTag { u with rules := (env.under P).rules } attrs)
      (Special.compileTag { u with rules := (env.under Q).rules } attrs) := by
  unfold Special.compileTag
  simp only [TagUse.require_rules]
  refine lockstep_bind_eq (lockstep_ofExcept (.refl _)) fun var => ?_
  refine lockstep_bind_eq (lockstep_ofExcept (h.narrower.special _ _)) fun code => ?_
  refine lockstep_bind_eq (lockstep_modify fun _ _ => congrArg Draft.marked) fun _ => ?_
  exact lockstep_pure rfl

theorem lockstep_builtin (h : Filtering env held P Q) (hm : Mergers env held m m') (b : Builtin)
    (u : TagUse) (attrs : Attributes) :
    Lockstep (Works env held) Eq
      (b.compile (env.under P) m { u with rules := (env.under P).rules } attrs)
      (b.compile (env.under Q) m' { u with rules := (env.under Q).rules } attrs) := by
  cases b with
  | loop =>
    refine lockstep_withDraft ?_
    simp only [Loop.openLoop, Loop.head_rules]
    exact lockstep_refl _
  | fallback => exact lockstep_withDraft (lockstep_refl _)
  | endLoop => exact lockstep_withDraft (lockstep_refl _)
  | «include» => exact h.lockstep_include hm u attrs
  | leftDelimiter => exact lockstep_withDraft (lockstep_refl _)
  | rightDelimiter => exact lockstep_withDraft (lockstep_refl _)
  | special => exact lockstep_withDraft (h.lockstep_special u attrs)

theorem lockstep_tag (h : Filtering env held P Q) (hm : Mergers env held m m') (t : Tag) :
    Lockstep (Works env held) Eq (t.compile (env.under P) m) (t.compile (env.under Q) m') := by
  have hR : Plugins.Stable Eq := fun s t name p hst => by rw [hst]
  have htag : Privilege.tag ∈ Privilege.named := by decide
  unfold Tag.compile
  refine lockstep_bind_eq (lockstep_ofExcept (h.narrower.check htag _)) fun _ => ?_
  have htags (R : Option Policy) : (env.under R).tags = env.tags := rfl
  simp only [htags]
  cases hspec : env.tags.find? (dispatchName t.name) with
  | none => exact lockstep_fail _
  | some spec =>
    rw [h.builtin] at hspec
    obtain ⟨b, rfl⟩ := Registry.builtin_of_find? hspec
    have hargs := lockstep_mapM t.args fun a _ => a.lockstep_compile h.narrower hR
    refine lockstep_bind_eq (lockstep_withDraft (lockstep_withPlugins hargs)) fun args => ?_
    cases Attributes.resolve (b.spec.contract t.variant) args with
    | error e => exact lockstep_fail _
    | ok attrs =>
      refine lockstep_bind_eq (h.lockstep_builtin hm b (t.use env) attrs) fun code => ?_
      split
      · exact lockstep_pure rfl
      · refine lockstep_bind_eq (lockstep_modifyDraft Draft.marked) fun _ => ?_
        exact lockstep_pure rfl

theorem lockstep_compilePrint (h : Filtering env held P Q) (e : Expr) :
    Lockstep Eq Eq (e.compilePrint (env.under P).rules) (e.compilePrint (env.under Q).rules) := by
  have hR : Plugins.Stable Eq := fun s t name p hst => by rw [hst]
  refine lockstep_bind_eq (lockstep_ofExcept (.refl _)) fun _ => ?_
  refine lockstep_bind_eq (lockstep_withPlugins (e.lockstep_compile h.narrower hR)) fun code => ?_
  exact lockstep_refl _

theorem lockstep_node (h : Filtering env held P Q) (hm : Mergers env held m m') (n : Node) :
    Lockstep (Works env held) Eq (n.compile (env.under P) m) (n.compile (env.under Q) m') := by
  cases n with
  | text content => exact lockstep_pure rfl
  | print value line =>
    have hprint := h.lockstep_compilePrint value
    refine lockstep_bind_eq (lockstep_atLine line (lockstep_withDraft hprint)) fun code => ?_
    exact lockstep_pure rfl
  | tag t =>
    refine lockstep_bind_eq (lockstep_atLine t.line (h.lockstep_tag hm t)) fun code => ?_
    exact lockstep_pure rfl

/-! Templates -/

theorem lockstep_compileNodes (h : Filtering env held P Q) (hm : Mergers env held m m')
    (nodes : List Node) :
    Lockstep (Works env held) Eq (compileNodes (env.under P) m nodes)
      (compileNodes (env.under Q) m' nodes) := by
  refine lockstep_bind_eq (lockstep_mapM nodes fun n _ => h.lockstep_node hm n) fun pieces => ?_
  refine lockstep_bind lockstep_get fun v w hw => ?_
  rw [hw.draft]
  refine lockstep_bind_eq (lockstep_ofExcept (.refl _)) fun _ => ?_
  exact lockstep_pure rfl

theorem lockstep_compileSource (h : Filtering env held P Q) (hm : Mergers env held m m')
    (s : Source) (inBlock : Bool) :
    Lockstep (Passes env held) Eq (compileSource (env.under P) m s inBlock)
      (compileSource (env.under Q) m' s inBlock) := by
  rw [compileSource_eq, compileSource_eq]
  refine lockstep_bind_eq (lockstep_modify fun p q hp => ?_) fun _ => ?_
  · refine ⟨hp.session, ?_, hp.trust⟩
    rw [Pass.begin, Pass.begin, Pass.note, Pass.note, hp.session, hp.trace]
  refine lockstep_bind_eq (lockstep_ofExcept (.refl _)) fun nodes => ?_
  exact lockstep_within (h.lockstep_compileNodes hm nodes) (fun _ _ hp => ⟨rfl, hp⟩)
    fun _ _ _ _ _ hw => hw.pass

theorem lockstep_compileLevels (h : Filtering env held P Q) (levels : Nat) (s : Source)
    (inBlock : Bool) :
    Lockstep (Passes env held) Eq (compileLevels (env.under P) levels s inBlock)
      (compileLevels (env.under Q) levels s inBlock) := by
  induction levels generalizing s inBlock with
  | zero => exact h.lockstep_compileSource .none s inBlock
  | succ n ih => exact h.lockstep_compileSource (.some ih) s inBlock

theorem lockstep_compileTemplate (h : Filtering env held P Q) (s : Source) (inBlock : Bool) :
    Lockstep (Passes env held) Eq (compileTemplate (env.under P) s inBlock)
      (compileTemplate (env.under Q) s inBlock) := by
  refine lockstep_bind lockstep_get fun p q hp => ?_
  rw [hp.session]
  exact h.lockstep_compileLevels _ s inBlock

theorem lockstep_compileArtifact (h : Filtering env held P Q) (name : String) (inBlock : Bool) :
    Lockstep (Indices env held) Eq (compileArtifact (env.under P) name inBlock)
      (compileArtifact (env.under Q) name inBlock) := by
  rw [compileArtifact_eq, compileArtifact_eq]
  refine lockstep_bind_eq (h.lockstep_resolveEntry name) fun s => ?_
  refine lockstep_within (R := Passes env held) ?_ (fun _ _ hi => ⟨rfl, rfl, hi⟩)
    fun _ _ _ _ _ hp => hp.trust
  refine lockstep_bind_eq (h.lockstep_compileTemplate s inBlock) fun c => ?_
  refine lockstep_bind lockstep_get fun p q hp => ?_
  rw [hp.session]
  exact lockstep_pure rfl

/-- What compiles under a policy compiles to the same artifact under one that lets more pass, and
what fails without a refusal fails in the same way. -/
theorem compileArtifact_under (h : Filtering env held P Q) {name : String} {inBlock : Bool}
    {i j : TrustIndex} (hi : i.Valid env.canonical held) (hj : j.Valid env.canonical held) :
    (∀ a i', (compileArtifact (env.under P) name inBlock).Yields i a i' →
      ∃ j', (compileArtifact (env.under Q) name inBlock).Yields j a j') ∧
    ∀ e, (compileArtifact (env.under P) name inBlock).Fails i e →
      (∀ kind refused, e.fault = .policy kind refused → kind = .scopedVariables) →
      (compileArtifact (env.under Q) name inBlock).Fails j e := by
  have hstep := h.lockstep_compileArtifact name inBlock
  constructor
  · intro a i' ha
    obtain ⟨b, j', hb, rfl, -⟩ := hstep.yields ⟨hi, hj⟩ ha
    exact ⟨j', hb⟩
  · intro e he hkind
    obtain hrefusal | hfails := hstep.fails ⟨hi, hj⟩ he
    · rw [CompileError.isRefusal] at hrefusal
      split at hrefusal
      next kind refused hfault => simp [hkind kind refused hfault] at hrefusal
      next => cases hrefusal
    · exact hfails

theorem filtering_sample : Filtering (.sample none) sampleHoldings (some {}) none where
  builtin := rfl
  pure name := ⟨.ok _, rfl⟩
  agrees₁ := Environment.agrees_sample (by simp)
  agrees₂ := Environment.agrees_sample (by simp)
  names _ _ _ _ := rfl
  places _ _ := by simp [Environment.Trusts, Environment.under, Environment.policy]

theorem compileArtifact_under_sample :
    ∃ a i j, a.functions.keys.length = 1 ∧
      (compileArtifact ((Environment.sample none).under (some {})) "main" false).Yields {} a i ∧
      (compileArtifact ((Environment.sample none).under none) "main" false).Yields {} a j := by
  obtain ⟨a, i, ha, hlength⟩ : ∃ a i,
      (compileArtifact ((Environment.sample none).under (some {})) "main" false).Yields {} a i ∧
      (a.functions.keys.length == 1) = true :=
    Step.exists_yields (by decide +kernel)
  obtain ⟨j, hj⟩ := (compileArtifact_under filtering_sample TrustIndex.valid_empty
    TrustIndex.valid_empty).1 a i ha
  exact ⟨a, i, j, beq_iff_eq.1 hlength, ha, hj⟩

end Filtering

end TagTemplate
