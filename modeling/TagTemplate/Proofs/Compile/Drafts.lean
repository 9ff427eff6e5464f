import TagTemplate.Proofs.Block.Loop
import TagTemplate.Proofs.Compile.Gathering

namespace TagTemplate

variable {α : Type} {env : Environment} {merge : Option Include.Merger} {u : TagUse}
  {attrs : Attributes}

def Work.Restores (step : Step Work α) : Prop :=
  ∀ d, step.Reverts fun w => w.draft = d

theorem Work.keeps_withPass (step : Step Pass α) (d : Draft) :
    (Work.withPass step).Keeps fun w => w.draft = d :=
  fun _ hw => hw

theorem Work.restores_withDraft {step : Step Draft α}
    (h : ∀ d, step.Reverts fun d' => d' = d) : Work.Restores (Work.withDraft step) := by
  intro d w e w' hw hrun
  obtain ⟨hr, rfl⟩ := Prod.mk.inj hrun
  exact h d w.draft e _ hw (Prod.ext hr rfl)

theorem LoopTag.reverts_compile (tag : LoopTag) (attrs : Attributes) (d : Draft) :
    (tag.compile u attrs).Reverts fun d' => d' = d := by
  intro d₁ e d' hd h
  rw [fails_unchanged h, hd]

theorem Special.reverts_compileTag (d : Draft) :
    (compileTag u attrs).Reverts fun d' => d' = d := by
  refine Step.reverts_bind (Step.keeps_ofExcept _) fun var => ?_
  refine Step.reverts_bind (Step.keeps_ofExcept _) fun code => ?_
  exact Step.reverts_of_total (by simp)

theorem Delimiter.reverts_compileTag (delimiter : String) (d : Draft) :
    (compileTag delimiter).Reverts fun d' => d' = d :=
  Step.reverts_of_total (by simp [compileTag])

namespace Include

theorem restores_mergeNew (k : MergeKey) : Work.Restores (mergeNew env merge k) := by
  intro d
  refine Step.reverts_bind (Work.keeps_withPass _ d) fun s => ?_
  split
  · exact (Step.keeps_pure none).reverts
  cases merge with
  | none => exact Step.reverts_fail _
  | some merger =>
    refine Step.reverts_bind (fun w hw => hw) fun w => ?_
    -- the draft takes over the merged template after the last step that may fail
    exact (Work.keeps_withPass _ d).reverts.andThen (by simp)

theorem restores_target (u : TagUse) (attrs : Attributes) (file : String) :
    Work.Restores (target env merge u attrs file) := by
  intro d
  refine Step.reverts_bind (fun w hw => hw) fun w => ?_
  dsimp only
  split
  · exact (Step.keeps_pure none).reverts
  split
  · split
    · exact Step.Keeps.reverts fun w hw => hw
    · exact (Step.keeps_pure none).reverts
  · refine Step.reverts_bind (fun w hw => hw) fun w => ?_
    split
    · exact (Step.keeps_pure _).reverts
    · exact restores_mergeNew _ d

theorem restores_compile (u : TagUse) (attrs : Attributes) :
    Work.Restores (compile env merge u attrs) := by
  intro d
  refine Step.reverts_bind (Step.keeps_ofExcept _) fun file => ?_
  refine Step.reverts_bind (Step.keeps_ofExcept _) fun sc => ?_
  refine Step.reverts_bind (Step.keeps_ofExcept _) fun vars => ?_
  refine (restores_target u attrs file d).andThen fun t => ?_
  cases t with
  | none => simp
  | some t => simp

end Include

theorem Builtin.restores_compile (b : Builtin) : Work.Restores (b.compile env merge u attrs) := by
  cases b with
  | loop => exact Work.restores_withDraft (LoopTag.start.reverts_compile attrs)
  | fallback => exact Work.restores_withDraft (LoopTag.fallback.reverts_compile attrs)
  | endLoop => exact Work.restores_withDraft (LoopTag.finish.reverts_compile attrs)
  | «include» => exact Include.restores_compile u attrs
  | leftDelimiter => exact Work.restores_withDraft (Delimiter.reverts_compileTag _)
  | rightDelimiter => exact Work.restores_withDraft (Delimiter.reverts_compileTag _)
  | special => exact Work.restores_withDraft Special.reverts_compileTag

/-- What a tag makes of the open blocks: a loop opens one, its fallback takes the place of the loop,
and the end of a loop closes the innermost one. -/
def Builtin.Turns (u : TagUse) (b : Builtin) (bs bs' : List Block) : Prop :=
  match b with
  | .loop => bs' = ⟨.loop, Loop.closers, u.line⟩ :: bs
  | .fallback => ∃ opened rest, bs = opened :: rest ∧ opened.kind = .loop ∧
      bs' = ⟨.fallback, Loop.fallbackClosers, u.line⟩ :: rest
  | .endLoop => ∃ opened, bs = opened :: bs'
  | _ => bs' = bs

structure Builtin.Advances (u : TagUse) (b : Builtin) (d d' : Draft) : Prop where
  hasCode : d'.hasCode = true
  source : d'.source = d.source
  inBlock : d'.inBlock = d.inBlock
  dependencies : d.dependencies.keys ⊆ d'.dependencies.keys
  plugins : ∀ name p, d.plugins.find? name = some p → d'.plugins.find? name = some p
  blocks : b.Turns u d.blocks d'.blocks

theorem Builtin.advances_of_blocks {b : Builtin} {d : Draft} {bs : List Block}
    (h : b.Turns u d.blocks bs) : b.Advances u d { d with blocks := bs, hasCode := true } where
  hasCode := rfl
  source := rfl
  inBlock := rfl
  dependencies := List.Subset.refl _
  plugins _ _ hp := hp
  blocks := h

theorem Draft.exists_of_closeBlock {closer : String} {expected : List BlockKind} {line : Line}
    {b : Block} {d d' : Draft} (h : d.closeBlock closer expected line = .ok (b, d')) :
    ∃ bs, d' = { d with blocks := bs } := by
  unfold closeBlock at h
  split at h
  · cases h
  · split at h
    · cases h
      exact ⟨_, rfl⟩
    · cases h

theorem LoopTag.exists_of_yields {tag : LoopTag} {d d' : Draft} {code : String}
    (h : (tag.compile u attrs).Yields d code d') :
    ∃ bs, d' = { d with blocks := bs, hasCode := true } := by
  have hout := yields_compile.1 h
  unfold outcome at hout
  cases tag with
  | start =>
    cases hhead : Loop.head u attrs with
    | error e =>
      rw [hhead] at hout
      cases hout
    | ok head =>
      rw [hhead] at hout
      cases hout
      exact ⟨_, rfl⟩
  | fallback =>
    cases hclose : d.closeBlock u.tag [.loop] u.line with
    | error e =>
      rw [hclose] at hout
      cases hout
    | ok closed =>
      obtain ⟨bs, hbs⟩ := Draft.exists_of_closeBlock hclose
      rw [hclose] at hout
      cases hout
      rw [hbs]
      exact ⟨_, rfl⟩
  | finish =>
    cases hclose : d.closeBlock u.tag [.loop, .fallback] u.line with
    | error e =>
      rw [hclose] at hout
      cases hout
    | ok closed =>
      obtain ⟨bs, hbs⟩ := Draft.exists_of_closeBlock hclose
      rw [hclose] at hout
      cases hout
      rw [hbs]
      exact ⟨_, rfl⟩

theorem LoopTag.advances_of_yields (tag : LoopTag) (attrs : Attributes) {d d' : Draft}
    {code : String} (h : (tag.compile u attrs).Yields d code d') : tag.builtin.Advances u d d' := by
  have hturns := turns_of_yields h
  obtain ⟨bs, rfl⟩ := exists_of_yields h
  refine Builtin.advances_of_blocks ?_
  generalize d.blocks = before at hturns ⊢
  cases hturns with
  | start _ => rfl
  | fallback hkind => exact ⟨_, _, rfl, hkind, rfl⟩
  | finish => exact ⟨_, rfl⟩

theorem Plugins.find?_merge {t : Plugins} (u : Plugins) {name : String} {p : Plugin}
    (h : t.find? name = some p) : (t.merge u).find? name = some p := by
  unfold merge
  induction u.entries generalizing t with
  | nil => exact h
  | cons x xs ih =>
    apply ih
    rw [Table.find?_insertNew]
    split
    · rw [h, Option.some_or]
    · exact h

structure Draft.Extends (d d' : Draft) : Prop where
  source : d'.source = d.source
  inBlock : d'.inBlock = d.inBlock
  dependencies : d.dependencies.keys ⊆ d'.dependencies.keys
  plugins : ∀ name p, d.plugins.find? name = some p → d'.plugins.find? name = some p
  blocks : d'.blocks = d.blocks

theorem Draft.Extends.refl (d : Draft) : d.Extends d :=
  ⟨rfl, rfl, List.Subset.refl _, fun _ _ h => h, rfl⟩

theorem Draft.extends_absorb (d : Draft) (c : Compiled) : d.Extends (d.absorb c) where
  source := rfl
  inBlock := rfl
  dependencies _ huid := Dependencies.mem_keys_merge.2 (.inl huid)
  plugins _ _ hp := Plugins.find?_merge c.plugins hp
  blocks := rfl

theorem Include.extends_target {file : String} {t : Option Target} {w w' : Work}
    (h : (target env merge u attrs file).Yields w t w') : w.draft.Extends w'.draft := by
  obtain ⟨-, -, -, rfl⟩ | ⟨-, ⟨_, -, -, rfl⟩ | ⟨-, hnew⟩⟩ := yields_target.1 h
  · exact .refl _
  · exact .refl _
  · obtain ⟨_, _, -, ⟨-, -, rfl⟩ | ⟨-, _, c, _, -, -, -, rfl⟩⟩ := yields_mergeNew.1 hnew
    · exact .refl _
    · exact w.draft.extends_absorb c

theorem Include.advances_of_yields {w w' : Work} {code : String}
    (h : (compile env merge u attrs).Yields w code w') :
    Builtin.include.Advances u w.draft w'.draft := by
  obtain ⟨_, _, _, _, _, -, htarget, -, rfl⟩ := yields_compile.1 h
  have hextends := extends_target htarget
  exact ⟨rfl, hextends.source, hextends.inBlock, hextends.dependencies, hextends.plugins,
    hextends.blocks⟩

theorem Builtin.advances_of_yields {b : Builtin} {w w' : Work} {code : String}
    (h : (b.compile env merge u attrs).Yields w code w') : b.Advances u w.draft w'.draft := by
  have withDraft {step : Step Draft String} (hstep : ∀ {d code d'}, step.Yields d code d' →
      b.Advances u d d') (hrun : (Work.withDraft step).Yields w code w') :
      b.Advances u w.draft w'.draft := by
    obtain ⟨d, hd, rfl⟩ := Work.yields_withDraft.1 hrun
    exact hstep hd
  cases b with
  | loop => exact withDraft (LoopTag.start.advances_of_yields attrs) h
  | fallback => exact withDraft (LoopTag.fallback.advances_of_yields attrs) h
  | endLoop => exact withDraft (LoopTag.finish.advances_of_yields attrs) h
  | «include» => exact Include.advances_of_yields h
  | leftDelimiter =>
    refine withDraft (fun hd => ?_) h
    simp only [Delimiter.compileTag, Step.yields_modify_bind, Step.yields_pure] at hd
    exact hd.2 ▸ advances_of_blocks rfl
  | rightDelimiter =>
    refine withDraft (fun hd => ?_) h
    simp only [Delimiter.compileTag, Step.yields_modify_bind, Step.yields_pure] at hd
    exact hd.2 ▸ advances_of_blocks rfl
  | special =>
    refine withDraft (fun hd => ?_) h
    obtain ⟨_, -, -, rfl⟩ := Special.yields_compileTag hd
    exact advances_of_blocks rfl

/-- Whatever its attributes, the session and the draft: a built-in tag that fails leaves the draft
as it was, and one that succeeds advances it. -/
theorem Builtin.draft_compile (env : Environment) (merge : Option Include.Merger) (u : TagUse)
    (attrs : Attributes) (b : Builtin) (w : Work) :
    match (b.compile env merge u attrs).run w with
    | (.ok _, w') => b.Advances u w.draft w'.draft
    | (.error _, w') => w'.draft = w.draft := by
  rcases h : ((b.compile env merge u attrs).run w : Except CompileError String × Work) with ⟨r, w'⟩
  cases r with
  | ok code => exact advances_of_yields h
  | error e => exact restores_compile b w.draft w e w' rfl h

end TagTemplate
