import TagTemplate.Proofs.Compile.Merged
import TagTemplate.Proofs.Compile.Merger
import TagTemplate.Proofs.Gains

/-!
What compilations gather. The draft of a template collects entries in tables; a template that is
merged hands its tables on to the one that it is merged into. At the end the first template has the
entries of every source that was compiled, however deep, and no others.
-/

namespace TagTemplate

variable {α κ : Type} {env : Environment}

/-! Merged templates among the events -/

structure MergeKey.MergedFrom (env : Environment) (events : List Event) (k : MergeKey) (s : Source)
    (c : Compiled) : Prop where
  merged : .merged k ∈ events
  compiled : ∃ depth, .compiled s depth ∈ events
  completed : .completed k s c ∈ events
  located : ∃ index index', (env.locate k.template).Yields index s index'
  mergeable : Include.isMergeable s = true

theorem MergeKey.MergedFrom.mono {events events' : List Event} {k : MergeKey} {s : Source}
    {c : Compiled} (h : k.MergedFrom env events s c) (hsub : events ⊆ events') :
    k.MergedFrom env events' s c := by
  obtain ⟨depth, hdepth⟩ := h.compiled
  exact ⟨hsub h.merged, ⟨depth, hsub hdepth⟩, hsub h.completed, h.located, h.mergeable⟩

def Event.Notes (k : MergeKey) (s : Source) (c : Compiled) (event : Event) : Prop :=
  event = .merged k ∨ (∃ depth, event = .compiled s depth) ∨ event = .completed k s c

theorem PlainPass.quiet {piece : Piece} {p p' : Pass} (h : PlainPass env piece p p') :
    p.Quiet p' := by
  refine ⟨h.session, ?_⟩
  obtain htrace | ⟨file, compileId, function, code, htrace⟩ := h.trace
  · exact ⟨[], htrace, nofun⟩
  · exact ⟨[_], htrace, by simp [Event.isCall]⟩

theorem Run.noted {nodes : List Node} {w w' : Work} {pieces : List Piece}
    (h : Run env nodes w pieces w') {event : Event} (hevent : event ∈ w'.pass.trace)
    (hcall : event.isCall = false) :
    event ∈ w.pass.trace ∨ ∃ k s c, k.MergedFrom env w'.pass.trace s c ∧ event.Notes k s c := by
  induction h with
  | nil => exact .inl hevent
  | plain hn _ ih =>
    refine (ih hevent).imp_left fun hmem => ?_
    obtain ⟨calls, htrace, hcalls⟩ := (Node.pass_compile hn).quiet.trace
    rw [htrace] at hmem
    refine (List.mem_append.1 hmem).resolve_left fun hmem => ?_
    exact Bool.noConfusion (hcall.symm.trans (hcalls event hmem))
  | @merge t ns w inner w₁ pieces w' m _ hinner _ hrest ihInner ihRest =>
    -- the events of an include stand around those of the template that it merges
    have hlater : w₁.pass.trace ⊆ w'.pass.trace := fun e he =>
      hrest.trace_suffix.subset (List.mem_cons_of_mem _ (List.mem_cons_of_mem _ he))
    have hentered : m.start.pass.trace ⊆ w'.pass.trace :=
      List.Subset.trans hinner.trace_suffix.subset hlater
    have hmerged : m.key.MergedFrom env w'.pass.trace m.source (w₁.draft.compiled inner) := {
      merged := hentered (List.mem_cons_of_mem _ List.mem_cons_self)
      compiled := ⟨_, hentered List.mem_cons_self⟩
      completed := hrest.trace_suffix.subset (List.mem_cons_of_mem _ List.mem_cons_self)
      located := ⟨_, _, m.located⟩
      mergeable := m.mergeable }
    obtain hfinish | hnew := ihRest hevent
    · rcases List.mem_cons.1 hfinish with rfl | hfinish
      · cases hcall
      rcases List.mem_cons.1 hfinish with rfl | hfinish
      · exact .inr ⟨_, _, _, hmerged, .inr (.inr rfl)⟩
      obtain hstart | ⟨k, s, c, hinnerMerged, hnotes⟩ := ihInner hfinish
      · rcases List.mem_cons.1 hstart with rfl | hstart
        · exact .inr ⟨_, _, _, hmerged, .inr (.inl ⟨_, rfl⟩)⟩
        rcases List.mem_cons.1 hstart with rfl | hbefore
        · exact .inr ⟨_, _, _, hmerged, .inl rfl⟩
        · exact .inl hbefore
      · exact .inr ⟨k, s, c, hinnerMerged.mono hlater, hnotes⟩
    · exact .inr hnew

theorem Include.not_recompiled_of_isMergeable {s : Source} (h : isMergeable s = true) :
    s.recompiled = false := by
  simp only [isMergeable, Bool.and_eq_true, Bool.not_eq_true'] at h
  exact h.2

/-! Tables of drafts -/

theorem Dependencies.gains_entries (t u : Dependencies) :
    t.Gains (fun uid d => (uid, d) ∈ u.entries) (t.merge u) :=
  Table.Gains.foldl (fun t x => .insert t x.1 x.2) u.entries t

theorem Dependencies.mem_keys_merge {t u : Dependencies} {uid : String} :
    uid ∈ (t.merge u).keys ↔ uid ∈ t.keys ∨ uid ∈ u.keys := by
  rw [(Dependencies.gains_entries t u).mem_keys]
  simp [Table.keys]

theorem Dependencies.gains_merge {new : String → Dependency → Prop} (t : Dependencies)
    {u : Dependencies} (h : Table.empty.Gains new u) : t.Gains new (t.merge u) :=
  (t.gains_entries u).of_entries h

theorem Plugins.gains_merge {new : String → Plugin → Prop} (t : Plugins) {u : Plugins}
    (h : Table.empty.Gains new u) : t.Gains new (t.merge u) :=
  (Table.Gains.foldl (fun t x => .insertNew t x.1 x.2) u.entries t).of_entries h

/-- Entries that drafts collect in one of their tables: from their source, from each of their nodes,
and from the templates that they merge. -/
structure Gathering (env : Environment) (κ α : Type) [DecidableEq κ] where
  table : Draft → Table κ α
  source : Source → κ → α → Prop
  node : Node → κ → α → Prop
  gains_start : ∀ s inBlock, Table.empty.Gains (source s) (table (Draft.start s inBlock))
  gains_node : ∀ {n w piece w'}, (Node.compile env none n).Yields w piece w' →
    (table w.draft).Gains (node n) (table w'.draft)
  gains_merge : ∀ {t w} (m : Merging env t w) (d : Draft) (pieces : List Piece) (p : Pass) {new},
    Table.empty.Gains new (table d) →
    (table w.draft).Gains (fun k a => node (.tag t) k a ∨ new k a)
      (table (m.finish (d.compiled pieces) p).draft)

namespace Gathering

variable [DecidableEq κ] (g : Gathering env κ α)

def Brings (s : Source) (k : κ) (a : α) : Prop :=
  g.source s k a ∨ ∃ nodes, env.parse s = .ok nodes ∧ ∃ n ∈ nodes, g.node n k a

def BringsAll (events : List Event) (k : κ) (a : α) : Prop :=
  ∃ s depth, .compiled s depth ∈ events ∧ g.Brings s k a

theorem bringsAll_append {events events' : List Event} {k : κ} {a : α} :
    g.BringsAll (events ++ events') k a ↔ g.BringsAll events k a ∨ g.BringsAll events' k a := by
  simp only [BringsAll, List.mem_append, or_and_right, exists_or]

theorem not_bringsAll_calls {calls : List Event} (h : ∀ event ∈ calls, event.isCall = true) (k : κ)
    (a : α) : ¬ g.BringsAll calls k a := by
  rintro ⟨s, depth, hmem, -⟩
  cases h _ hmem

theorem gains_run {nodes : List Node} {w w' : Work} {pieces : List Piece}
    (h : Run env nodes w pieces w') : ∃ events, w'.pass.trace = events ++ w.pass.trace ∧
      (g.table w.draft).Gains (fun k a => (∃ n ∈ nodes, g.node n k a) ∨ g.BringsAll events k a)
        (g.table w'.draft) := by
  induction h with
  | nil => exact ⟨[], rfl, (Table.Gains.refl _).congr (by simp [BringsAll])⟩
  | plain hn _ ih =>
    obtain ⟨events, htrace, hgains⟩ := ih
    obtain ⟨calls, hquiet, hcalls⟩ := (Node.pass_compile hn).quiet.trace
    refine ⟨events ++ calls, by rw [htrace, hquiet, List.append_assoc], ?_⟩
    refine ((g.gains_node hn).trans hgains).congr fun k a => ?_
    have hnone := g.not_bringsAll_calls hcalls k a
    simp only [bringsAll_append, hnone, or_false, List.exists_mem_cons_iff, or_assoc]
  | @merge t ns w inner w₁ pieces w' m _ _ _ _ ihInner ihRest =>
    obtain ⟨events, htrace, hgains⟩ := ihInner
    obtain ⟨events', htrace', hgains'⟩ := ihRest
    -- the draft of the merged template was empty before it took its source in
    have hinner := (g.gains_start m.source w.draft.inBlock).trans hgains
    refine ⟨events' ++ [.called m.file (m.attrs.code? "compile_id") m.key.function m.code,
      .completed m.key m.source (w₁.draft.compiled inner)] ++ events ++
      [.compiled m.source m.entered.session.depth, .merged m.key], ?_, ?_⟩
    · rw [htrace']
      simp [Merging.finish, htrace, Merging.start, Merging.entered, Pass.begin, Pass.note]
    · refine ((g.gains_merge m w₁.draft inner w₁.pass hinner).trans hgains').congr fun k a => ?_
      have hsource : g.BringsAll [.compiled m.source m.entered.session.depth, .merged m.key] k a ↔
          g.Brings m.source k a := by
        simp [BringsAll]
      have hbrings : g.Brings m.source k a ↔
          g.source m.source k a ∨ ∃ n ∈ m.nodes, g.node n k a := by
        simp [Brings, m.parsed]
      have hcalls : ¬ g.BringsAll [
          .called m.file (m.attrs.code? "compile_id") m.key.function m.code,
          .completed m.key m.source (w₁.draft.compiled inner)] k a := by
        simp [BringsAll]
      simp only [bringsAll_append, hsource, hbrings, hcalls, or_false, List.exists_mem_cons_iff]
      grind

end Gathering

namespace Compilation

variable {name : String} {inBlock : Bool} {trust : TrustIndex} {a : Artifact}
  (c : Compilation env name inBlock trust a)

theorem noted {event : Event} (h : event ∈ c.pass.trace) (hcall : event.isCall = false) :
    event = .compiled c.source 0 ∨
      ∃ k s r, k.MergedFrom env c.pass.trace s r ∧ event.Notes k s r := by
  obtain ⟨nodes, pieces, w, hrun, hpass, -⟩ := c.exists_run
  rw [← hpass] at h ⊢
  exact (hrun.noted h hcall).imp_left List.mem_singleton.1

theorem exists_mergedFrom {k : MergeKey} (h : .merged k ∈ c.pass.trace) :
    ∃ s r, k.MergedFrom env c.pass.trace s r := by
  obtain heq | ⟨k', s, r, hmerged, hnotes⟩ := c.noted h rfl
  · cases heq
  · obtain heq | ⟨_, heq⟩ | heq := hnotes
    · cases heq
      exact ⟨s, r, hmerged⟩
    · cases heq
    · cases heq

theorem mergedFrom_of_completed {k : MergeKey} {s : Source} {r : Compiled}
    (h : .completed k s r ∈ c.pass.trace) : k.MergedFrom env c.pass.trace s r := by
  obtain heq | ⟨k', s', r', hmerged, hnotes⟩ := c.noted h rfl
  · cases heq
  · obtain heq | ⟨_, heq⟩ | heq := hnotes
    · cases heq
    · cases heq
    · cases heq
      exact hmerged

def Involves (s : Source) : Prop := s = c.source ∨ ∃ k r, .completed k s r ∈ c.pass.trace

theorem involves_iff {s : Source} :
    c.Involves s ↔ ∃ depth, .compiled s depth ∈ c.pass.trace := by
  constructor
  · rintro (rfl | ⟨k, r, hcompleted⟩)
    · obtain ⟨nodes, pieces, w, hrun, hpass, -⟩ := c.exists_run
      exact ⟨0, hpass ▸ hrun.trace_suffix.subset List.mem_cons_self⟩
    · exact (c.mergedFrom_of_completed hcompleted).compiled
  · rintro ⟨depth, hcompiled⟩
    obtain heq | ⟨k, s', r, hmerged, hnotes⟩ := c.noted hcompiled rfl
    · cases heq
      exact .inl rfl
    · obtain heq | ⟨_, heq⟩ | heq := hnotes
      · cases heq
      · cases heq
        exact .inr ⟨k, r, hmerged.completed⟩
      · cases heq

theorem gains [DecidableEq κ] (g : Gathering env κ α) : ∃ d pieces, c.result = d.compiled pieces ∧
    Table.empty.Gains (fun k a => ∃ s, c.Involves s ∧ g.Brings s k a) (g.table d) := by
  obtain ⟨nodes, pieces, w, hparse, hrun, -, hresult, hpass⟩ :=
    compiles_of_compileTemplate c.compiled
  obtain ⟨events, htrace, hgains⟩ := g.gains_run hrun
  refine ⟨w.draft, pieces, hresult, ((g.gains_start c.source inBlock).trans hgains).congr
    fun k a => ?_⟩
  have hall : (∃ s, c.Involves s ∧ g.Brings s k a) ↔ g.BringsAll c.pass.trace k a := by
    simp only [involves_iff, Gathering.BringsAll]
    constructor
    · rintro ⟨s, ⟨depth, hmem⟩, hbrings⟩
      exact ⟨s, depth, hmem, hbrings⟩
    · rintro ⟨s, depth, hmem, hbrings⟩
      exact ⟨s, ⟨depth, hmem⟩, hbrings⟩
  have hentry : g.BringsAll [.compiled c.source 0] k a ↔
      g.source c.source k a ∨ ∃ n ∈ nodes, g.node n k a := by
    simp [Gathering.BringsAll, Gathering.Brings, hparse]
  have htotal : c.pass.trace = events ++ [.compiled c.source 0] := hpass ▸ htrace
  rw [hall, htotal, g.bringsAll_append, hentry, ← or_assoc, or_comm]

end Compilation

/-! Built-in tags -/

def Draft.tables (d : Draft) : Dependencies × Plugins := (d.dependencies, d.plugins)

def Draft.Spares (step : Step Draft α) : Prop :=
  ∀ {d : Draft} {a : α} {d' : Draft}, step.Yields d a d' → d'.tables = d.tables

namespace Draft

theorem spares_pure (a : α) : Spares (pure a) := by
  intro d b d' h
  rw [(Step.yields_pure.1 h).2]

theorem spares_ofExcept (r : Except CompileError α) : Spares (Step.ofExcept r) := by
  intro d a d' h
  rw [(Step.yields_ofExcept.1 h).2]

theorem spares_modify {f : Draft → Draft} (hf : ∀ d, (f d).tables = d.tables) :
    Spares (modify f) := by
  intro d a d' h
  rw [Step.yields_modify.1 h, hf]

theorem spares_bind {β : Type} {x : Step Draft α} {f : α → Step Draft β} (hx : Spares x)
    (hf : ∀ a, Spares (f a)) : Spares (x >>= f) := by
  intro d b d' h
  obtain ⟨a, d₁, ha, hb⟩ := Step.yields_bind.1 h
  exact (hf a hb).trans (hx ha)

theorem tables_closeBlock {closer : String} {expected : List BlockKind} {line : Line}
    {d d' : Draft} {b : Block} (h : closeBlock closer expected line d = .ok (b, d')) :
    d'.tables = d.tables := by
  unfold closeBlock at h
  split at h
  · cases h
  · split at h
    · cases h
      rfl
    · cases h

end Draft

theorem Loop.spares_close (u : TagUse) (expected : List BlockKind) :
    Draft.Spares (close u expected) := by
  intro d b d' h
  rw [close, Step.yields_get_bind, Step.yields_bind] at h
  obtain ⟨⟨b', d₁⟩, d₂, hclose, h⟩ := h
  obtain ⟨hclose, rfl⟩ := Step.yields_ofExcept.1 hclose
  have hset : (modify (fun _ => d₁) >>= fun _ => pure b' : Step Draft Block).Yields d₂ b d' := h
  rw [Step.yields_modify_bind] at hset
  rw [(Step.yields_pure.1 hset).2]
  exact Draft.tables_closeBlock hclose

theorem Work.tables_withDraft {step : Step Draft α} (hstep : Draft.Spares step) {w w' : Work}
    {a : α} (h : (Work.withDraft step).Yields w a w') : w'.draft.tables = w.draft.tables := by
  obtain ⟨d, hd, rfl⟩ := Work.yields_withDraft.1 h
  exact hstep hd

theorem Include.tables_compile {u : TagUse} {attrs : Attributes} {w w' : Work} {code : String}
    (h : (compile env none u attrs).Yields w code w') : w'.draft.tables = w.draft.tables := by
  obtain ⟨file, vars, sc, t, w₁, -, ht, -, rfl⟩ := Include.yields_compile.1 h
  obtain ⟨-, -, -, rfl⟩ | ⟨-, ⟨function, -, -, rfl⟩ | ⟨-, hnew⟩⟩ := yields_target.1 ht
  · rfl
  · rfl
  · obtain ⟨s, trust, -, ⟨-, -, rfl⟩ | ⟨-, merger, _, _, hnone, -⟩⟩ := yields_mergeNew.1 hnew
    · rfl
    · cases hnone

theorem Builtin.tables_compile {b : Builtin} {u : TagUse} {attrs : Attributes} {w w' : Work}
    {code : String} (h : (b.compile env none u attrs).Yields w code w') :
    w'.draft.tables = w.draft.tables := by
  have marks (code : String) :
      Draft.Spares (modify Draft.marked >>= fun _ => pure code : Step Draft String) :=
    Draft.spares_bind (Draft.spares_modify fun _ => rfl) fun _ => Draft.spares_pure code
  cases b with
  | «include» => exact Include.tables_compile h
  | loop =>
    refine Work.tables_withDraft (Draft.spares_bind (Draft.spares_ofExcept _) fun _ => ?_) h
    exact Draft.spares_bind (Draft.spares_modify fun _ => rfl) fun _ => Draft.spares_pure _
  | fallback =>
    refine Work.tables_withDraft (Draft.spares_bind (Loop.spares_close u _) fun _ => ?_) h
    exact Draft.spares_bind (Draft.spares_modify fun _ => rfl) fun _ => Draft.spares_pure _
  | endLoop =>
    exact Work.tables_withDraft (Draft.spares_bind (Loop.spares_close u _) fun _ => marks _) h
  | leftDelimiter => exact Work.tables_withDraft (marks _) h
  | rightDelimiter => exact Work.tables_withDraft (marks _) h
  | special =>
    refine Work.tables_withDraft (Draft.spares_bind (Draft.spares_ofExcept _) fun _ => ?_) h
    exact Draft.spares_bind (Draft.spares_ofExcept _) fun _ => marks _

theorem Work.tables_markedBy (code : String) (w : Work) :
    (w.markedBy code).draft.tables = w.draft.tables := by
  unfold markedBy
  split <;> rfl

theorem Tag.tables_compile {t : Tag} {w w' : Work} {code : String}
    (htags : env.tags = Registry.builtin) (h : (t.compile env none).Yields w code w') :
    ∃ spec attrs plugins, t.Prepared env spec attrs w.draft.plugins plugins ∧
      w'.draft.tables = (w.draft.dependencies, plugins) := by
  obtain ⟨spec, attrs, plugins, fragment, w₁, hprepared, hspec, -, rfl⟩ := Tag.yields_compile.1 h
  have hknown := hprepared.known
  rw [htags] at hknown
  obtain ⟨b, rfl⟩ := Registry.builtin_of_find? hknown
  exact ⟨_, attrs, plugins, hprepared,
    (Work.tables_markedBy fragment w₁).trans (Builtin.tables_compile hspec)⟩

end TagTemplate
