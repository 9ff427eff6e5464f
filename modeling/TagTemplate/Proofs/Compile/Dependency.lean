import TagTemplate.Proofs.Compile.Gathering
import TagTemplate.Proofs.Library

namespace TagTemplate

variable {env : Environment} {library : Library} {name : String} {inBlock : Bool}
  {trust trust' : TrustIndex} {a : Artifact}

theorem Node.dependencies_compile {n : Node} {w w' : Work} {piece : Piece}
    (htags : env.tags = Registry.builtin) (h : (n.compile env none).Yields w piece w') :
    w'.draft.dependencies = w.draft.dependencies := by
  cases n with
  | text content => rw [(Node.yields_compile_text.1 h).2]
  | print value line =>
    obtain ⟨code, d, hd, -, rfl⟩ := Node.yields_compile_print.1 h
    obtain ⟨fragment, plugins, -, -, -, rfl⟩ := Expr.yields_compilePrint.1 hd
    rfl
  | tag t =>
    obtain ⟨code, ht, -⟩ := Node.yields_compile_tag.1 h
    obtain ⟨_, _, _, -, htables⟩ := Tag.tables_compile htags ht
    exact congrArg Prod.fst htables

def Gathering.dependencyTable (htags : env.tags = Registry.builtin) :
    Gathering env String Dependency where
  table := Draft.dependencies
  source s uid d := s.recompiled = false ∧ uid = s.uid ∧ d = s.dependency
  node _ _ _ := False
  gains_start s inBlock := by
    unfold Draft.start
    cases s.recompiled with
    | true => exact (Table.Gains.refl _).congr (by simp)
    | false => exact (Table.Gains.insert _ _ _).congr (by simp)
  gains_node h := by
    rw [Node.dependencies_compile htags h]
    exact Table.Gains.refl _
  gains_merge m d pieces p new h := by
    refine Table.Gains.congr (Dependencies.gains_merge _ h) ?_
    simp

def Source.entry (s : Source) : String × Dependency := (s.uid, ⟨s.name, s.timestamp, s.kind⟩)

theorem Library.entry_source (library : Library) (name : String) :
    (library.source name).entry =
      ((library.source name).uid, (library.source name).dependency) := by
  rw [Source.entry, Source.dependency, Source.label, library.path_source]
  rfl

namespace Compilation

variable (c : Compilation (env.over library) name inBlock trust a)

def Merges (template : String) : Prop := ∃ k, .merged k ∈ c.pass.trace ∧ k.template = template

def Collisionless : Prop :=
  ∀ n n', n = name ∨ c.Merges n → n' = name ∨ c.Merges n' →
    digest (library.identity n) = digest (library.identity n') →
    library.identity n = library.identity n'

theorem source_eq : c.source = library.source name :=
  (yields_resolveEntry_over.1 c.resolved).2.1

theorem pass_eq :
    c.pass =
      ((compileTemplate (env.over library) (library.source name) inBlock).run { trust }).2 := by
  have hcompiled := c.compiled
  obtain ⟨-, hs, htrust⟩ := yields_resolveEntry_over.1 c.resolved
  rw [hs, htrust] at hcompiled
  exact (congrArg Prod.snd hcompiled).symm

theorem involves_iff_merges {s : Source} :
    c.Involves s ↔ s = library.source name ∨ ∃ n, c.Merges n ∧ s = library.source n := by
  rw [Involves, c.source_eq]
  refine or_congr_right ⟨?_, ?_⟩
  · rintro ⟨k, r, hcompleted⟩
    have hmerged := c.mergedFrom_of_completed hcompleted
    obtain ⟨index, index', hlocated⟩ := hmerged.located
    exact ⟨_, ⟨k, hmerged.merged, rfl⟩, (Environment.yields_locate_over.1 hlocated).1⟩
  · rintro ⟨n, ⟨k, hk, rfl⟩, rfl⟩
    obtain ⟨s, r, hmerged⟩ := c.exists_mergedFrom hk
    obtain ⟨index, index', hlocated⟩ := hmerged.located
    rw [← (Environment.yields_locate_over.1 hlocated).1]
    exact ⟨k, r, hmerged.completed⟩

theorem not_recompiled_of_merges {n : String} (h : c.Merges n) :
    (library.source n).recompiled = false := by
  obtain ⟨k, hk, rfl⟩ := h
  obtain ⟨s, r, hmerged⟩ := c.exists_mergedFrom hk
  obtain ⟨index, index', hlocated⟩ := hmerged.located
  rw [← (Environment.yields_locate_over.1 hlocated).1]
  exact Include.not_recompiled_of_isMergeable hmerged.mergeable

def Records (n : String) : Prop :=
  n = name ∧ (library.source name).recompiled = false ∨ c.Merges n

theorem involves_not_recompiled_iff {s : Source} :
    c.Involves s ∧ s.recompiled = false ↔ ∃ n, c.Records n ∧ s = library.source n := by
  rw [involves_iff_merges]
  constructor
  · rintro ⟨rfl | ⟨n, hn, rfl⟩, hs⟩
    · exact ⟨name, .inl ⟨rfl, hs⟩, rfl⟩
    · exact ⟨n, .inr hn, rfl⟩
  · rintro ⟨n, ⟨rfl, hs⟩ | hn, rfl⟩
    · exact ⟨.inl rfl, hs⟩
    · exact ⟨.inr ⟨n, hn, rfl⟩, c.not_recompiled_of_merges hn⟩

theorem gains_dependencies (htags : env.tags = Registry.builtin) :
    Table.empty.Gains (fun uid d => ∃ n, c.Records n ∧ (uid, d) = (library.source n).entry)
      a.dependencies := by
  obtain ⟨d, pieces, hresult, hgains⟩ := c.gains (Gathering.dependencyTable htags)
  have hdependencies : a.dependencies = d.dependencies := by
    rw [c.artifact, Artifact.ofCompiled, hresult]
    rfl
  rw [hdependencies]
  refine hgains.congr fun uid dependency => ?_
  simp only [Gathering.Brings, Gathering.dependencyTable, and_false, exists_false, or_false]
  constructor
  · rintro ⟨s, hs, hkept, rfl, rfl⟩
    obtain ⟨n, hn, rfl⟩ := c.involves_not_recompiled_iff.1 ⟨hs, hkept⟩
    exact ⟨n, hn, (library.entry_source n).symm⟩
  · rintro ⟨n, hn, heq⟩
    rw [library.entry_source, Prod.mk.injEq] at heq
    obtain ⟨hs, hkept⟩ := c.involves_not_recompiled_iff.2 ⟨n, hn, rfl⟩
    exact ⟨library.source n, hs, hkept, heq⟩

theorem mem_dependencies (htags : env.tags = Registry.builtin) (hc : c.Collisionless)
    {entry : String × Dependency} :
    entry ∈ a.dependencies.entries ↔ ∃ n, c.Records n ∧ entry = (library.source n).entry := by
  refine (c.gains_dependencies htags).mem_entries ?_
  rintro uid d d' ⟨n, hn, heq⟩ ⟨n', hn', heq'⟩
  rw [library.entry_source, Prod.mk.injEq, library.uid_source] at heq heq'
  have hidentity := hc n n' (hn.imp_left And.left) (hn'.imp_left And.left) (heq.1.symm.trans heq'.1)
  rw [heq.2, heq'.2, library.source_eq_of_identity hidentity]

end Compilation

def Event.mergesOnly (name : String) : Event → Bool
  | .merged k => k.template == name
  | _ => true

/-- The dependencies of an artifact are the source of its template, unless that is compiled anew at
each use, and the source of each template that was merged, once each. An include that calls a
template merged before loses none. -/
theorem compileArtifact_dependencies (htags : env.tags = Registry.builtin)
    (h : (compileArtifact (env.over library) name inBlock).Yields trust a trust') :
    ∃ c : Compilation (env.over library) name inBlock trust a,
      a.dependencies.keys.Nodup ∧
      (c.Collisionless →
        (∀ entry, entry ∈ a.dependencies.entries ↔
          ((library.source name).recompiled = false ∧ entry = (library.source name).entry) ∨
            ∃ k, .merged k ∈ c.pass.trace ∧ entry = (library.source k.template).entry) ∧
        ∀ file compileId function code, .called file compileId function code ∈ c.pass.trace →
          (library.source (Include.key file compileId).template).entry ∈
            a.dependencies.entries) := by
  obtain ⟨c, -⟩ := exists_compilation h
  refine ⟨c, (c.gains_dependencies htags).nodup List.nodup_nil, fun hc => ⟨fun entry => ?_, ?_⟩⟩
  · rw [c.mem_dependencies htags hc]
    constructor
    · rintro ⟨n, ⟨rfl, hs⟩ | ⟨k, hk, rfl⟩, rfl⟩
      · exact .inl ⟨hs, rfl⟩
      · exact .inr ⟨k, hk, rfl⟩
    · rintro (⟨hs, rfl⟩ | ⟨k, hk, rfl⟩)
      · exact ⟨name, .inl ⟨rfl, hs⟩, rfl⟩
      · exact ⟨_, .inr ⟨k, hk, rfl⟩, rfl⟩
  · intro file compileId function code hcall
    obtain ⟨-, -, r, hr, -⟩ := c.call htags hcall
    obtain ⟨s, result, hcompleted, -⟩ := (c.finished hr).compiled
    exact (c.mem_dependencies htags hc).2
      ⟨_, .inr ⟨_, (c.mergedFrom_of_completed hcompleted).merged, rfl⟩, rfl⟩

theorem compileArtifact_dependencies_sample :
    ∃ a trust', (compileArtifact ((Environment.sample none).over .sample) "main" false).Yields {} a
        trust' ∧
      a.dependencies.keys.length = 2 ∧
      ∃ c : Compilation ((Environment.sample none).over .sample) "main" false {} a,
        c.Collisionless ∧ ∀ entry, entry ∈ a.dependencies.entries ↔
          ((Library.sample.source "main").recompiled = false ∧
            entry = (Library.sample.source "main").entry) ∨
          ∃ k, .merged k ∈ c.pass.trace ∧ entry = (Library.sample.source k.template).entry := by
  obtain ⟨a, trust', h, hlength⟩ : ∃ a trust',
      (compileArtifact ((Environment.sample none).over .sample) "main" false).Yields {} a trust' ∧
      (a.dependencies.keys.length == 2) = true :=
    Step.exists_yields (by decide +kernel)
  obtain ⟨c, -, hdependencies⟩ := compileArtifact_dependencies rfl h
  have htrace : c.pass.trace.all (Event.mergesOnly "part") = true := by
    rw [c.pass_eq]
    decide +kernel
  have hpart (n : String) (hn : c.Merges n) : n = "part" := by
    obtain ⟨k, hk, rfl⟩ := hn
    exact beq_iff_eq.1 (List.all_eq_true.1 htrace _ hk)
  have hdigest : digest (Library.sample.identity "main") ≠
      digest (Library.sample.identity "part") := by
    decide +kernel
  have hc : c.Collisionless := by
    rintro n n' hn hn' heq
    obtain rfl | rfl := hn.imp_right (hpart n) <;> obtain rfl | rfl := hn'.imp_right (hpart n')
    · rfl
    · exact absurd heq hdigest
    · exact absurd heq.symm hdigest
    · rfl
  exact ⟨a, trust', h, beq_iff_eq.1 hlength, c, hc, (hdependencies hc).1⟩

end TagTemplate
