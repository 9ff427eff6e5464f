import TagTemplate.Proofs.Compile.Derivation
import TagTemplate.Proofs.Compile.Gathering
import TagTemplate.Proofs.Library

namespace TagTemplate

variable {env : Environment} {l l' : Library}

namespace Library

/-- The same names are known, and are compiled anew or never compiled alike. -/
structure Alike (l l' : Library) : Prop where
  names : ∀ key, key ∈ l.keys ↔ key ∈ l'.keys
  flags : ∀ key item item', l.find? key = some item → l'.find? key = some item' →
    item.recompiled = item'.recompiled ∧ item.uncompiled = item'.uncompiled

def AgreeOn (uids : List String) (l l' : Library) : Prop :=
  ∀ key item item', l.find? key = some item → l'.find? key = some item' →
    digest ("memory:" ++ key) ∈ uids →
    item.content = item'.content ∧ item.timestamp = item'.timestamp

theorem Alike.source_cases (h : l.Alike l') (name : String) :
    l'.source name = l.source name ∨ ∃ item item', Source.inline? name = none ∧
      l.find? (key name) = some item ∧ l'.find? (key name) = some item' := by
  cases hinline : Source.inline? name with
  | some s => exact .inl (by rw [source, source, hinline])
  | none =>
    cases hfind : l.find? (key name) with
    | none =>
      have hmissing := mt (h.names (key name)).2 (Table.find?_eq_none.1 hfind)
      exact .inl (by rw [source, source, hinline, hfind, Table.find?_eq_none.2 hmissing])
    | some item =>
      have hknown := (h.names (key name)).1 (Table.mem_keys_of_find? hfind)
      obtain ⟨item', hfind'⟩ := Table.mem_keys_iff.1 hknown
      exact .inr ⟨item, item', rfl, rfl, hfind'⟩

theorem Alike.isMergeable_source (h : l.Alike l') (name : String) :
    Include.isMergeable (l'.source name) = Include.isMergeable (l.source name) := by
  obtain heq | ⟨item, item', hinline, hfind, hfind'⟩ := h.source_cases name
  · rw [heq]
  · obtain ⟨hrecompiled, huncompiled⟩ := h.flags _ _ _ hfind hfind'
    rw [source, source, hinline, hfind, hfind']
    simp [Include.isMergeable, hrecompiled, huncompiled]

theorem Alike.source_eq (h : l.Alike l') {uids : List String} (hagree : AgreeOn uids l l')
    {name : String} (hname : (l.source name).uid ∈ uids) : l'.source name = l.source name := by
  obtain heq | ⟨item, item', hinline, hfind, hfind'⟩ := h.source_cases name
  · exact heq
  · obtain ⟨hrecompiled, huncompiled⟩ := h.flags _ _ _ hfind hfind'
    have hknown := Table.contains_eq_true.2 (Table.mem_keys_of_find? hfind)
    rw [uid_source, identity_of_inline_eq_none hinline, if_pos hknown] at hname
    obtain ⟨hcontent, htimestamp⟩ := hagree _ _ _ hfind hfind' hname
    rw [source, source, hinline, hfind, hfind']
    simp [hrecompiled, huncompiled, hcontent, htimestamp]

end Library

theorem Include.yields_compile_over (h : l.Alike l') {u : TagUse} {attrs : Attributes}
    {w w' : Work} {code : String}
    (hc : (compile (env.over l) none u attrs).Yields w code w') :
    (compile (env.over l') none u attrs).Yields w code w' := by
  obtain ⟨file, vars, sc, t, w₁, hreads, ht, rfl, rfl⟩ := yields_compile.1 hc
  refine yields_compile.2 ⟨file, vars, sc, t, w₁, hreads, yields_target.2 ?_, rfl, rfl⟩
  obtain ⟨hineligible, hrest⟩ | ⟨heligible, hhit | ⟨hmiss, hnew⟩⟩ := yields_target.1 ht
  · exact .inl ⟨fun hel => hineligible ⟨hel.requested, hel.kept, hel.literal⟩, hrest⟩
  · exact .inr ⟨⟨heligible.requested, heligible.kept, heligible.literal⟩, .inl hhit⟩
  · refine .inr ⟨⟨heligible.requested, heligible.kept, heligible.literal⟩, .inr ⟨hmiss, ?_⟩⟩
    obtain ⟨s, trust, hs, ⟨hdeclined, rfl, rfl⟩ | ⟨-, merger, _, _, hnone, -⟩⟩ :=
      yields_mergeNew.1 hnew
    · obtain ⟨rfl, rfl⟩ := Environment.yields_locate_over.1 hs
      rw [← h.isMergeable_source] at hdeclined
      exact yields_mergeNew.2 ⟨_, _, Environment.yields_locate_over.2 ⟨rfl, rfl⟩,
        .inl ⟨hdeclined, rfl, rfl⟩⟩
    · cases hnone

theorem TagSpec.yields_compile_over (h : l.Alike l') {spec : TagSpec} {u : TagUse}
    {attrs : Attributes} {w w' : Work} {code : String}
    (hc : (spec.compile (env.over l) none u attrs).Yields w code w') :
    (spec.compile (env.over l') none u attrs).Yields w code w' := by
  unfold TagSpec.compile at hc ⊢
  cases haction : spec.action with
  | custom f =>
    simp only [haction] at hc ⊢
    exact hc
  | builtin b =>
    simp only [haction] at hc ⊢
    cases b with
    | «include» => exact Include.yields_compile_over h hc
    | loop => exact hc
    | fallback => exact hc
    | endLoop => exact hc
    | leftDelimiter => exact hc
    | rightDelimiter => exact hc
    | special => exact hc

theorem Node.yields_compile_over (h : l.Alike l') {n : Node} {w w' : Work} {piece : Piece}
    (hc : (n.compile (env.over l) none).Yields w piece w') :
    (n.compile (env.over l') none).Yields w piece w' := by
  cases n with
  | text content => exact hc
  | print value line => exact hc
  | tag t =>
    obtain ⟨code, ht, rfl⟩ := Node.yields_compile_tag.1 hc
    obtain ⟨spec, attrs, plugins, fragment, w₁, hprepared, hspec, rfl, rfl⟩ :=
      Tag.yields_compile.1 ht
    exact Node.yields_compile_tag.2 ⟨_, Tag.yields_compile.2 ⟨spec, attrs, plugins, fragment, w₁,
      ⟨hprepared.allowed, hprepared.known, hprepared.resolved⟩,
      TagSpec.yields_compile_over h hspec, rfl, rfl⟩, rfl⟩

def Registry.Records (tags : Registry) : Prop :=
  ∀ name spec f, tags.find? name = some spec → spec.action = .custom f →
    ∀ u attrs d code d', (f u attrs).Yields d code d' →
      d.dependencies.keys ⊆ d'.dependencies.keys

theorem Registry.records_builtin : builtin.Records := by
  intro name spec f hfind hcustom
  obtain ⟨b, rfl⟩ := builtin_of_find? hfind
  cases hcustom

theorem Node.records_compile {n : Node} {w w' : Work} {piece : Piece} (htags : env.tags.Records)
    (h : (n.compile env none).Yields w piece w') :
    w.draft.dependencies.keys ⊆ w'.draft.dependencies.keys := by
  cases n with
  | text content => rw [(Node.yields_compile_text.1 h).2]; exact List.Subset.refl _
  | print value line =>
    obtain ⟨code, d, hd, -, rfl⟩ := Node.yields_compile_print.1 h
    obtain ⟨fragment, plugins, -, -, -, rfl⟩ := Expr.yields_compilePrint.1 hd
    exact List.Subset.refl _
  | tag t =>
    obtain ⟨code, ht, -⟩ := Node.yields_compile_tag.1 h
    obtain ⟨spec, attrs, plugins, fragment, w₁, hprepared, hspec, -, rfl⟩ :=
      Tag.yields_compile.1 ht
    have hmarked := congrArg Prod.fst (Work.tables_markedBy fragment w₁)
    change (w₁.markedBy fragment).draft.dependencies = w₁.draft.dependencies at hmarked
    rw [hmarked]
    unfold TagSpec.compile at hspec
    cases haction : spec.action with
    | builtin b =>
      simp only [haction] at hspec
      have hsame := congrArg Prod.fst (Builtin.tables_compile hspec)
      change w₁.draft.dependencies = w.draft.dependencies at hsame
      rw [hsame]
      exact List.Subset.refl _
    | custom f =>
      simp only [haction] at hspec
      obtain ⟨d, hd, rfl⟩ := Work.yields_withDraft.1 hspec
      have hkept := htags _ _ _ hprepared.known haction _ _ _ _ _ hd
      exact hkept

theorem Run.records {nodes : List Node} {w w' : Work} {pieces : List Piece}
    (htags : env.tags.Records) (h : Run env nodes w pieces w') :
    w.draft.dependencies.keys ⊆ w'.draft.dependencies.keys := by
  induction h with
  | nil => exact List.Subset.refl _
  | plain hn _ ih => exact List.Subset.trans (Node.records_compile htags hn) ih
  | merge m _ _ _ _ _ ih =>
    exact List.Subset.trans (fun uid huid => Dependencies.mem_keys_merge.2 (.inl huid)) ih

theorem Draft.records_start {s : Source} (h : s.recompiled = false) (inBlock : Bool) :
    s.uid ∈ (Draft.start s inBlock).dependencies.keys := by
  rw [Draft.start, h]
  exact Table.mem_keys_insert.2 (.inr rfl)

theorem Library.AgreeOn.mono {uids uids' : List String} (h : Library.AgreeOn uids l l')
    (hsub : uids' ⊆ uids) : Library.AgreeOn uids' l l' :=
  fun _ _ _ hfind hfind' huid => h _ _ _ hfind hfind' (hsub huid)

theorem Run.over (halike : l.Alike l') (htags : env.tags.Records) {nodes : List Node}
    {w w' : Work} {pieces : List Piece} (h : Run (env.over l) nodes w pieces w')
    (hagree : Library.AgreeOn w'.draft.dependencies.keys l l') :
    Run (env.over l') nodes w pieces w' := by
  replace htags : (env.over l).tags.Records := htags
  induction h with
  | nil => exact .nil
  | plain hn _ ih => exact .plain (Node.yields_compile_over halike hn) (ih hagree)
  | @merge t ns w inner w₁ pieces w' m _ hinner hclosed hrest ihInner ihRest =>
    -- the sources that the inner run records are handed on, so the libraries agree on them
    have hfinish : (m.finish (w₁.draft.compiled inner) w₁.pass).draft.dependencies.keys ⊆
        w'.draft.dependencies.keys := hrest.records htags
    have hlater : w₁.draft.dependencies.keys ⊆ w'.draft.dependencies.keys := fun uid huid =>
      hfinish (Dependencies.mem_keys_merge.2 (.inr huid))
    have hinner' := ihInner (hagree.mono hlater)
    have hkept := Include.not_recompiled_of_isMergeable m.mergeable
    have huid : m.source.uid ∈ w'.draft.dependencies.keys :=
      hlater (hinner.records htags (Draft.records_start hkept _))
    obtain ⟨hsource, htrust⟩ := Environment.yields_locate_over.1 m.located
    rw [hsource] at huid
    have hsame := halike.source_eq hagree huid
    let m' : Merging (env.over l') t w := { m with
      prepared := ⟨m.prepared.allowed, m.prepared.known, m.prepared.resolved⟩
      eligible := ⟨m.eligible.requested, m.eligible.kept, m.eligible.literal⟩
      located := Environment.yields_locate_over.2 ⟨hsource.trans hsame.symm, htrust⟩ }
    have hcompiled : (compileTemplate (env.over l') m'.source w.draft.inBlock).Yields m'.entered
        (w₁.draft.compiled inner) w₁.pass :=
      yields_compileTemplate.2 ⟨m.nodes, inner, w₁, m.parsed, hinner', hclosed, rfl, rfl⟩
    exact .merge m' hcompiled hinner' hclosed (ihRest hagree)

def Library.sampleWith (content : String) : Library := sample.add "other" content

theorem Library.sampleWith_cases {content content' key : String} {item item' : Item}
    (h : (sampleWith content).find? key = some item)
    (h' : (sampleWith content').find? key = some item') :
    (key = "other" ∧ item = { content } ∧ item' = { content := content' }) ∨ item = item' := by
  rw [sampleWith, add, Table.find?_insert] at h h'
  split at h
  next heq =>
    rw [if_pos heq] at h'
    exact .inl ⟨heq.symm, (Option.some.inj h).symm, (Option.some.inj h').symm⟩
  next hne =>
    rw [if_neg hne] at h'
    exact .inr (Option.some.inj (h.symm.trans h'))

/-- An artifact is what its template compiles to over any library that has the recorded templates as
they were and the other templates with any contents. -/
theorem compileArtifact_over {name : String} {inBlock : Bool} {trust trust' : TrustIndex}
    {a : Artifact} (halike : l.Alike l') (htags : env.tags.Records)
    (hname : (l.source name).recompiled = false)
    (h : (compileArtifact (env.over l) name inBlock).Yields trust a trust')
    (hagree : Library.AgreeOn a.dependencies.keys l l') :
    (compileArtifact (env.over l') name inBlock).Yields trust a trust' := by
  obtain ⟨s, entryTrust, c, p, hs, hc, rfl, rfl⟩ := yields_compileArtifact.1 h
  obtain ⟨hfound, rfl, rfl⟩ := yields_resolveEntry_over.1 hs
  obtain ⟨nodes, pieces, w, hparse, hrun, hclosed, rfl, rfl⟩ := compiles_of_compileTemplate hc
  replace htags : (env.over l).tags.Records := htags
  have hsource : l'.source name = l.source name :=
    halike.source_eq hagree (hrun.records htags (Draft.records_start hname inBlock))
  have hcompiled : (compileTemplate (env.over l') (l.source name) inBlock).Yields
      { trust := entryTrust } (w.draft.compiled pieces) w.pass :=
    yields_compileTemplate.2
      ⟨nodes, pieces, w, hparse, hrun.over halike htags hagree, hclosed, rfl, rfl⟩
  refine yields_compileArtifact.2 ⟨l.source name, entryTrust, w.draft.compiled pieces, w.pass, ?_,
    hcompiled, rfl, rfl⟩
  rw [← hsource] at hfound
  exact yields_resolveEntry_over.2 ⟨hfound, hsource.symm, rfl⟩

theorem compileArtifact_over_sample :
    ∃ a trust',
      (compileArtifact ((Environment.sample none).over (.sampleWith "a")) "main" false).Yields {} a
        trust' ∧
      (compileArtifact ((Environment.sample none).over (.sampleWith "b")) "main" false).Yields {} a
        trust' := by
  obtain ⟨a, trust', h, hkeys⟩ : ∃ a trust',
      (compileArtifact ((Environment.sample none).over (.sampleWith "a")) "main" false).Yields {} a
        trust' ∧
      decide (digest ("memory:" ++ "other") ∉ a.dependencies.keys) = true :=
    Step.exists_yields (by decide +kernel)
  have halike : Library.Alike (.sampleWith "a") (.sampleWith "b") := {
    names := fun key => Iff.rfl
    flags := fun key item item' hfind hfind' => by
      obtain ⟨-, rfl, rfl⟩ | rfl := Library.sampleWith_cases hfind hfind'
      · exact ⟨rfl, rfl⟩
      · exact ⟨rfl, rfl⟩ }
  refine ⟨a, trust', h, compileArtifact_over halike Registry.records_builtin rfl h ?_⟩
  intro key item item' hfind hfind' huid
  obtain ⟨rfl, -, -⟩ | rfl := Library.sampleWith_cases hfind hfind'
  · exact absurd huid (of_decide_eq_true hkeys)
  · exact ⟨rfl, rfl⟩

end TagTemplate
