import TagTemplate.Proofs.Compile.Derivation
import TagTemplate.Proofs.Compile.Failures
import TagTemplate.Proofs.Compile.Naming
import TagTemplate.Proofs.Policy.Narrower

namespace TagTemplate

variable {env : Environment} {merge : Option Include.Merger} {library : Library} {name : String}
  {keys : List MergeKey} {k : MergeKey}

/-! Tables that are joined -/

theorem Dependencies.entries_merge {t u : Dependencies} (h : (t.keys ++ u.keys).Nodup) :
    (t.merge u).entries = t.entries ++ u.entries := by
  obtain ⟨us⟩ := u
  unfold merge
  dsimp only [Table.keys] at h ⊢
  induction us generalizing t with
  | nil => simp
  | cons x us ih =>
    have hx : x.1 ∉ t.entries.map Prod.fst := by
      intro hmem
      exact (List.nodup_append.1 h).2.2 _ hmem _ (by simp) rfl
    have hentries : (t.insert x.1 x.2).entries = t.entries ++ [x] := Table.insertIn_of_notMem hx x.2
    rw [List.foldl_cons, ih, hentries, List.append_assoc, List.singleton_append]
    simpa [hentries] using h

/-! Plain templates -/

structure Library.Plain (library : Library) (name : String) : Prop where
  named : Source.inline? name = none
  kept : ∃ item, library.find? (key name) = some item ∧ item.recompiled = false ∧
    item.uncompiled = false

namespace Library.Plain

theorem found (h : library.Plain name) : (library.source name).found = true := by
  obtain ⟨item, hfind, -⟩ := h.kept
  rw [source, h.named, hfind]

theorem recompiled (h : library.Plain name) : (library.source name).recompiled = false := by
  obtain ⟨item, hfind, hrecompiled, -⟩ := h.kept
  rw [source, h.named, hfind]
  exact hrecompiled

theorem isMergeable (h : library.Plain name) :
    Include.isMergeable (library.source name) = true := by
  obtain ⟨item, hfind, hrecompiled, huncompiled⟩ := h.kept
  simp [source, h.named, hfind, Include.isMergeable, hrecompiled, huncompiled]

end Library.Plain

/-! Nodes of a chain -/

theorem exists_yields_mapM_texts {nodes : List Node}
    (h : ∀ n ∈ nodes, ∃ content, n = .text content) (w : Work) :
    ∃ pieces, (nodes.mapM (Node.compile env merge)).Yields w pieces w := by
  induction nodes with
  | nil => exact ⟨[], Step.yields_mapM_nil.2 ⟨rfl, rfl⟩⟩
  | cons n nodes ih =>
    rw [List.forall_mem_cons] at h
    obtain ⟨⟨content, rfl⟩, h⟩ := h
    obtain ⟨pieces, hpieces⟩ := ih h
    exact ⟨.text content :: pieces, Step.yields_mapM_cons.2 ⟨.text content, w, pieces,
      Node.yields_compile_text.2 ⟨rfl, rfl⟩, hpieces, rfl⟩⟩

inductive Tag.Includes (env : Environment) (t : Tag) (k : MergeKey) : Prop
  | intro {spec attrs plugins plugins' file vars sc} :
      t.Prepared env spec attrs plugins plugins' → spec.action = .builtin .include →
      Include.Reads (t.use env) attrs file vars sc →
      Include.obstacle file (attrs.code? "compile_id") = none →
      Include.key file (attrs.code? "compile_id") = k → Includes env t k

theorem Tag.Prepared.with_plugins {t : Tag} {spec : TagSpec} {attrs : Attributes}
    {plugins plugins' : Plugins} (h : t.Prepared env spec attrs plugins plugins')
    (other : Plugins) : ∃ other', t.Prepared env spec attrs other other' := by
  obtain ⟨args, hargs, hattrs⟩ := h.resolved
  obtain ⟨other', hother⟩ := TagArg.yields_mapM_compile hargs other
  exact ⟨other', h.allowed, h.known, args, hother, hattrs⟩

theorem Tag.Includes.finds {t : Tag} {w : Work} {s : Source} {trust : TrustIndex}
    (h : t.Includes env k) (hmerge : env.config.mergeIncludes = true)
    (hkept : w.draft.source.recompiled = false) (hnew : w.pass.session.function? k = none)
    (hs : (env.locate k.template).Yields w.pass.trust s trust)
    (hmergeable : Include.isMergeable s = true) : t.Finds env w k s trust := by
  obtain ⟨hprepared, hinclude, hreads, hobstacle, rfl⟩ := h
  obtain ⟨plugins, hprepared⟩ := hprepared.with_plugins w.draft.plugins
  refine .intro hprepared hinclude hreads ⟨⟨?_, hkept, hobstacle⟩, hnew, hs, hmergeable⟩ rfl
  simp [Include.isRequested, hmerge]

theorem Tag.Finds.yields {t : Tag} {w : Work} {s : Source} {trust : TrustIndex} {c : Compiled}
    {p : Pass} (h : t.Finds env w k s trust)
    (hshallow : w.pass.session.depth < env.config.maxInlineDepth.toNat)
    (hs : (compileTemplate env s w.draft.inBlock).Yields ({ w.pass with trust }.enter k) c p) :
    ∃ piece w', ((Node.tag t).compile env (mergerAt env w.pass.session.depth)).Yields w piece w' ∧
      w'.pass.session = p.session.leave.complete k c.body ∧
      w'.draft.dependencies = w.draft.dependencies.merge c.dependencies ∧
      w'.draft.blocks = w.draft.blocks := by
  obtain @⟨spec, attrs, plugins, file, vars, sc, hprepared, hinclude, hreads, hfresh, rfl⟩ := h
  obtain ⟨nodes, pieces, w₁, hparse, -⟩ := yields_compileTemplate.1 hs
  let m : Merging env t w := {
    spec, attrs, plugins, file, vars, scope := sc, source := s, trust, nodes
    prepared := hprepared, isInclude := hinclude, reads := hreads
    eligible := ⟨hfresh.eligible.requested, hfresh.eligible.kept, hfresh.eligible.literal⟩
    unrecorded := hfresh.unrecorded, located := hfresh.located
    mergeable := hfresh.mergeable, shallow := hshallow, parsed := hparse }
  exact ⟨m.piece, _, m.yields_compile hs, rfl, rfl, rfl⟩

/-! Chains -/

/-- The template is the first of a chain. Each template but the last has one include, under the key
of the next one, between texts; the last one consists of texts. -/
inductive Chain (env : Environment) (library : Library) : String → List MergeKey → Prop
  | last {name nodes} : library.Plain name → env.parse (library.source name) = .ok nodes →
      (∀ n ∈ nodes, ∃ content, n = .text content) → Chain env library name []
  | link {name before t after k keys} : library.Plain name →
      env.parse (library.source name) = .ok (before ++ .tag t :: after) →
      (∀ n ∈ before, ∃ content, n = .text content) →
      (∀ n ∈ after, ∃ content, n = .text content) →
      t.Includes (env.over library) k → Chain env library k.template keys →
      Chain env library name (k :: keys)

def chainNames (name : String) (keys : List MergeKey) : List String :=
  name :: keys.map MergeKey.template

theorem Chain.plain (h : Chain env library name keys) : library.Plain name := by
  cases h with
  | last hplain _ _ => exact hplain
  | link hplain _ _ _ _ _ => exact hplain

def Library.entries (library : Library) (names : List String) : List (String × Dependency) :=
  names.map fun n => (library.source n).entry

theorem Library.Plain.entries_start (h : library.Plain name) (inBlock : Bool) :
    (Draft.start (library.source name) inBlock).dependencies.entries = library.entries [name] := by
  rw [Draft.start, h.recompiled]
  exact congrArg (fun entry => [entry]) (library.entry_source name).symm

theorem Draft.source_start (s : Source) (inBlock : Bool) : (start s inBlock).source = s := by
  unfold start
  split <;> rfl

theorem Draft.blocks_start (s : Source) (inBlock : Bool) : (start s inBlock).blocks = [] := by
  unfold start
  split <;> rfl

theorem Pass.keys_enter {p : Pass} (h : k ∉ p.session.records.keys) :
    (p.enter k).session.records.keys = p.session.records.keys ++ [k] :=
  Include.keys_reserve (Option.map_eq_none_iff.2 (Table.find?_eq_none.2 h))

theorem Pass.notMem_keys_enter {p : Pass} (hkeys : (k :: keys).Nodup)
    (hnew : ∀ j ∈ k :: keys, j ∉ p.session.records.keys) :
    ∀ j ∈ keys, j ∉ (p.enter k).session.records.keys := by
  intro j hj hmem
  rw [keys_enter (hnew k List.mem_cons_self), List.mem_append, List.mem_singleton] at hmem
  rcases hmem with hmem | rfl
  · exact hnew j (List.mem_cons_of_mem k hj) hmem
  · exact (List.nodup_cons.1 hkeys).1 hj

namespace Chain

theorem finds {t : Tag} {inBlock : Bool} {p : Pass} (hmerge : env.config.mergeIncludes = true)
    (hname : library.Plain name) (hk : library.Plain k.template)
    (ht : t.Includes (env.over library) k) (hnew : k ∉ p.session.records.keys) :
    t.Finds (env.over library)
      ⟨Draft.start (library.source name) inBlock, p.begin (library.source name)⟩ k
      (library.source k.template) p.trust := by
  refine ht.finds hmerge ?_ ?_ (Environment.yields_locate_over.2 ⟨rfl, rfl⟩) hk.isMergeable
  · rw [Draft.source_start]
    exact hname.recompiled
  · exact Option.map_eq_none_iff.2 (Table.find?_eq_none.2 hnew)

theorem yields (hmerge : env.config.mergeIncludes = true) (h : Chain env library name keys)
    (hkeys : keys.Nodup) {p : Pass}
    (hroom : p.session.depth + keys.length ≤ env.config.maxInlineDepth.toNat)
    (hnew : ∀ k ∈ keys, k ∉ p.session.records.keys) (inBlock : Bool) :
    ∃ c p', (compileTemplate (env.over library) (library.source name) inBlock).Yields p c p' ∧
      p'.session.records.keys = p.session.records.keys ++ keys ∧
      (((library.entries (chainNames name keys)).map Prod.fst).Nodup →
        c.dependencies.entries = library.entries (chainNames name keys)) := by
  induction h generalizing p inBlock with
  | @last name nodes hname hparse htexts =>
    obtain ⟨pieces, hpieces⟩ := exists_yields_mapM_texts htexts
      ⟨Draft.start (library.source name) inBlock, p.begin (library.source name)⟩
    exact ⟨_, _, yields_compileTemplate_nodes.2 ⟨nodes, pieces, _, hparse, hpieces,
      Draft.blocks_start _ _, rfl, rfl⟩, (List.append_nil _).symm,
      fun _ => hname.entries_start inBlock⟩
  | @link name before t after k keys hname hparse hbefore hafter ht hrest ih =>
    rw [List.length_cons] at hroom
    let w : Work := ⟨Draft.start (library.source name) inBlock, p.begin (library.source name)⟩
    have hk : k ∉ w.pass.session.records.keys := hnew k List.mem_cons_self
    have hfinds : Tag.Finds _ t w k _ p.trust := finds hmerge hname hrest.plain ht hk
    have hnext := Pass.notMem_keys_enter (p := w.pass) hkeys hnew
    have hdeeper : (w.pass.enter k).session.depth + keys.length ≤
        env.config.maxInlineDepth.toNat := by
      change p.session.depth + 1 + keys.length ≤ _
      omega
    -- the rest of the chain compiles one level deeper, where `k` has its record already
    obtain ⟨c, q, hc, hq, hentries⟩ :=
      ih (List.nodup_cons.1 hkeys).2 hdeeper hnext w.draft.inBlock
    have hshallow : w.pass.session.depth < (env.over library).config.maxInlineDepth.toNat := by
      change p.session.depth < env.config.maxInlineDepth.toNat
      omega
    obtain ⟨piece, w₁, htag, hsession, hdependencies, hblocks⟩ := hfinds.yields hshallow hc
    obtain ⟨pieces₁, hpieces₁⟩ := exists_yields_mapM_texts hbefore w
    obtain ⟨pieces₂, hpieces₂⟩ := exists_yields_mapM_texts hafter w₁
    refine ⟨_, _, yields_compileTemplate_nodes.2 ⟨_, _, w₁, hparse, Step.yields_mapM_append.2
      ⟨pieces₁, w, _, hpieces₁, Step.yields_mapM_cons.2 ⟨piece, w₁, pieces₂, htag, hpieces₂, rfl⟩,
        rfl⟩, hblocks.trans (Draft.blocks_start _ _), rfl, rfl⟩, ?_, fun hnodup => ?_⟩
    · have hcompleted : w₁.pass.session.records.keys = q.session.records.keys := by
        rw [hsession]
        exact Table.keys_modify _ _ _
      rw [hcompleted, hq, Pass.keys_enter hk, List.append_assoc, List.singleton_append]
      rfl
    · have hc := hentries (List.nodup_cons.1 hnodup).2
      have hw := hname.entries_start inBlock
      change w₁.draft.dependencies.entries = _
      rw [hdependencies, Dependencies.entries_merge, hc]
      · exact congrArg (· ++ _) hw
      · rw [Table.keys, Table.keys, hc, hw]
        exact hnodup

theorem fails (hmerge : env.config.mergeIncludes = true) (h : Chain env library name keys)
    (hkeys : keys.Nodup) {p : Pass} (hdepth : p.session.depth ≤ env.config.maxInlineDepth.toNat)
    (hnew : ∀ k ∈ keys, k ∉ p.session.records.keys) {j : MergeKey}
    (hj : keys[env.config.maxInlineDepth.toNat - p.session.depth]? = some j) (inBlock : Bool) :
    (compileTemplate (env.over library) (library.source name) inBlock).Fails p
      (Fault.mergeDepth j.template env.config.maxInlineDepth) := by
  induction h generalizing p inBlock with
  | last _ _ _ => cases hj
  | @link name before t after k keys hname hparse hbefore hafter ht hrest ih =>
    let w : Work := ⟨Draft.start (library.source name) inBlock, p.begin (library.source name)⟩
    have hk : k ∉ w.pass.session.records.keys := hnew k List.mem_cons_self
    have hfinds : Tag.Finds _ t w k _ p.trust := finds hmerge hname hrest.plain ht hk
    have hnext := Pass.notMem_keys_enter (p := w.pass) hkeys hnew
    obtain ⟨pieces, hpieces⟩ := exists_yields_mapM_texts hbefore w
    have intro {e : CompileError} (he : ((Node.tag t).compile (env.over library)
        (mergerAt (env.over library) w.pass.session.depth)).Fails w e) :
        (compileTemplate (env.over library) (library.source name) inBlock).Fails p e :=
      fails_compileTemplate.2 (.inr ⟨_, hparse, .node rfl hpieces he⟩)
    obtain hdeep | hshallow := hdepth.eq_or_lt
    · rw [← hdeep, Nat.sub_self] at hj
      cases hj
      exact intro (hfinds.fails_of_deep hdeep.ge)
    · -- one level deeper there is one template less to go
      have hlevels : env.config.maxInlineDepth.toNat - p.session.depth =
          env.config.maxInlineDepth.toNat - (w.pass.enter k).session.depth + 1 := by
        change _ = env.config.maxInlineDepth.toNat - (p.session.depth + 1) + 1
        omega
      rw [hlevels, List.getElem?_cons_succ] at hj
      have henters : Tag.Enters (env.over library) t w (library.source k.template)
          (w.pass.enter k) := ⟨⟨k, p.trust, hfinds, rfl⟩, hshallow⟩
      have hinner := ih (List.nodup_cons.1 hkeys).2 (p := w.pass.enter k) hshallow hnext hj
      exact intro (henters.fails (hinner w.draft.inBlock))

end Chain

/-! Artifacts made from chains -/

theorem Library.Plain.identity_eq (h : library.Plain name) :
    library.identity name = "memory:" ++ key name := by
  obtain ⟨item, hfind, -⟩ := h.kept
  simp [identity_of_inline_eq_none h.named, Table.contains, hfind]

theorem Chain.plain_of_mem (h : Chain env library name keys) :
    ∀ n ∈ chainNames name keys, library.Plain n := by
  induction h with
  | last hplain _ _ =>
    intro n hn
    rwa [List.mem_singleton.1 hn]
  | link hplain _ _ _ _ _ ih => exact List.forall_mem_cons.2 ⟨hplain, ih⟩

theorem Chain.nodup_identities (h : Chain env library name keys)
    (hdistinct : ((chainNames name keys).map Library.key).Nodup) :
    ((chainNames name keys).map library.identity).Nodup := by
  have hmap : (chainNames name keys).map library.identity =
      ((chainNames name keys).map Library.key).map ("memory:" ++ ·) := by
    rw [List.map_map]
    exact List.map_congr_left fun n hn => (h.plain_of_mem n hn).identity_eq
  rw [hmap]
  exact hdistinct.map fun _ _ => (String.append_right_inj "memory:").1

namespace Compilation

variable {inBlock : Bool} {trust : TrustIndex} {a : Artifact}
  {c : Compilation (env.over library) name inBlock trust a}

theorem Unclashing.keys_functions (h : c.Unclashing) :
    a.functions.keys = c.pass.session.records.keys.map MergeKey.function := by
  rw [Table.keys, h.entries_functions, List.map_map, ← c.map_function_merged]
  rfl

theorem merges_of_mem_keys (h : k ∈ c.pass.session.records.keys) : c.Merges k.template := by
  obtain ⟨r, hr⟩ := Table.mem_keys_iff.1 h
  obtain ⟨s, result, hcompleted, -⟩ := (c.finished hr).compiled
  exact ⟨k, (c.mergedFrom_of_completed hcompleted).merged, rfl⟩

theorem Collisionless.nodup_entries (h : c.Collisionless)
    (hrecorded : c.pass.session.records.keys = keys)
    (hidentities : ((chainNames name keys).map library.identity).Nodup) :
    ((library.entries (chainNames name keys)).map Prod.fst).Nodup := by
  have hmerges (n : String) (hn : n ∈ chainNames name keys) : n = name ∨ c.Merges n := by
    obtain rfl | hn := List.mem_cons.1 hn
    · exact .inl rfl
    · obtain ⟨k, hk, rfl⟩ := List.mem_map.1 hn
      exact .inr (merges_of_mem_keys (hrecorded ▸ hk))
  have hmap : (library.entries (chainNames name keys)).map Prod.fst =
      ((chainNames name keys).map library.identity).map digest := by
    rw [Library.entries, List.map_map, List.map_map]
    exact List.map_congr_left fun n _ => by simp [library.entry_source, library.uid_source]
  rw [hmap]
  refine hidentities.map_on fun s hs t ht heq => ?_
  obtain ⟨n, hn, rfl⟩ := List.mem_map.1 hs
  obtain ⟨n', hn', rfl⟩ := List.mem_map.1 ht
  exact h n n' (hmerges n hn) (hmerges n' hn') heq

end Compilation

structure Compilation.Follows {inBlock : Bool} {trust : TrustIndex} {a : Artifact}
    (c : Compilation (env.over library) name inBlock trust a) (keys : List MergeKey) : Prop where
  merged : c.pass.session.records.keys = keys
  functions : c.Unclashing → a.functions.keys = keys.map MergeKey.function
  dependencies : c.Collisionless →
    a.dependencies.entries = library.entries (chainNames name keys)

/-- A chain of different templates compiles if and only if there are at most as many includes as the
limit of depth. It has a function for each template that is included, in their order, and depends on
all of them. A longer chain fails with the first template that is too deep. -/
theorem compileArtifact_chain (hmerge : env.config.mergeIncludes = true)
    (h : Chain env library name keys)
    (hdistinct : ((chainNames name keys).map Library.key).Nodup) (inBlock : Bool)
    (trust : TrustIndex) :
    ((∃ a trust', (compileArtifact (env.over library) name inBlock).Yields trust a trust') ↔
      keys.length ≤ env.config.maxInlineDepth.toNat) ∧
    (∀ a trust', (compileArtifact (env.over library) name inBlock).Yields trust a trust' →
      ∃ c : Compilation (env.over library) name inBlock trust a, c.Follows keys) ∧
    ∀ hdeep : env.config.maxInlineDepth.toNat < keys.length,
      (compileArtifact (env.over library) name inBlock).Fails trust
        (Fault.mergeDepth keys[env.config.maxInlineDepth.toNat].template
          env.config.maxInlineDepth) := by
  have hkeys : keys.Nodup := by
    rw [chainNames, List.map_cons, List.nodup_cons] at hdistinct
    exact hdistinct.2.of_map.of_map
  have hentry : (resolveEntry (env.over library) name).Yields trust (library.source name) trust :=
    yields_resolveEntry_over.2 ⟨h.plain.found, rfl, rfl⟩
  have hsucceeds (hroom : keys.length ≤ env.config.maxInlineDepth.toNat) : ∃ a trust',
      (compileArtifact (env.over library) name inBlock).Yields trust a trust' ∧
        ∃ c : Compilation (env.over library) name inBlock trust a, c.Follows keys := by
    obtain ⟨r, p, hr, hrecords, hentries⟩ :=
      h.yields hmerge hkeys (p := { trust }) (by simpa using hroom) nofun inBlock
    let c : Compilation (env.over library) name inBlock trust
      (.ofCompiled (env.over library) (library.source name) r p.session) :=
      ⟨library.source name, trust, r, p, hentry, hr, rfl⟩
    have hrecorded : c.pass.session.records.keys = keys := hrecords
    refine ⟨_, p.trust, yields_compileArtifact.2 ⟨_, trust, r, p, hentry, hr, rfl, rfl⟩, c,
      hrecorded, fun hc => ?_, fun hc => ?_⟩
    · rw [hc.keys_functions, hrecorded]
    · exact hentries (hc.nodup_entries hrecorded (h.nodup_identities hdistinct))
  have hfails (hdeep : env.config.maxInlineDepth.toNat < keys.length) :
      (compileArtifact (env.over library) name inBlock).Fails trust
        (Fault.mergeDepth keys[env.config.maxInlineDepth.toNat].template
          env.config.maxInlineDepth) := by
    refine fails_compileArtifact.2 (.inr ⟨_, trust, hentry, ?_⟩)
    exact h.fails hmerge hkeys (p := { trust }) (Nat.zero_le _) nofun
      (List.getElem?_eq_getElem hdeep) inBlock
  refine ⟨⟨fun ⟨a, trust', ha⟩ => ?_, fun hroom => ?_⟩, fun a trust' ha => ?_, hfails⟩
  · by_contra hdeep
    exact ha.not_fails (hfails (Nat.lt_of_not_le hdeep))
  · obtain ⟨a, trust', ha, -⟩ := hsucceeds hroom
    exact ⟨a, trust', ha⟩
  · obtain hdeep | hroom := Nat.lt_or_ge env.config.maxInlineDepth.toNat keys.length
    · exact absurd (hfails hdeep) ha.not_fails
    · obtain ⟨a', trust'', ha', hfollows⟩ := hsucceeds hroom
      obtain ⟨rfl, -⟩ := ha'.unique ha
      exact hfollows

/-! A chain of three templates, of which one can be merged -/

def Tag.including (file : String) : Tag :=
  { name := "include", args := [.positional (.expr (.code file))] }

theorem Tag.includes_including (htags : env.tags = Registry.builtin)
    (hallowed : env.rules.check .tag "include" = .ok ()) {file : String}
    (hfile : Text.isLiteral file = true) :
    (including file).Includes env (Include.key file none) := by
  have hname : dispatchName (including file).name = "include" := by
    change dispatchName "include" = "include"
    decide
  have hprepared : (including file).Prepared env Builtin.include.spec
      { values := Table.ofList [("file", .code file)] } ∅ ∅ := {
    allowed := by rw [hname, hallowed]
    known := by rw [hname, htags]; rfl
    resolved := ⟨[.positional (.code file)], rfl, rfl⟩ }
  refine .intro hprepared rfl ⟨rfl, rfl, rfl⟩ ?_ rfl
  change Include.obstacle file none = none
  rw [Include.obstacle, hfile]
  rfl

def Library.sampleChain : Library :=
  ⟨["main", "part", "leaf"].map fun name => (name, { content := "" })⟩

def Environment.sampleChain : Environment := { Environment.sample none with
  rules := { config := { mergeIncludes := true, maxInlineDepth := 1 } }
  parse := fun s => .ok (
    if s.name = "main" then [.text "M", .tag (.including "'part'")]
    else if s.name = "part" then [.tag (.including "'leaf'"), .text "P"]
    else [.text "L"]) }

theorem Library.plain_sampleChain {name : String} (h : name ∈ ["main", "part", "leaf"]) :
    sampleChain.Plain name := by
  simp only [List.mem_cons, List.not_mem_nil, or_false] at h
  obtain rfl | rfl | rfl := h <;> exact ⟨by decide, { content := "" }, by decide⟩

theorem chain_sampleChain : Chain .sampleChain .sampleChain "main"
    [Include.key "'part'" none, Include.key "'leaf'" none] := by
  have hleaf : Chain .sampleChain .sampleChain "leaf" [] :=
    @Chain.last _ _ _ [.text "L"] (Library.plain_sampleChain (by decide)) rfl (by simp)
  have hpart : Chain .sampleChain .sampleChain "part" [Include.key "'leaf'" none] :=
    @Chain.link _ _ _ [] _ [.text "P"] _ _ (Library.plain_sampleChain (by decide)) rfl nofun
      (by simp) (Tag.includes_including rfl rfl (by decide)) hleaf
  exact @Chain.link _ _ _ [.text "M"] _ [] _ _ (Library.plain_sampleChain (by decide)) rfl
    (by simp) nofun (Tag.includes_including rfl rfl (by decide)) hpart

theorem compileArtifact_chain_sample :
    Chain .sampleChain .sampleChain "main"
      [Include.key "'part'" none, Include.key "'leaf'" none] ∧
    (compileArtifact (Environment.sampleChain.over .sampleChain) "main" false).Fails {}
      (Fault.mergeDepth "leaf" 1) := by
  obtain ⟨-, -, hfails⟩ := compileArtifact_chain rfl chain_sampleChain (by decide) false {}
  exact ⟨chain_sampleChain, hfails (by decide)⟩

end TagTemplate
