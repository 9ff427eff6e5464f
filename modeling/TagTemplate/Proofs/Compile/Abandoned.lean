import TagTemplate.Proofs.Compile.Merged

namespace TagTemplate

variable {α : Type} {env : Environment} {merge : Option Include.Merger}

def MergeKey.placeholder (k : MergeKey) : Merged := ⟨k.function, k.template, ""⟩

def MergeKey.Settled (env : Environment) (k : MergeKey) (r : Merged) : Prop :=
  ∃ s c, k.CompilesTo env s c ∧ r = ⟨k.function, k.template, c.body⟩

/-- The record is still that of a template in compilation, which failed. -/
structure MergeKey.Abandoned (env : Environment) (k : MergeKey) (r : Merged) : Prop where
  record : r = k.placeholder
  failed : ∃ s, (∃ index index', (env.locate k.template).Yields index s index') ∧
    ∃ inBlock p e, (compileTemplate env s inBlock).Fails p e

namespace Pass

structure Settles (env : Environment) (failed : Prop) (p q : Pass) : Prop where
  kept : ∀ k r, p.record? k = some r → q.record? k = some r
  made : ∀ k r, q.record? k = some r →
    p.record? k = some r ∨ k.Settled env r ∨ failed ∧ k.Abandoned env r

variable {p q r : Pass} {failed failed' : Prop}

namespace Settles

theorem of_session (h : q.session = p.session) : p.Settles env failed q := by
  have hrecord (k : MergeKey) : q.record? k = p.record? k := by rw [record?, h, record?]
  exact ⟨fun k r hr => (hrecord k).trans hr, fun k r hr => .inl ((hrecord k).symm.trans hr)⟩

theorem mono (h : p.Settles env failed q) (himp : failed → failed') : p.Settles env failed' q where
  kept := h.kept
  made k r hr := (h.made k r hr).imp_right (Or.imp_right (And.imp_left himp))

theorem trans (h : p.Settles env failed q) (h' : q.Settles env failed r) :
    p.Settles env failed r where
  kept k a ha := h'.kept k a (h.kept k a ha)
  made k a ha := (h'.made k a ha).elim (h.made k a) .inr

end Settles

theorem Quiet.settles (h : p.Quiet q) : p.Settles env failed q := .of_session h.session

end Pass

namespace Include

variable {w : Work}

def Settling (env : Environment) (depth : Nat) (merge : Option Merger) : Prop :=
  ∀ merger ∈ merge, ∀ s inBlock (p : Pass), p.session.depth = depth + 1 →
    (merger s inBlock).run p = (compileTemplate env s inBlock).run p ∧
      p.Settles env (∃ e, ((merger s inBlock).run p).1 = .error e) ((merger s inBlock).run p).2

theorem record?_reserve {p : Pass} {k : MergeKey} (hnew : p.record? k = none) (j : MergeKey) :
    ({ p.note (.merged k) with session := (p.session.reserve k).enter } : Pass).record? j =
      if k = j then some k.placeholder else p.record? j := by
  change (p.session.records.insertNew k _).find? j = _
  rw [Table.find?_insertNew]
  split
  next h =>
    subst h
    change (p.record? k).or _ = _
    rw [hnew, Option.none_or]
    rfl
  next => rfl

theorem record?_compileTarget {merger : Merger} {k : MergeKey} (s : Source) (inBlock : Bool)
    {p : Pass} (hm : Settling env p.session.depth (some merger)) (hnew : p.record? k = none) :
    ((compileTarget merger k s inBlock).run p).2.record? k = some k.placeholder :=
  (hm merger rfl s inBlock _ rfl).2.kept k _ ((record?_reserve hnew k).trans (if_pos rfl))

theorem settles_compileTarget {merger : Merger} {k : MergeKey} {s : Source} (inBlock : Bool)
    {p : Pass} (hm : Settling env p.session.depth (some merger)) (hnew : p.record? k = none)
    (hs : ∃ index index', (env.locate k.template).Yields index s index') :
    p.Settles env (∃ e, ((compileTarget merger k s inBlock).run p).1 = .error e)
      (recorded k s ((compileTarget merger k s inBlock).run p)) := by
  obtain ⟨hrun, hinner⟩ := hm merger rfl s inBlock
    { p.note (.merged k) with session := (p.session.reserve k).enter } rfl
  have hreserved := record?_reserve hnew
  have hplace := record?_compileTarget s inBlock hm hnew
  rw [run_compileTarget] at hplace ⊢
  generalize (merger s inBlock).run _ = outcome at hrun hinner hplace ⊢
  obtain ⟨result, q⟩ := outcome
  change q.record? k = some k.placeholder at hplace
  -- the inner compilation starts with the records of `p` and the empty one of `k`
  have hkept (j : MergeKey) (r : Merged) (hr : p.record? j = some r) :
      k ≠ j ∧ q.record? j = some r := by
    have hne : k ≠ j := by
      rintro rfl
      cases hnew.symm.trans hr
    exact ⟨hne, hinner.kept j r ((hreserved j).trans ((if_neg hne).trans hr))⟩
  have hmade (j : MergeKey) (r : Merged) (hne : k ≠ j) (hr : q.record? j = some r) :
      p.record? j = some r ∨ j.Settled env r ∨ (∃ e, result = .error e) ∧ j.Abandoned env r := by
    have hold := hinner.made j r hr
    rwa [hreserved, if_neg hne] at hold
  cases result with
  | ok c =>
    have hrecord (j : MergeKey) :
        (recorded k s (.ok c, { q with session := q.session.leave })).record? j =
          if k = j then (q.record? j).map fun r => { r with body := c.body } else q.record? j :=
      Table.find?_modify q.session.records k j _
    refine ⟨fun j r hr => ?_, fun j r hr => ?_⟩
    · rw [hrecord, if_neg (hkept j r hr).1]
      exact (hkept j r hr).2
    · rw [hrecord] at hr
      by_cases hne : k = j
      · subst hne
        rw [if_pos rfl, hplace] at hr
        cases hr
        exact .inr (.inl ⟨s, c, ⟨hs, inBlock, _, q, hrun.symm⟩, rfl⟩)
      · rw [if_neg hne] at hr
        exact hmade j r hne hr
  | error e =>
    refine ⟨fun j r hr => (hkept j r hr).2, fun j r hr => ?_⟩
    change q.record? j = some r at hr
    by_cases hne : k = j
    · subst hne
      cases hplace.symm.trans hr
      exact .inr (.inr ⟨⟨e, rfl⟩, rfl, s, hs, inBlock, _, e, q, hrun.symm⟩)
    · exact hmade j r hne hr

theorem Asks.settles {x : Option Merger → Step Work α} (h : Asks env x w)
    (hm : Settling env w.pass.session.depth merge) :
    w.pass.Settles env (∃ e, ((x merge).run w).1 = .error e) ((x merge).run w).2.pass := by
  cases h with
  | never outcome hall hquiet =>
    rw [hall]
    exact hquiet.settles
  | once k s inBlock p e w₀ finish hs hp hnew hnone hw₀ hsome hfinish herror =>
    cases merge with
    | none =>
      rw [hnone]
      exact hw₀.settles
    | some merger =>
      rw [← hp.session] at hm hnew
      have hmerged := settles_compileTarget inBlock hm (Option.map_eq_none_iff.1 hnew) hs
      rw [hsome]
      generalize (compileTarget merger k s inBlock).run p = outcome at hmerged ⊢
      have himp : (∃ e, outcome.1 = .error e) → ∃ e, (finish outcome).1 = .error e := by
        obtain ⟨result, q⟩ := outcome
        rintro ⟨e, rfl⟩
        exact herror e q
      exact (hp.settles.trans (hmerged.mono himp)).trans (hfinish outcome).settles

end Include

open Include

/-! Templates -/

theorem settles_mapM {w : Work} (nodes : List Node)
    (husable : Usable env w.pass.session.depth merge)
    (hm : Settling env w.pass.session.depth merge) :
    w.pass.Settles env (∃ e, ((nodes.mapM (Node.compile env merge)).run w).1 = .error e)
      ((nodes.mapM (Node.compile env merge)).run w).2.pass := by
  induction nodes generalizing w with
  | nil =>
    rw [List.mapM_nil]
    exact (Pass.Quiet.refl w.pass).settles
  | cons n ns ih =>
    have hn := (n.asks_compile w).settles hm
    obtain ⟨_, hgrows⟩ := (n.asks_compile w).grows husable
    rw [Step.run_mapM_cons]
    rcases h : ((n.compile env merge).run w : Except CompileError Piece × Work) with ⟨r, w₁⟩
    rw [h] at hn hgrows
    cases r with
    | error e => exact hn.mono fun _ => ⟨e, rfl⟩
    | ok piece =>
      rw [← hgrows.depth] at husable hm
      have himp : (∃ e, ((ns.mapM (Node.compile env merge)).run w₁).1 = .error e) →
          ∃ e, (((ns.mapM (Node.compile env merge)).run w₁).1.map (piece :: ·)) = .error e := by
        rintro ⟨e, he⟩
        exact ⟨e, by rw [he]; rfl⟩
      exact (hn.mono nofun).trans ((ih husable hm).mono himp)

theorem settles_compileSource (s : Source) (inBlock : Bool) {p : Pass}
    (husable : Usable env p.session.depth merge) (hm : Settling env p.session.depth merge) :
    p.Settles env (∃ e, ((compileSource env merge s inBlock).run p).1 = .error e)
      ((compileSource env merge s inBlock).run p).2 := by
  rw [run_compileSource]
  cases env.parse s with
  | error e => exact .of_session rfl
  | ok nodes =>
    have hbegin {failed : Prop} : p.Settles env failed (p.begin s) := .of_session rfl
    have hnodes := settles_mapM (w := ⟨Draft.start s inBlock, p.begin s⟩) nodes husable hm
    simp only [run_compileNodes]
    generalize (nodes.mapM (Node.compile env merge)).run _ = outcome at hnodes ⊢
    obtain ⟨r, w'⟩ := outcome
    cases r with
    | ok pieces => exact hbegin.trans (hnodes.mono nofun)
    | error e => exact hbegin.trans (hnodes.mono fun _ => ⟨e, rfl⟩)

theorem settling_mergerAt (env : Environment) (depth : Nat) :
    Settling env depth (mergerAt env depth) := by
  induction h : levelsLeft env depth generalizing depth with
  | zero =>
    rw [mergerAt, h]
    intro merger hmerger
    cases hmerger
  | succ n ih =>
    obtain ⟨-, hnone⟩ | ⟨-, merger, hsome, hrun⟩ := mergerAt_cases env depth
    · rw [hnone]
      intro merger hmerger
      cases hmerger
    · rw [hsome]
      rintro _ ⟨rfl⟩ s inBlock p hp
      have hn : levelsLeft env (depth + 1) = n := by
        unfold levelsLeft at h ⊢
        omega
      refine ⟨hrun s inBlock p hp, ?_⟩
      rw [hrun s inBlock p hp, run_compileTemplate]
      exact settles_compileSource s inBlock (usable_mergerAt env p.session.depth)
        (hp ▸ ih (depth + 1) hn)

theorem settles_include (u : TagUse) (attrs : Attributes) (w : Work) :
    w.pass.Settles env
      (∃ e, ((Include.compile env (mergerAt env w.pass.session.depth) u attrs).run w).1 = .error e)
      ((Include.compile env (mergerAt env w.pass.session.depth) u attrs).run w).2.pass :=
  (Include.asks_compile u attrs w).settles (settling_mergerAt env w.pass.session.depth)

/-! Includes that fail -/

namespace Include

variable {u : TagUse} {attrs : Attributes} {file vars : String} {sc : Scope} {w w' : Work}
  {k : MergeKey} {s : Source} {trust : TrustIndex} {e : CompileError}

theorem run_compile_of_target (h : Reads u attrs file vars sc)
    (ht : (target env merge u attrs file).run w = (.error e, w')) :
    (compile env merge u attrs).run w = (.error e, w') := by
  rw [compile, h.file]
  change (Step.ofExcept (scope u attrs) >>= _).run w = _
  rw [h.scope]
  change (Step.ofExcept (locals u attrs sc) >>= _).run w = _
  rw [h.vars]
  change (target env merge u attrs file >>= _).run w = _
  rw [Step.run_bind, ht]

theorem run_target_of_eligible (h : Eligible env w.draft attrs file)
    (hnew : w.pass.session.function? (key file (attrs.code? "compile_id")) = none) :
    (target env merge u attrs file).run w =
      (mergeNew env merge (key file (attrs.code? "compile_id"))).run w := by
  rw [target, Step.run_get_bind]
  simp only [h.requested, h.kept, h.literal, Bool.not_true, Bool.false_or, Bool.false_eq_true,
    if_false]
  rw [Step.run_get_bind, hnew]

theorem run_mergeNew {merger : Merger}
    (hs : (env.locate k.template).Yields w.pass.trust s trust) (hm : isMergeable s = true) :
    (mergeNew env (some merger) k).run w =
      match (compileTarget merger k s w.draft.inBlock).run { w.pass with trust } with
      | (.ok c, p) =>
        (.ok (some ⟨k.template, k.function⟩), ⟨w.draft.absorb c, recorded k s (.ok c, p)⟩)
      | (.error e, p) => (.error e, { w with pass := p }) := by
  have hlocated : (Work.withPass (Pass.withTrust (env.locate k.template))).Yields w s
      { w with pass := { w.pass with trust } } :=
    Work.yields_withPass.2 ⟨_, Pass.yields_withTrust.2 ⟨trust, hs, rfl⟩, rfl⟩
  rw [mergeNew, Step.run_bind, hlocated]
  simp only [hm, Bool.not_true, Bool.false_eq_true, if_false]
  rw [Step.run_get_bind, Step.run_bind, Work.withPass, Step.run_within]
  rcases ((compileTarget merger k s w.draft.inBlock).run { w.pass with trust } :
    Except CompileError Compiled × Pass) with ⟨r, p⟩
  cases r <;> rfl

end Include

/-! Sequences of includes -/

structure Inclusion where
  use : TagUse
  attrs : Attributes
  draft : Draft

namespace Inclusion

def run (env : Environment) (i : Inclusion) (p : Pass) : Except CompileError String × Pass :=
  let (r, w) := (Include.compile env (mergerAt env p.session.depth) i.use i.attrs).run ⟨i.draft, p⟩
  (r, w.pass)

def runAll (env : Environment) : List Inclusion → Pass → List (Except CompileError String) × Pass
  | [], p => ([], p)
  | i :: rest, p =>
    let (r, q) := i.run env p
    let (rs, q') := runAll env rest q
    (r :: rs, q')

variable {i : Inclusion} {k : MergeKey} {p : Pass}

theorem settles_run (env : Environment) (i : Inclusion) (p : Pass) :
    p.Settles env (∃ e, (i.run env p).1 = .error e) (i.run env p).2 :=
  settles_include i.use i.attrs ⟨i.draft, p⟩

theorem settles_runAll (env : Environment) (is : List Inclusion) (p : Pass) :
    p.Settles env (∃ e, .error e ∈ (runAll env is p).1) (runAll env is p).2 := by
  induction is generalizing p with
  | nil => exact .of_session rfl
  | cons i is ih =>
    have hhead : (∃ e, (i.run env p).1 = .error e) →
        ∃ e, .error e ∈ (runAll env (i :: is) p).1 := by
      rintro ⟨e, he⟩
      exact ⟨e, he ▸ List.mem_cons_self⟩
    have htail : (∃ e, .error e ∈ (runAll env is (i.run env p).2).1) →
        ∃ e, .error e ∈ (runAll env (i :: is) p).1 := by
      rintro ⟨e, he⟩
      exact ⟨e, List.mem_cons_of_mem _ he⟩
    exact ((settles_run env i p).mono hhead).trans ((ih (i.run env p).2).mono htail)

structure Names (env : Environment) (i : Inclusion) (k : MergeKey) (file vars : String)
    (sc : Scope) : Prop where
  reads : Reads i.use i.attrs file vars sc
  eligible : Eligible env i.draft i.attrs file
  key : key file (i.attrs.code? "compile_id") = k

theorem run_of_record? {file vars : String} {sc : Scope} (h : i.Names env k file vars sc)
    {r : Merged} (hr : p.record? k = some r) :
    (i.run env p).1 = .ok (codeFor i.attrs file vars sc (some ⟨k.template, r.function⟩)) := by
  have hfunction : p.session.function? k = some r.function := congrArg (Option.map _) hr
  obtain ⟨hreads, heligible, rfl⟩ := h
  have htarget : (target env (mergerAt env p.session.depth) i.use i.attrs file).Yields ⟨i.draft, p⟩
      _ _ := yields_target.2 (.inr ⟨heligible, .inl ⟨r.function, hfunction, rfl, rfl⟩⟩)
  have hcompile := yields_compile.2 ⟨file, vars, sc, _, _, hreads, htarget, rfl, rfl⟩
  rw [run, hcompile]

structure FailsToMerge (env : Environment) (i : Inclusion) (k : MergeKey) (p : Pass) : Prop where
  named : ∃ file vars sc, i.Names env k file vars sc
  unrecorded : p.record? k = none
  target : ∃ s trust, (env.locate k.template).Yields p.trust s trust ∧ isMergeable s = true
  shallow : p.session.depth < env.config.maxInlineDepth.toNat
  failed : ∃ e, (i.run env p).1 = .error e

theorem FailsToMerge.record? (h : i.FailsToMerge env k p) :
    (i.run env p).2.record? k = some k.placeholder := by
  obtain ⟨⟨file, vars, sc, hreads, heligible, rfl⟩, hnew, ⟨s, trust, hs, hmergeable⟩, hshallow,
    ⟨e, he⟩⟩ := h
  obtain ⟨hlimit, -⟩ | ⟨-, merger, hsome, -⟩ := mergerAt_cases env p.session.depth
  · exact absurd hshallow (Nat.not_lt.2 hlimit)
  have hsettling := settling_mergerAt env p.session.depth
  rw [run] at he ⊢
  rw [hsome] at he hsettling ⊢
  have hunrecorded : p.session.function? (key file (i.attrs.code? "compile_id")) = none :=
    Option.map_eq_none_iff.2 hnew
  have hrun := @run_target_of_eligible env (some merger) i.use i.attrs file ⟨i.draft, p⟩ heligible
    hunrecorded
  rw [run_mergeNew hs hmergeable] at hrun
  have hplace := record?_compileTarget (p := { p with trust }) s i.draft.inBlock hsettling hnew
  generalize (compileTarget merger _ s i.draft.inBlock).run _ = outcome at hrun hplace
  obtain ⟨result, q⟩ := outcome
  cases result with
  | ok c =>
    have hcompile := yields_compile.2 ⟨file, vars, sc, _, _, hreads, hrun, rfl, rfl⟩
    rw [hcompile] at he
    cases he
  | error e' =>
    rw [run_compile_of_target hreads hrun]
    exact hplace

/-- Whatever includes are compiled in a session, records stay as they are, and each new one holds
what its template compiled to, except for those of templates that failed to be merged. Such a record
is left empty and stays so, and later includes under its key succeed with a call to its function. -/
theorem runAll_records (env : Environment) (is : List Inclusion) (p : Pass) :
    (∀ k r, p.record? k = some r → (runAll env is p).2.record? k = some r) ∧
    (∀ k r, (runAll env is p).2.record? k = some r → p.record? k = some r ∨ k.Settled env r ∨
      (∃ e, .error e ∈ (runAll env is p).1) ∧ k.Abandoned env r) ∧
    ∀ (i : Inclusion) k, i.FailsToMerge env k p →
      (runAll env is (i.run env p).2).2.record? k = some k.placeholder ∧
      ∀ (j : Inclusion) file vars sc, j.Names env k file vars sc →
        (j.run env (runAll env is (i.run env p).2).2).1 =
          .ok (codeFor j.attrs file vars sc (some ⟨k.template, k.function⟩)) := by
  have hrecords := settles_runAll env is p
  refine ⟨hrecords.kept, hrecords.made, fun i k hi => ?_⟩
  have hplace := (settles_runAll env is (i.run env p).2).kept k _ hi.record?
  refine ⟨hplace, fun j file vars sc hj => ?_⟩
  have hfunction : k.placeholder.function = k.function := rfl
  rw [← hfunction]
  exact run_of_record? hj hplace

end Inclusion

/-! An include of a template that closes a loop which it does not open -/

def Tag.sampleEnd : Tag := { name := "/for", line := 7 }

def Environment.sampleBroken : Environment := .ofNodes [.tag .sampleEnd]

def Inclusion.sample : Inclusion where
  use := ⟨Environment.sampleBroken.rules, "include", 1, 0⟩
  attrs := { values := .ofList [("file", .code "'bad'")] }
  draft := .start .sample false

def MergeKey.sampleBroken : MergeKey := Include.key "'bad'" none

theorem Tag.run_sampleEnd {w : Work} (h : w.draft.blocks = []) :
    ((Node.tag .sampleEnd).compile .sampleBroken merge).run w =
      (.error (.located (.nesting "forclose" .notOpen) 7), w) := by
  obtain ⟨⟨source, blocks, hasCode, dependencies, plugins, inBlock⟩, p⟩ := w
  cases h
  rfl

theorem Environment.not_yields_sampleBroken {s : Source} {inBlock : Bool} {p p' : Pass}
    {c : Compiled} : ¬ (compileTemplate .sampleBroken s inBlock).Yields p c p' := by
  intro h
  obtain ⟨nodes, pieces, w, hparse, hnodes, -⟩ := yields_compileTemplate_nodes.1 h
  cases hparse
  obtain ⟨piece, w₁, rest, hn, -⟩ := Step.yields_mapM_cons.1 hnodes
  have hblocks : (Draft.start s inBlock).blocks = [] := by
    unfold Draft.start
    split <;> rfl
  cases (Tag.run_sampleEnd hblocks).symm.trans hn

namespace Inclusion

theorem names_sample :
    Inclusion.sample.Names .sampleBroken .sampleBroken "'bad'" "array()" .local where
  reads := ⟨rfl, rfl, rfl⟩
  eligible := ⟨rfl, rfl, rfl⟩
  key := rfl

theorem run_sample : (Inclusion.sample.run .sampleBroken { trust := {} }).1 =
    .error (.located (.nesting "forclose" .notOpen) 7) := by
  decide +kernel

theorem failsToMerge_sample :
    Inclusion.sample.FailsToMerge .sampleBroken .sampleBroken { trust := {} } where
  named := ⟨_, _, _, names_sample⟩
  unrecorded := rfl
  target := ⟨_, _, rfl, rfl⟩
  shallow := by decide
  failed := ⟨_, run_sample⟩

theorem runAll_records_sample : ∃ p q : Pass,
    Inclusion.sample.FailsToMerge .sampleBroken .sampleBroken p ∧
    q = (runAll .sampleBroken [.sample] (Inclusion.sample.run .sampleBroken p).2).2 ∧
    q.record? .sampleBroken = some MergeKey.sampleBroken.placeholder ∧
    (Inclusion.sample.run .sampleBroken q).1 = .ok (codeFor Inclusion.sample.attrs "'bad'" "array()"
      .local (some ⟨"bad", MergeKey.sampleBroken.function⟩)) := by
  obtain ⟨-, -, hbroken⟩ := runAll_records .sampleBroken [.sample] { trust := {} }
  obtain ⟨hplace, hcall⟩ := hbroken _ _ failsToMerge_sample
  exact ⟨_, _, failsToMerge_sample, rfl, hplace, hcall .sample _ _ _ names_sample⟩

/-- Of two includes of one template the first fails. The second calls the function that was recorded
for it, although the template does not compile at all. -/
theorem runAll_leaves_placeholder :
    (runAll .sampleBroken [.sample, .sample] { trust := {} }).1 = [
      .error (.located (.nesting "forclose" .notOpen) 7),
      .ok (callCode ⟨"bad", MergeKey.sampleBroken.function⟩
        (arguments {} "'bad'" "array()" .local) none)] ∧
    (runAll .sampleBroken [.sample, .sample] { trust := {} }).2.record? .sampleBroken =
      some MergeKey.sampleBroken.placeholder ∧
    ¬ MergeKey.sampleBroken.Settled .sampleBroken MergeKey.sampleBroken.placeholder := by
  have hplace := failsToMerge_sample.record?
  simp only [runAll, run_sample, run_of_record? names_sample hplace]
  refine ⟨rfl, (settles_run .sampleBroken .sample _).kept _ _ hplace, ?_⟩
  rintro ⟨s, c, ⟨-, inBlock, p, p', hc⟩, -⟩
  exact Environment.not_yields_sampleBroken hc

end Inclusion

end TagTemplate
