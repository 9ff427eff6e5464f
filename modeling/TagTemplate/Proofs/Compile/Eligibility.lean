import TagTemplate.Proofs.Attributes.Resolution
import TagTemplate.Proofs.Compile.Failures
import TagTemplate.Proofs.Policy.Place

namespace TagTemplate

namespace Include

variable {env : Environment} {merge : Option Merger} {u : TagUse} {attrs : Attributes}
  {file vars : String} {sc : Scope} {k : MergeKey} {w w' : Work} {e : CompileError}

/-! Attributes -/

/-- The declared attributes are codes besides the flags, and the others are codes or flags. The
scope is one that is known; the others need the local one. -/
structure Regular (attrs : Attributes) : Prop where
  codes : ∀ name v, attrs.values.find? name = some v → contract.isFlag name = false →
    ∃ text, v = .code text
  others : ∀ entry ∈ attrs.extra.entries,
    (∃ text, entry.2 = .code text) ∨ ∃ b, entry.2 = .flag b
  scope : ∀ code, attrs.code? "scope" = some code → ∃ sc, Scope.ofCode? code = some sc
  local_of_others : attrs.extra.isEmpty = false → ∀ code, attrs.code? "scope" = some code →
    Scope.ofCode? code = some .local

theorem Regular.exists_scope (h : Regular attrs) (u : TagUse) :
    ∃ sc, Include.scope u attrs = .ok sc ∧ (attrs.extra.isEmpty = false → sc = .local) := by
  unfold Include.scope
  cases hcode : attrs.code? "scope" with
  | none => exact ⟨.local, rfl, fun _ => rfl⟩
  | some code =>
    obtain ⟨sc, hsc⟩ := h.scope code hcode
    refine ⟨sc, by simp [hsc], fun hothers => ?_⟩
    exact Option.some.inj (hsc.symm.trans (h.local_of_others hothers code hcode))

theorem Regular.exists_locals (h : Regular attrs) (u : TagUse)
    (hsc : attrs.extra.isEmpty = false → sc = .local) : ∃ vars, locals u attrs sc = .ok vars := by
  cases hlocals : locals u attrs sc with
  | ok vars => exact ⟨vars, rfl⟩
  | error e =>
    obtain ⟨hothers, hscope, -⟩ | ⟨⟨name, v⟩, hmem, herror⟩ := locals_eq_error hlocals
    · exact absurd (hsc hothers) hscope
    · obtain ⟨text, rfl⟩ | ⟨b, rfl⟩ := h.others _ hmem <;> cases herror

theorem Regular.exists_reads {args : List Arg} (h : Regular attrs)
    (hresolve : Attributes.resolve contract args = .ok attrs) (u : TagUse) :
    ∃ file vars sc, Reads u attrs file vars sc := by
  obtain ⟨-, hrequired, heq⟩ := Attributes.resolve_eq_ok.1 hresolve
  obtain ⟨v, hv⟩ := Table.mem_keys_iff.1 (hrequired "file" List.mem_cons_self)
  rw [← heq] at hv
  obtain ⟨file, rfl⟩ := h.codes "file" v hv (by decide)
  obtain ⟨sc, hscope, hlocal⟩ := h.exists_scope u
  obtain ⟨vars, hvars⟩ := h.exists_locals u hlocal
  refine ⟨file, vars, sc, ?_, hscope, hvars⟩
  rw [Attributes.requireCode, hv]
  rfl

theorem Reads.not_unreadable (h : Reads u attrs file vars sc) : ¬ Unreadable u attrs e := by
  intro hno
  cases hno with
  | file hfile => cases h.file.symm.trans hfile
  | scope _ hscope => cases h.scope.symm.trans hscope
  | vars _ hscope hvars =>
    cases h.scope.symm.trans hscope
    cases h.vars.symm.trans hvars

theorem Reads.unique {file' vars' : String} {sc' : Scope} (h : Reads u attrs file vars sc)
    (h' : Reads u attrs file' vars' sc') : file' = file ∧ vars' = vars ∧ sc' = sc := by
  cases h.file.symm.trans h'.file
  cases h.scope.symm.trans h'.scope
  cases h.vars.symm.trans h'.vars
  exact ⟨rfl, rfl, rfl⟩

theorem Reads.fails_compile (h : Reads u attrs file vars sc) :
    (compile env merge u attrs).Fails w e ↔ (target env merge u attrs file).Fails w e := by
  refine Include.fails_compile.trans ⟨?_, fun htarget => .inr ⟨file, vars, sc, h, htarget⟩⟩
  rintro (hno | ⟨file', vars', sc', h', htarget⟩)
  · exact absurd hno h.not_unreadable
  · obtain ⟨rfl, rfl, rfl⟩ := h.unique h'
    exact htarget

theorem Reads.yields_compile {code : String} (h : Reads u attrs file vars sc) :
    (compile env merge u attrs).Yields w code w' ↔
      ∃ t w₁, (target env merge u attrs file).Yields w t w₁ ∧ code = codeFor attrs file vars sc t ∧
        w' = ⟨w₁.draft.marked, noteCall attrs file code t w₁.pass⟩ := by
  refine Include.yields_compile.trans ⟨?_, ?_⟩
  · rintro ⟨file', vars', sc', t, w₁, h', htarget, hcode, hw'⟩
    obtain ⟨rfl, rfl, rfl⟩ := h.unique h'
    exact ⟨t, w₁, htarget, hcode, hw'⟩
  · rintro ⟨t, w₁, htarget, hcode, hw'⟩
    exact ⟨file, vars, sc, t, w₁, h, htarget, hcode, hw'⟩

/-! Literal codes -/

structure Literal (attrs : Attributes) (file : String) : Prop where
  file : Text.isLiteral file = true
  compileId : ∀ id, attrs.code? "compile_id" = some id → Text.isLiteral id = true

theorem obstacle_eq_none_iff :
    obstacle file (attrs.code? "compile_id") = none ↔ Literal attrs file := by
  unfold obstacle
  cases hfile : Text.isLiteral file with
  | false =>
    refine iff_of_false (by simp) fun h => ?_
    cases hfile.symm.trans h.file
  | true =>
    cases hid : attrs.code? "compile_id" with
    | none => exact iff_of_true (by simp) ⟨hfile, by simp [hid]⟩
    | some id =>
      cases hliteral : Text.isLiteral id with
      | false =>
        refine iff_of_false (by simp [hliteral]) fun h => ?_
        cases hliteral.symm.trans (h.compileId id hid)
      | true => exact iff_of_true (by simp [hliteral]) ⟨hfile, by simp [hid, hliteral]⟩

theorem eligible_iff (hkept : w.draft.source.recompiled = false) :
    Eligible env w.draft attrs file ↔
      isRequested env.config w.draft attrs = true ∧ Literal attrs file :=
  ⟨fun h => ⟨h.requested, obstacle_eq_none_iff.1 h.literal⟩,
    fun h => ⟨h.1, hkept, obstacle_eq_none_iff.2 h.2⟩⟩

/-! What the include raises itself -/

/-- The include itself raises the error: it does so whatever templates there are and whatever
merging them does. -/
def RaisesItself (env : Environment) (u : TagUse) (attrs : Attributes) (w : Work)
    (e : CompileError) : Prop :=
  ∀ loader merge, (compile { env with loader } merge u attrs).Fails w e

theorem Reads.raisesItself_iff (h : Reads u attrs file vars sc)
    (hkept : w.draft.source.recompiled = false) :
    RaisesItself env u attrs w e ↔ isForced env.config w.draft = true ∧
      ∃ reason, obstacle file (attrs.code? "compile_id") = some reason ∧
        e = inliningError u reason := by
  constructor
  · intro hraises
    -- where there are no templates, nothing but the codes of the include is to blame
    have htarget := h.fails_compile.1 (hraises ⟨fun name => pure (.missing name)⟩ none)
    obtain ⟨-, -, hforced, hreason⟩ | ⟨-, -, hnew⟩ := fails_target.1 htarget
    · exact ⟨hforced, hreason⟩
    · simp [fails_mergeNew, Environment.locate, Environment.checkPlace_of_none, Source.missing,
        isMergeable] at hnew
  · rintro ⟨hforced, hreason⟩ loader merge
    refine h.fails_compile.2 (fails_target.2 (.inl ⟨?_, hkept, hforced, hreason⟩))
    have hforced : isForced { env with loader }.config w.draft = true := hforced
    simp [isRequested, hforced]

/-! Merging a template -/

structure Finds (env : Environment) (w : Work) (k : MergeKey) (s : Source) (trust : TrustIndex) :
    Prop where
  located : (env.locate k.template).Yields w.pass.trust s trust
  mergeable : isMergeable s = true

inductive Compiles (env : Environment) (w : Work) (k : MergeKey) : Prop
  | intro {s trust c p} : Finds env w k s trust →
      w.pass.session.depth < env.config.maxInlineDepth.toNat →
      (compileTemplate env s w.draft.inBlock).Yields ({ w.pass with trust }.enter k) c p →
      Compiles env w k

inductive Blocked (env : Environment) (w : Work) (k : MergeKey) (e : CompileError) : Prop
  | unlocated : (env.locate k.template).Fails w.pass.trust e → Blocked env w k e
  | deep {s trust} : Finds env w k s trust →
      env.config.maxInlineDepth.toNat ≤ w.pass.session.depth →
      e = Fault.mergeDepth k.template env.config.maxInlineDepth → Blocked env w k e
  | broken {s trust} : Finds env w k s trust →
      w.pass.session.depth < env.config.maxInlineDepth.toNat →
      (compileTemplate env s w.draft.inBlock).Fails ({ w.pass with trust }.enter k) e →
      Blocked env w k e

theorem exists_yields_mergeNew_some :
    (∃ t w', (mergeNew env (mergerAt env w.pass.session.depth) k).Yields w (some t) w') ↔
      Compiles env w k := by
  constructor
  · rintro ⟨t, w', h⟩
    obtain ⟨s, trust, hs, ⟨-, ⟨⟩, -⟩ | ⟨hm, merger, c, p, hmerger, hc, -, -⟩⟩ := yields_mergeNew.1 h
    obtain ⟨q, hq, -⟩ := yields_compileTarget.1 hc
    obtain ⟨hshallow, hrun⟩ := (run_mergerAt_iff rfl).1 ⟨merger, hmerger, hq⟩
    exact ⟨⟨hs, hm⟩, hshallow, hrun⟩
  · rintro ⟨⟨hs, hm⟩, hshallow, hrun⟩
    obtain ⟨merger, hmerger, hq⟩ := (run_mergerAt_iff rfl).2 ⟨hshallow, hrun⟩
    have hc := yields_compileTarget.2 ⟨_, hq, rfl⟩
    exact ⟨_, _, yields_mergeNew.2 ⟨_, _, hs, .inr ⟨hm, merger, _, _, hmerger, hc, rfl, rfl⟩⟩⟩

theorem eq_of_yields_mergeNew_none (h : (mergeNew env merge k).Yields w none w') :
    ∃ trust, w' = { w with pass := { w.pass with trust } } := by
  obtain ⟨s, trust, -, ⟨-, -, hw'⟩ | ⟨-, merger, c, p, -, -, ⟨⟩, -⟩⟩ := yields_mergeNew.1 h
  exact ⟨trust, hw'⟩

theorem fails_mergeNew_iff_blocked :
    (mergeNew env (mergerAt env w.pass.session.depth) k).Fails w e ↔ Blocked env w k e := by
  refine fails_mergeNew.trans ⟨?_, fun h => ?_⟩
  · rintro (h | ⟨s, trust, hs, hm, ⟨hnone, rfl⟩ | ⟨merger, hmerger, p, hp⟩⟩)
    · exact .unlocated h
    · exact .deep ⟨hs, hm⟩ (mergerAt_eq_none_iff.1 hnone) rfl
    · obtain ⟨hshallow, hrun⟩ := (run_mergerAt_iff rfl).1 ⟨merger, hmerger, hp⟩
      exact .broken ⟨hs, hm⟩ hshallow ⟨p, hrun⟩
  · cases h with
    | unlocated h => exact .inl h
    | deep hfinds hdeep he =>
      have hnone := mergerAt_eq_none_iff.2 hdeep
      exact .inr ⟨_, _, hfinds.located, hfinds.mergeable, .inl ⟨hnone, he⟩⟩
    | broken hfinds hshallow h =>
      obtain ⟨p, hp⟩ := h
      obtain ⟨merger, hmerger, hrun⟩ := (run_mergerAt_iff rfl).2 ⟨hshallow, hp⟩
      exact .inr ⟨_, _, hfinds.located, hfinds.mergeable, .inr ⟨merger, hmerger, p, hrun⟩⟩

/-! The decision -/

structure Merges (env : Environment) (w : Work) (attrs : Attributes) (file : String) : Prop where
  requested : isRequested env.config w.draft attrs = true
  literal : Literal attrs file
  callable : (∃ function,
      w.pass.session.function? (key file (attrs.code? "compile_id")) = some function) ∨
    Compiles env w (key file (attrs.code? "compile_id"))

structure Stops (env : Environment) (w : Work) (attrs : Attributes) (file : String)
    (e : CompileError) : Prop where
  requested : isRequested env.config w.draft attrs = true
  literal : Literal attrs file
  unrecorded : w.pass.session.function? (key file (attrs.code? "compile_id")) = none
  blocked : Blocked env w (key file (attrs.code? "compile_id")) e

theorem exists_yields_target_some (hkept : w.draft.source.recompiled = false) :
    (∃ t w', (target env (mergerAt env w.pass.session.depth) u attrs file).Yields w (some t) w') ↔
      Merges env w attrs file := by
  constructor
  · rintro ⟨t, w', h⟩
    obtain ⟨-, -, ⟨⟩, -⟩ | ⟨hel, h⟩ := yields_target.1 h
    obtain ⟨hrequested, hliteral⟩ := (eligible_iff hkept).1 hel
    refine ⟨hrequested, hliteral, ?_⟩
    obtain ⟨function, hfunction, -, -⟩ | ⟨-, hnew⟩ := h
    · exact .inl ⟨function, hfunction⟩
    · exact .inr (exists_yields_mergeNew_some.1 ⟨t, w', hnew⟩)
  · rintro ⟨hrequested, hliteral, hcallable⟩
    have hel := (eligible_iff hkept).2 ⟨hrequested, hliteral⟩
    cases hf : w.pass.session.function? (key file (attrs.code? "compile_id")) with
    | some function =>
      exact ⟨_, w, yields_target.2 (.inr ⟨hel, .inl ⟨function, hf, rfl, rfl⟩⟩)⟩
    | none =>
      obtain ⟨function, hfunction⟩ | hcompiles := hcallable
      · cases hf.symm.trans hfunction
      · obtain ⟨t, w', hnew⟩ := exists_yields_mergeNew_some.2 hcompiles
        exact ⟨t, w', yields_target.2 (.inr ⟨hel, .inr ⟨hf, hnew⟩⟩)⟩

theorem eq_of_yields_target_none (h : (target env merge u attrs file).Yields w none w') :
    ∃ trust, w' = { w with pass := { w.pass with trust } } := by
  obtain ⟨-, -, -, hw'⟩ | ⟨-, ⟨function, -, ⟨⟩, -⟩ | ⟨-, hnew⟩⟩ := yields_target.1 h
  · exact ⟨w.pass.trust, hw'⟩
  · exact eq_of_yields_mergeNew_none hnew

theorem fails_target_iff (hkept : w.draft.source.recompiled = false)
    (h : Reads u attrs file vars sc) :
    (target env (mergerAt env w.pass.session.depth) u attrs file).Fails w e ↔
      RaisesItself env u attrs w e ∨ Stops env w attrs file e := by
  rw [h.raisesItself_iff hkept, fails_target, eligible_iff hkept, fails_mergeNew_iff_blocked]
  refine or_congr ⟨fun h => h.2.2, fun h => ⟨?_, hkept, h⟩⟩ ⟨?_, ?_⟩
  · simp [isRequested, h.1]
  · rintro ⟨⟨hrequested, hliteral⟩, hnone, hblocked⟩
    exact ⟨hrequested, hliteral, hnone, hblocked⟩
  · rintro ⟨hrequested, hliteral, hnone, hblocked⟩
    exact ⟨⟨hrequested, hliteral⟩, hnone, hblocked⟩

theorem head?_callCode {t : Target} {args : String} {assign : Option String} :
    (callCode t args assign).toList.head? = some '/' := by
  have hstart : "/*  Call merged included template \"".toList.head? = some '/' := rfl
  unfold callCode startComment
  simp only [String.toList_append, List.head?_append]
  rw [hstart]
  simp only [Option.some_or]

theorem head?_dispatchCode_ne {args : String} {assign : Option String} :
    (dispatchCode args assign).toList.head? ≠ some '/' := by
  cases assign with
  | none =>
    have hstart : "echo ".toList.head? = some 'e' := rfl
    simp only [dispatchCode, Code.print, String.toList_append, List.head?_append, hstart,
      Option.some_or]
    decide
  | some var =>
    have hstart : "$_tpl->vars[".toList.head? = some '$' := rfl
    simp only [dispatchCode, Code.varAt, String.toList_append, List.head?_append, hstart,
      Option.some_or]
    decide

theorem dispatchCode_ne_callCode {t : Target} {args args' : String}
    {assign assign' : Option String} : dispatchCode args assign ≠ callCode t args' assign' := by
  intro h
  exact head?_dispatchCode_ne (h ▸ head?_callCode)

structure Decided (env : Environment) (u : TagUse) (attrs : Attributes) (w : Work)
    (file vars : String) (sc : Scope) : Prop where
  raises : (∃ reason e, e.fault = .inlining reason ∧ RaisesItself env u attrs w e) ↔
    isForced env.config w.draft = true ∧ ¬ Literal attrs file
  fails : ∀ e, (compile env (mergerAt env w.pass.session.depth) u attrs).Fails w e ↔
    RaisesItself env u attrs w e ∨ Stops env w attrs file e
  merges : (∃ t w', (compile env (mergerAt env w.pass.session.depth) u attrs).Yields w
      (callCode t (arguments attrs file vars sc) (attrs.code? "assign")) w') ↔
    Merges env w attrs file
  dispatches : ∀ code w',
    (compile env (mergerAt env w.pass.session.depth) u attrs).Yields w code w' →
    ¬ Merges env w attrs file →
    code = dispatchCode (arguments attrs file vars sc) (attrs.code? "assign") ∧
      ∃ trust, w' = ⟨w.draft.marked, { w.pass with trust }⟩

theorem Reads.decided (h : Reads u attrs file vars sc)
    (hkept : w.draft.source.recompiled = false) : Decided env u attrs w file vars sc where
  raises := by
    simp only [h.raisesItself_iff hkept, ← obstacle_eq_none_iff]
    constructor
    · rintro ⟨_, _, -, hforced, reason, hreason, -⟩
      exact ⟨hforced, by simp [hreason]⟩
    · rintro ⟨hforced, hsome⟩
      obtain ⟨reason, hreason⟩ := Option.ne_none_iff_exists'.1 hsome
      exact ⟨_, inliningError u reason, rfl, hforced, reason, hreason, rfl⟩
  fails e := h.fails_compile.trans (fails_target_iff hkept h)
  merges := by
    rw [← exists_yields_target_some (u := u) hkept]
    constructor
    · rintro ⟨t, w', hcode⟩
      obtain ⟨t', w₁, htarget, hcode, -⟩ := h.yields_compile.1 hcode
      cases t' with
      | none => exact absurd hcode.symm dispatchCode_ne_callCode
      | some t' => exact ⟨t', w₁, htarget⟩
    · rintro ⟨t, w₁, htarget⟩
      exact ⟨t, _, h.yields_compile.2 ⟨some t, w₁, htarget, rfl, rfl⟩⟩
  dispatches code w' hcode hno := by
    obtain ⟨t, w₁, htarget, rfl, rfl⟩ := h.yields_compile.1 hcode
    cases t with
    | some t => exact absurd ((exists_yields_target_some hkept).1 ⟨t, w₁, htarget⟩) hno
    | none =>
      obtain ⟨trust, rfl⟩ := eq_of_yields_target_none htarget
      exact ⟨rfl, trust, rfl⟩

/-- Whether an include is merged, run by its name or an error is decided by its codes, the settings,
the records so far and its template. -/
theorem compile_decided (env : Environment) (u : TagUse) (args : List Arg) (attrs : Attributes)
    (w : Work) (hresolve : Attributes.resolve contract args = .ok attrs) (hregular : Regular attrs)
    (hkept : w.draft.source.recompiled = false) :
    ∃ file vars sc, Reads u attrs file vars sc ∧ Decided env u attrs w file vars sc := by
  obtain ⟨file, vars, sc, hreads⟩ := hregular.exists_reads hresolve u
  exact ⟨file, vars, sc, hreads, hreads.decided hkept⟩

def sampleVariable : Attributes := { values := .ofList [("file", .code "$name")] }

theorem regular_sampleVariable : Regular sampleVariable where
  codes name v hv _ := by
    obtain ⟨-, rfl⟩ : "file" = name ∧ AttrValue.code "$name" = v := by
      simpa [sampleVariable, Table.ofList] using hv
    exact ⟨"$name", rfl⟩
  others := nofun
  scope := nofun
  local_of_others := nofun

theorem compile_decided_sample :
    Attributes.resolve contract [.positional (.code "$name")] = .ok sampleVariable ∧
    ∃ reason e, e.fault = .inlining reason ∧
      RaisesItself (.sample none) ⟨{}, "include", 1, 0⟩ sampleVariable
        ⟨Draft.start .sample true, { trust := {} }⟩ e := by
  have hresolve :
      Attributes.resolve contract [.positional (.code "$name")] = .ok sampleVariable := rfl
  obtain ⟨file, vars, sc, hreads, hdecided⟩ := compile_decided (.sample none)
    ⟨{}, "include", 1, 0⟩ _ sampleVariable ⟨Draft.start .sample true, { trust := {} }⟩ hresolve
    regular_sampleVariable rfl
  refine ⟨hresolve, hdecided.raises.2 ⟨rfl, fun hliteral => ?_⟩⟩
  obtain rfl : "$name" = file := Except.ok.inj hreads.file
  exact absurd hliteral.file (by decide)

end Include

end TagTemplate
