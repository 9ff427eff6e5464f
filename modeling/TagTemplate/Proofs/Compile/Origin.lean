import TagTemplate.Proofs.Block.Loop
import TagTemplate.Proofs.Compile.Depth
import TagTemplate.Proofs.Compile.Failures
import TagTemplate.Proofs.Library
import TagTemplate.Proofs.Policy.Narrower
import TagTemplate.Proofs.Registry
import TagTemplate.Source.Directory

namespace TagTemplate

variable {env : Environment} {merge : Option Include.Merger} {w : Work} {e : CompileError}

namespace CompileError

/-- The error of a fault that the lines enclose, the innermost first: it has the first known line,
unless the fault concerns a whole template. -/
def reported (fault : Fault) (lines : List Line) : CompileError :=
  ⟨fault, if fault.hasLine then lines.find? (· != 0) else none⟩

theorem atLine_reported (fault : Fault) (lines : List Line) (line : Line) :
    (reported fault lines).atLine line = reported fault (lines ++ [line]) := by
  unfold atLine reported
  cases fault.hasLine with
  | false => simp
  | true =>
    cases hfind : lines.find? (· != 0) with
    | some inner => simp [hfind]
    | none =>
      by_cases hzero : line = 0
      · simp [hfind, hzero]
      · simp [hfind, hzero]

theorem atLine_of_isSome (h : e.line.isSome = true) (line : Line) : e.atLine line = e := by
  cases hline : e.line with
  | none => simp [hline] at h
  | some inner => simp [atLine, hline]

def ArisesAt (line : Line) (e : CompileError) : Prop := e.atLine line = reported e.fault [line]

theorem eq_reported_nil (h : e.line = none) : e = reported e.fault [] := by
  obtain ⟨fault, line⟩ := e
  cases h
  simp [reported]

theorem arisesAt_of_line (h : e.line = none) (line : Line) : e.ArisesAt line := by
  rw [ArisesAt, eq_reported_nil h]
  exact atLine_reported e.fault [] line

theorem located_eq_reported {fault : Fault} {line : Line} (h : fault.hasLine = true) :
    located fault line = reported fault [line] := by
  unfold located reported
  by_cases hzero : line = 0
  · simp [hzero]
  · simp [h, hzero]

theorem arisesAt_located {fault : Fault} (h : fault.hasLine = true) (line : Line) :
    (located fault line).ArisesAt line := by
  rw [ArisesAt, located_eq_reported h, atLine_reported]
  by_cases hzero : line = 0
  · simp [reported, hzero]
  · simp [reported, hzero]

end CompileError

open CompileError

/-! Errors without a line -/

variable {r : Rules}

abbrev Step.Unlined {σ α : Type} (x : Step σ α) : Prop := x.Raises fun e => e.line = none

theorem Rules.line_of_check {kind : Privilege} {name : String}
    (h : r.check kind name = .error e) : e.line = none := by
  obtain hok | herror := Policy.check_cases r.policy kind name
  · cases hok.symm.trans h
  · cases herror.symm.trans h
    rfl

theorem Rules.unlined_check {σ : Type} (kind : Privilege) (name : String) :
    (Step.ofExcept (r.check kind name) : Step σ Unit).Unlined :=
  Step.raises_ofExcept fun _ => line_of_check

theorem Rules.line_of_check_bind {α : Type} {kind : Privilege} {name : String}
    {x : Except CompileError α} (hx : ∀ e, x = .error e → e.line = none)
    (h : (do r.check kind name; x) = .error e) : e.line = none := by
  cases hcheck : r.check kind name with
  | ok _ =>
    rw [hcheck] at h
    exact hx e h
  | error _ =>
    rw [hcheck] at h
    cases h
    exact line_of_check hcheck

theorem Special.line_of_compile {name : String} {member : Option String}
    (h : compile r name member = .error e) : e.line = none := by
  simp only [compile] at h
  split at h
  · refine Rules.line_of_check_bind (fun e' h' => ?_) h
    cases h'
  split at h
  case h_9 =>
    refine Rules.line_of_check_bind (fun e' h' => ?_) h
    split at h' <;> cases h'
    rfl
  case h_10 =>
    split at h <;> cases h
    rfl
  all_goals cases h
  rfl

theorem unlined_callPlugin (name value : String) (args : List String) :
    (callPlugin name value args).Unlined :=
  Step.raises_bind (Step.raises_modify _) fun _ => Step.raises_pure _

theorem unlined_applyModifier (r : Rules) (name value : String) (args : List String) :
    (applyModifier r name value args).Unlined := by
  unfold applyModifier
  split
  · exact Step.raises_pure _
  split
  · split
    · exact Step.raises_pure _
    · exact unlined_callPlugin name value args
  split
  · exact unlined_callPlugin name value args
  · exact Step.raises_bind (Rules.unlined_check _ _) fun _ => Step.raises_pure _

mutual

theorem Expr.unlined_compile (r : Rules) : (e : Expr) → (e.compile r).Unlined
  | .code text => by
    rw [Expr.compile]
    exact Step.raises_pure _
  | .special name member => by
    rw [Expr.compile]
    exact Step.raises_ofExcept fun _ => Special.line_of_compile
  | .call function args => by
    rw [Expr.compile]
    refine Step.raises_bind (Rules.unlined_check _ _) fun _ => ?_
    exact Step.raises_bind (Expr.unlined_compileAll r args) fun _ => Step.raises_pure _
  | .static className member => by
    rw [Expr.compile]
    exact Step.raises_bind (Rules.unlined_check _ _) fun _ => Step.raises_pure _
  | .modified value modifiers => by
    rw [Expr.compile]
    exact Step.raises_bind (Expr.unlined_compile r value) fun code =>
      Modifier.unlined_compileAll r code modifiers

theorem Expr.unlined_compileAll (r : Rules) : (es : List Expr) → (Expr.compileAll r es).Unlined
  | [] => by
    rw [Expr.compileAll]
    exact Step.raises_pure _
  | e :: es => by
    rw [Expr.compileAll]
    refine Step.raises_bind (Expr.unlined_compile r e) fun _ => ?_
    exact Step.raises_bind (Expr.unlined_compileAll r es) fun _ => Step.raises_pure _

theorem Modifier.unlined_compile (r : Rules) (value : String) :
    (m : Modifier) → (m.compile r value).Unlined
  | ⟨name, args⟩ => by
    rw [Modifier.compile]
    refine Step.raises_bind (Rules.unlined_check _ _) fun _ => ?_
    exact Step.raises_bind (Expr.unlined_compileAll r args) fun codes =>
      unlined_applyModifier r name value codes

theorem Modifier.unlined_compileAll (r : Rules) (value : String) :
    (ms : List Modifier) → (Modifier.compileAll r value ms).Unlined
  | [] => by
    rw [Modifier.compileAll]
    exact Step.raises_pure _
  | m :: ms => by
    rw [Modifier.compileAll]
    exact Step.raises_bind (Modifier.unlined_compile r value m) fun code =>
      Modifier.unlined_compileAll r code ms

end

theorem Assignment.unlined_compile (r : Rules) (a : Assignment) : (a.compile r).Unlined :=
  Step.raises_bind (a.value.unlined_compile r) fun _ => Step.raises_pure _

theorem ArgValue.unlined_compile (r : Rules) (v : ArgValue) : (v.compile r).Unlined := by
  cases v with
  | expr e => exact Step.raises_bind (e.unlined_compile r) fun _ => Step.raises_pure _
  | flag b => exact Step.raises_pure _
  | assign a => exact Step.raises_bind (a.unlined_compile r) fun _ => Step.raises_pure _
  | assigns as =>
    exact Step.raises_bind (Step.raises_mapM (Assignment.unlined_compile r) as) fun _ =>
      Step.raises_pure _

theorem TagArg.unlined_compile (r : Rules) (a : TagArg) : (a.compile r).Unlined := by
  cases a with
  | named name v => exact Step.raises_bind (v.unlined_compile r) fun _ => Step.raises_pure _
  | flag name => exact Step.raises_pure _
  | positional v => exact Step.raises_bind (v.unlined_compile r) fun _ => Step.raises_pure _

theorem Expr.line_of_checkEnforced {config : Config} {value : Expr}
    (h : value.checkEnforced config = .error e) : e.line = none := by
  unfold checkEnforced at h
  dsimp only at h
  split at h
  · cases h
  · cases h
    rfl

theorem Expr.unlined_compilePrint (r : Rules) (value : Expr) : (value.compilePrint r).Unlined := by
  intro d e h
  obtain h | ⟨-, h⟩ := fails_compilePrint.1 h
  · exact line_of_checkEnforced h
  · exact value.unlined_compile r d.plugins e h

theorem Tag.Unprepared.line {t : Tag} {plugins : Plugins} (h : t.Unprepared env plugins e) :
    e.line = none := by
  cases h with
  | refused h => exact Rules.line_of_check h
  | unknown _ _ => rfl
  | argument _ _ h => exact Step.raises_mapM (TagArg.unlined_compile env.rules) t.args _ _ h
  | unresolved _ _ _ _ => rfl

/-! Errors of the loader and the parser -/

def Environment.Pinpoints (env : Environment) (e : CompileError) : Prop :=
  e.line.isSome = true ∧
    ((∃ name index, (env.loader.resolve name).Fails index e) ∨ ∃ s, env.parse s = .error e)

theorem TrustIndex.unlined_checkFile (canonical : String → Location) (roots : Roots)
    (file : Location) : Step.Unlined (checkFile canonical roots file) := by
  rintro index e ⟨index', h⟩
  change checkFile canonical roots file index = _ at h
  unfold checkFile at h
  dsimp only at h
  split at h
  · cases h
  · cases h
    rfl

theorem Environment.unlined_checkPlace (env : Environment) (s : Source) :
    (env.checkPlace s).Unlined := by
  unfold checkPlace
  split
  · exact TrustIndex.unlined_checkFile _ _ _
  · exact Step.raises_pure _

theorem Environment.raises_resolve (env : Environment) (name : String) :
    (env.loader.resolve name).Raises fun e => e.line = none ∨ env.Pinpoints e := by
  intro index e h
  cases hline : e.line with
  | none => exact .inl rfl
  | some line => exact .inr ⟨by rw [hline]; rfl, .inl ⟨name, index, h⟩⟩

theorem Environment.raises_locate (env : Environment) (name : String) :
    (env.locate name).Raises fun e => e.line = none ∨ env.Pinpoints e := by
  refine Step.raises_bind (env.raises_resolve name) fun s => ?_
  refine Step.raises_bind (fun index e h => .inl ?_) fun _ => Step.raises_pure _
  exact env.unlined_checkPlace s index e h

theorem raises_resolveEntry (env : Environment) (name : String) :
    (resolveEntry env name).Raises fun e => e.line = none ∨ env.Pinpoints e := by
  have hplace (s : Source) : (do env.checkPlace s; return s : Step TrustIndex Source).Raises
      fun e => e.line = none ∨ env.Pinpoints e := by
    refine Step.raises_bind (fun index e h => .inl ?_) fun _ => Step.raises_pure _
    exact env.unlined_checkPlace s index e h
  refine Step.raises_bind (env.raises_resolve name) fun s => ?_
  dsimp only
  split
  · exact Step.raises_bind (Step.raises_throw (.inl rfl)) fun _ => hplace s
  · exact hplace s

/-! Errors of the built-in tags -/

variable {u : TagUse} {attrs : Attributes}

theorem TagUse.arisesAt_of_require {α : Type} {x : Except AttributeError α}
    (h : u.require x = .error e) : e.ArisesAt u.line := by
  cases x with
  | ok a => cases h
  | error cause =>
    cases h
    exact arisesAt_located rfl u.line

theorem TagUse.require_bind_eq_error {α β : Type} {x : Except AttributeError α}
    {f : α → Except CompileError β} (h : (u.require x >>= f) = .error e) :
    e.ArisesAt u.line ∨ ∃ a, f a = .error e := by
  cases x with
  | ok a => exact .inr ⟨a, h⟩
  | error cause =>
    cases h
    exact .inl (arisesAt_located rfl u.line)

theorem Loop.arisesAt_of_head (h : head u attrs = .error e) : e.ArisesAt u.line := by
  unfold head at h
  split at h
  · obtain h | ⟨_, h⟩ := TagUse.require_bind_eq_error h
    · exact h
    obtain h | ⟨_, h⟩ := TagUse.require_bind_eq_error h
    · exact h
    · cases h
  · obtain h | ⟨_, h⟩ := TagUse.require_bind_eq_error h
    · exact h
    obtain h | ⟨_, h⟩ := TagUse.require_bind_eq_error h
    · exact h
    obtain h | ⟨_, h⟩ := TagUse.require_bind_eq_error h
    · exact h
    obtain h | ⟨_, h⟩ := TagUse.require_bind_eq_error h
    · exact h
    · cases h

theorem Draft.arisesAt_of_closeBlock {d : Draft} {closer : String} {expected : List BlockKind}
    {line : Line} (h : d.closeBlock closer expected line = .error e) : e.ArisesAt line := by
  unfold closeBlock at h
  split at h
  · cases h
    exact arisesAt_located rfl line
  · split at h
    · cases h
    · cases h
      exact arisesAt_located rfl line

theorem LoopTag.arisesAt_of_fails (tag : LoopTag) (attrs : Attributes) {d : Draft}
    (h : (tag.compile u attrs).Fails d e) : e.ArisesAt u.line := by
  have hout := fails_compile.1 h
  unfold outcome at hout
  cases tag with
  | start =>
    cases hhead : Loop.head u attrs with
    | ok code => simp [hhead, Except.map] at hout
    | error e' =>
      rw [hhead] at hout
      cases hout
      exact Loop.arisesAt_of_head hhead
  | fallback =>
    cases hclose : d.closeBlock u.tag [.loop] u.line with
    | ok closed => simp [hclose, Except.map] at hout
    | error e' =>
      rw [hclose] at hout
      cases hout
      exact Draft.arisesAt_of_closeBlock hclose
  | finish =>
    cases hclose : d.closeBlock u.tag [.loop, .fallback] u.line with
    | ok closed => simp [hclose, Except.map] at hout
    | error e' =>
      rw [hclose] at hout
      cases hout
      exact Draft.arisesAt_of_closeBlock hclose

theorem Special.arisesAt_of_fails {d : Draft} (h : (compileTag u attrs).Fails d e) :
    e.ArisesAt u.line := by
  simp only [compileTag, Step.fails_bind, Step.fails_ofExcept, Step.yields_ofExcept,
    Step.not_fails_modify, Step.not_fails_pure, and_false, exists_false, or_false] at h
  obtain h | ⟨var, _, -, h⟩ := h
  · exact TagUse.arisesAt_of_require h
  · exact arisesAt_of_line (line_of_compile h) u.line

namespace Include

theorem arisesAt_of_scope (h : scope u attrs = .error e) : e.ArisesAt u.line := by
  unfold scope at h
  split at h
  · cases h
  · split at h
    · cases h
    · exact TagUse.arisesAt_of_require h

theorem arisesAt_of_localCode {name : String} {v : AttrValue}
    (h : localCode u name v = .error e) : e.ArisesAt u.line := by
  unfold localCode at h
  split at h
  · cases h
  · cases h
  all_goals exact TagUse.arisesAt_of_require h

theorem arisesAt_of_locals {sc : Scope} (h : locals u attrs sc = .error e) :
    e.ArisesAt u.line := by
  obtain ⟨-, -, rfl⟩ | ⟨entry, -, hentry⟩ := locals_eq_error h
  · exact arisesAt_located rfl u.line
  · exact arisesAt_of_localCode hentry

theorem Unreadable.arisesAt (h : Unreadable u attrs e) : e.ArisesAt u.line := by
  cases h with
  | file h => exact TagUse.arisesAt_of_require h
  | scope _ h => exact arisesAt_of_scope h
  | vars _ _ h => exact arisesAt_of_locals h

end Include

/-! Nodes -/

def Work.Offers (env : Environment) (w : Work) (merge : Option Include.Merger) : Prop :=
  merge.isSome = true ↔ w.pass.session.depth < env.config.maxInlineDepth.toNat

theorem Work.offers_mergerAt (env : Environment) (w : Work) :
    w.Offers env (mergerAt env w.pass.session.depth) := by
  rw [Offers, Option.isSome_iff_ne_none, ne_eq, mergerAt_eq_none_iff, Nat.not_le]

def Node.line : Node → Line
  | .text _ => 0
  | .print _ line => line
  | .tag t => t.line

def Node.FailsItself (env : Environment) (w : Work) (n : Node) (fault : Fault) : Prop :=
  ∀ merge, w.Offers env merge → ∃ line, (n.compile env merge).Fails w ⟨fault, line⟩

theorem Include.fails_cases {u : TagUse} {attrs : Attributes} (hm : w.Offers env merge)
    (h : (compile env merge u attrs).Fails w e) :
    ((∀ merge', w.Offers env merge' → (compile env merge' u attrs).Fails w e) ∧
      (e.ArisesAt u.line ∨ env.Pinpoints e)) ∨
    ∃ file vars sc s trust merger, Reads u attrs file vars sc ∧ Fresh env w attrs file s trust ∧
      merge = some merger ∧ (merger s w.draft.inBlock).Fails
        ({ w.pass with trust }.enter (key file (attrs.code? "compile_id"))) e := by
  obtain h | ⟨file, vars, sc, hreads, htarget⟩ := fails_compile.1 h
  · exact .inl ⟨fun _ _ => fails_compile.2 (.inl h), .inl h.arisesAt⟩
  have intro {merge'} (h : (target env merge' u attrs file).Fails w e) :
      (compile env merge' u attrs).Fails w e :=
    fails_compile.2 (.inr ⟨file, vars, sc, hreads, h⟩)
  obtain hobstacle | ⟨heligible, hnew, h⟩ := fails_target.1 htarget
  · refine .inl ⟨fun _ _ => intro (fails_target.2 (.inl hobstacle)), .inl ?_⟩
    obtain ⟨-, -, -, reason, -, rfl⟩ := hobstacle
    exact arisesAt_located rfl u.line
  obtain h | ⟨s, trust, hs, hmergeable, ⟨rfl, rfl⟩ | ⟨merger, rfl, hmerger⟩⟩ :=
      fails_mergeNew.1 h
  · refine .inl ⟨fun _ _ => intro (fails_target.2 (.inr ⟨heligible, hnew,
      fails_mergeNew.2 (.inl h)⟩)), ?_⟩
    exact (env.raises_locate _ _ _ h).imp_left fun hline => arisesAt_of_line hline u.line
  · refine .inl ⟨fun merge' hm' => intro (fails_target.2 (.inr ⟨heligible, hnew,
      fails_mergeNew.2 (.inr ⟨s, trust, hs, hmergeable, .inl ⟨?_, rfl⟩⟩)⟩)), .inl ?_⟩
    · have hlimit := mt hm.2 (by simp)
      exact Option.not_isSome_iff_eq_none.1 (mt hm'.1 hlimit)
    · exact arisesAt_of_line rfl u.line
  · exact .inr ⟨file, vars, sc, s, trust, merger, hreads, ⟨heligible, hnew, hs, hmergeable⟩, rfl,
      hmerger⟩

theorem Builtin.arisesAt_of_fails {b : Builtin} (hb : b ≠ .include)
    (h : (b.compile env merge u attrs).Fails w e) : e.ArisesAt u.line := by
  cases b with
  | loop => exact LoopTag.start.arisesAt_of_fails attrs (Work.fails_withDraft.1 h)
  | fallback => exact LoopTag.fallback.arisesAt_of_fails attrs (Work.fails_withDraft.1 h)
  | endLoop => exact LoopTag.finish.arisesAt_of_fails attrs (Work.fails_withDraft.1 h)
  | «include» => exact absurd rfl hb
  | leftDelimiter => simp [compile, Work.fails_withDraft, Delimiter.compileTag] at h
  | rightDelimiter => simp [compile, Work.fails_withDraft, Delimiter.compileTag] at h
  | special => exact Special.arisesAt_of_fails (Work.fails_withDraft.1 h)

theorem Tag.fails_cases {t : Tag} (htags : env.tags = Registry.builtin) (hm : w.Offers env merge)
    (h : (t.compile env merge).Fails w e) :
    ((∀ merge', w.Offers env merge' → (t.compile env merge').Fails w e) ∧
      (e.ArisesAt t.line ∨ env.Pinpoints e)) ∨
    ∃ s p merger, t.Enters env w s p ∧ merge = some merger ∧
      (merger s w.draft.inBlock).Fails p e := by
  obtain h | ⟨spec, attrs, plugins, hprepared, h⟩ := fails_compile.1 h
  · exact .inl ⟨fun _ _ => fails_compile.2 (.inl h), .inl (arisesAt_of_line h.line t.line)⟩
  have intro {merge'} (h : (spec.compile env merge' (t.use env) attrs).Fails
      { w with draft := { w.draft with plugins } } e) : (t.compile env merge').Fails w e :=
    fails_compile.2 (.inr ⟨spec, attrs, plugins, hprepared, h⟩)
  have hknown := hprepared.known
  rw [htags] at hknown
  obtain ⟨b, rfl⟩ := Registry.builtin_of_find? hknown
  by_cases hb : b = .include
  · subst hb
    obtain ⟨hall, he⟩ | ⟨file, vars, sc, s, trust, merger, hreads, hfresh, rfl, hmerger⟩ :=
      Include.fails_cases (w := { w with draft := { w.draft with plugins } }) hm h
    · exact .inl ⟨fun merge' hm' => intro (hall merge' hm'), he⟩
    · have hfinds : t.Finds env w _ s trust := .intro hprepared rfl hreads hfresh rfl
      exact .inr ⟨s, _, merger, ⟨⟨_, trust, hfinds, rfl⟩, hm.1 rfl⟩, rfl, hmerger⟩
  · have hinclude : b.spec.action ≠ .builtin .include := fun heq => hb (TagAction.builtin.inj heq)
    refine .inl ⟨fun merge' _ => intro ?_, .inl (Builtin.arisesAt_of_fails hb h)⟩
    obtain ⟨step, hstep⟩ := TagSpec.compile_eq_withDraft env hinclude (t.use env) attrs
    rw [hstep] at h ⊢
    exact h

theorem Node.fails_cases {n : Node} (htags : env.tags = Registry.builtin)
    (h : (n.compile env (mergerAt env w.pass.session.depth)).Fails w e) :
    (n.FailsItself env w e.fault ∧ (e = reported e.fault [n.line] ∨ env.Pinpoints e)) ∨
    ∃ t s p e', n = .tag t ∧ t.Enters env w s p ∧
      (compileTemplate env s w.draft.inBlock).Fails p e' ∧ e = e'.atLine t.line := by
  cases n with
  | text content => exact absurd h not_fails_compile_text
  | print value line =>
    obtain ⟨e', hprint, rfl⟩ := fails_compile_print.1 h
    have harises := arisesAt_of_line (value.unlined_compilePrint env.rules _ _ hprint) line
    refine .inl ⟨fun merge' _ => ⟨_, fails_compile_print.2 ⟨e', hprint, rfl⟩⟩, .inl ?_⟩
    rw [harises]
    rfl
  | tag t =>
    obtain ⟨e', htag, rfl⟩ := fails_compile_tag.1 h
    obtain ⟨hall, he⟩ | ⟨s, p, merger, henters, hmerger, hs⟩ :=
      Tag.fails_cases htags (w.offers_mergerAt env) htag
    · refine .inl ⟨fun merge' hm => ⟨_, fails_compile_tag.2 ⟨e', hall merge' hm, rfl⟩⟩, ?_⟩
      obtain harises | hforeign := he
      · left
        rw [harises]
        rfl
      · right
        rwa [atLine_of_isSome hforeign.1]
    · refine .inr ⟨t, s, p, e', rfl, henters, ?_, rfl⟩
      obtain ⟨k, trust, -, rfl⟩ := henters.found
      obtain ⟨q, hq⟩ := hs
      exact ⟨q, ((run_mergerAt_iff rfl).1 ⟨merger, hmerger, hq⟩).2⟩

/-! Templates -/

def Reaches (env : Environment) (s : Source) (inBlock : Bool) (p : Pass) (n : Node) (w : Work) :
    Prop :=
  ∃ before after pieces, env.parse s = .ok (before ++ n :: after) ∧
    (before.mapM (Node.compile env (mergerAt env p.session.depth))).Yields
      ⟨Draft.start s inBlock, p.begin s⟩ pieces w

/-- Where the fault of a template arises that fails to compile: the lines of what it arose at, and
of the includes that merge the template around it, the innermost first. -/
inductive Arises (env : Environment) : Source → Bool → Pass → Fault → List Line → Prop
  | parsing {s inBlock p} {e : CompileError} : env.parse s = .error e →
      Arises env s inBlock p e.fault []
  | node {s inBlock p n w fault} : Reaches env s inBlock p n w → n.FailsItself env w fault →
      Arises env s inBlock p fault [n.line]
  | unclosed {s inBlock p nodes pieces w b rest} : env.parse s = .ok nodes →
      (nodes.mapM (Node.compile env (mergerAt env p.session.depth))).Yields
        ⟨Draft.start s inBlock, p.begin s⟩ pieces w → w.draft.blocks = b :: rest →
      Arises env s inBlock p (.nesting b.kind.tag .unclosed) [b.line]
  | merged {s inBlock p t w s' p' fault lines} : Reaches env s inBlock p (.tag t) w →
      t.Enters env w s' p' → Arises env s' w.draft.inBlock p' fault lines →
      Arises env s inBlock p fault (lines ++ [t.line])

theorem depth_of_yields_mapM {nodes : List Node} {pieces : List Piece} {w w' : Work}
    (h : (nodes.mapM (Node.compile env (mergerAt env w.pass.session.depth))).Yields w pieces w') :
    w'.pass.session.depth = w.pass.session.depth := by
  obtain ⟨events, hgrows⟩ := grows_mapM nodes (usable_mergerAt env w.pass.session.depth)
  rw [h] at hgrows
  exact hgrows.depth

theorem arises_of_fails (htags : env.tags = Registry.builtin) {s : Source} {inBlock : Bool}
    {p : Pass} (h : (compileTemplate env s inBlock).Fails p e) :
    env.Pinpoints e ∨ ∃ lines, Arises env s inBlock p e.fault lines ∧
      e = reported e.fault lines := by
  -- a template that is merged has fewer levels of merging left
  induction hlevels : levelsLeft env p.session.depth using Nat.strongRecOn
    generalizing s inBlock p e with
  | ind levels ih =>
    obtain hparse | ⟨nodes, hparse, h⟩ := fails_compileTemplate.1 h
    · cases hline : e.line with
      | none => exact .inr ⟨[], .parsing hparse, eq_reported_nil hline⟩
      | some line => exact .inl ⟨by rw [hline]; rfl, .inr ⟨s, hparse⟩⟩
    cases h with
    | @node before n after pieces w hnodes hbefore h =>
      subst hnodes
      have hreaches : Reaches env s inBlock p n w := ⟨before, after, pieces, hparse, hbefore⟩
      have hdepth : w.pass.session.depth = p.session.depth :=
        depth_of_yields_mapM (w := ⟨Draft.start s inBlock, p.begin s⟩) hbefore
      rw [← hdepth] at h
      obtain ⟨hitself, he | he⟩ | ⟨t, s', p', e', rfl, henters, hs', rfl⟩ :=
        Node.fails_cases htags h
      · exact .inr ⟨_, .node hreaches hitself, he⟩
      · exact .inl he
      · have hless : levelsLeft env p'.session.depth < levels := by
          obtain ⟨⟨k, trust, -, rfl⟩, hshallow⟩ := henters
          subst hlevels
          unfold levelsLeft
          change env.config.maxInlineDepth.toNat - (w.pass.session.depth + 1) < _
          omega
        obtain he | ⟨lines, harises, he⟩ := ih _ hless hs' rfl
        · left
          rwa [atLine_of_isSome he.1]
        · right
          generalize e'.fault = fault at harises he
          rw [he, atLine_reported]
          exact ⟨_, .merged hreaches henters harises, rfl⟩
    | @unclosed pieces w b rest hpieces hblocks he =>
      rw [Block.unclosedError, located_eq_reported rfl] at he
      rw [he]
      exact .inr ⟨[b.line], .unclosed hparse hpieces hblocks, rfl⟩

/-! Artifacts -/

theorem DirectoryLoader.unlined_fileSource (d : DirectoryLoader) (name : String) :
    (d.fileSource name).Unlined := by
  unfold fileSource
  split
  · exact Step.raises_pure _
  refine Step.raises_bind ?_ fun _ => ?_
  · unfold checkPath
    split
    · exact TrustIndex.unlined_checkFile _ _ _
    · exact Step.raises_pure _
  · split
    · exact Step.raises_throw rfl
    · exact Step.raises_pure _

theorem DirectoryLoader.unlined_resolve (d : DirectoryLoader) (name : String) :
    (d.resolve name).Unlined := by
  unfold resolve
  split
  · exact Step.raises_pure _
  split
  · exact d.unlined_fileSource _
  · refine Step.raises_bind (Step.raises_ofExcept fun e h => ?_) fun _ => Step.raises_throw rfl
    exact Rules.line_of_check (r := { policy := d.policy }) h
  · exact d.unlined_fileSource _

structure Environment.ReadsDocuments (env : Environment) : Prop where
  loader : (∃ library : Library, env.loader = library.loader) ∨
    ∃ d : DirectoryLoader, env.loader = d.loader
  parse : env.parse = Parser.document

theorem Environment.ReadsDocuments.not_pinpoints (henv : env.ReadsDocuments) :
    ¬ env.Pinpoints e := by
  rintro ⟨hline, ⟨name, index, h⟩ | ⟨s, h⟩⟩
  · obtain ⟨library, heq⟩ | ⟨d, heq⟩ := henv.loader
    · rw [heq] at h
      exact absurd h Step.not_fails_pure
    · rw [heq] at h
      rw [d.unlined_resolve name index e h] at hline
      cases hline
  · rw [henv.parse] at h
    unfold Parser.document at h
    split at h
    · cases h
    · cases h
      cases hline

/-- The error of a failing compilation has the fault as it arose, and the first known line among
that of the node or the open block at which it arose and those of the includes around it, from the
innermost outwards. Only another loader or parser may know a line of its own. -/
theorem compileArtifact_reports {name : String} {inBlock : Bool} {trust : TrustIndex}
    (htags : env.tags = Registry.builtin)
    (h : (compileArtifact env name inBlock).Fails trust e) :
    (env.ReadsDocuments → ¬ env.Pinpoints e) ∧
    (env.Pinpoints e ∨ ∃ lines, e = reported e.fault lines ∧
      ((resolveEntry env name).Fails trust e ∧ lines = [] ∨
        ∃ s entryTrust, (resolveEntry env name).Yields trust s entryTrust ∧
          Arises env s inBlock { trust := entryTrust } e.fault lines)) := by
  refine ⟨Environment.ReadsDocuments.not_pinpoints, ?_⟩
  obtain h | ⟨s, entryTrust, hs, h⟩ := fails_compileArtifact.1 h
  · obtain hline | hforeign := raises_resolveEntry env name trust e h
    · exact .inr ⟨[], eq_reported_nil hline, .inl ⟨h, rfl⟩⟩
    · exact .inl hforeign
  · refine (arises_of_fails htags h).imp_right ?_
    rintro ⟨lines, harises, he⟩
    exact ⟨lines, he, .inr ⟨s, entryTrust, hs, harises⟩⟩

/-! A template that fails in another one, at an unknown line -/

def Environment.sampleFailing : Environment := { Environment.sample none with
  parse := fun s => .ok (
    if s.name = "main" then
      [.tag { name := "include", args := [.positional (.expr (.code "'part'"))], line := 4 }]
    else [.print (.special "other" none) 0]) }

theorem compileArtifact_reports_sample :
    ∃ e, (compileArtifact .sampleFailing "main" false).Fails {} e ∧
      e = reported (.specialVariable "$smarty.other") [0, 4] ∧
      (Environment.sampleFailing.Pinpoints e ∨ ∃ lines, e = reported e.fault lines ∧
        ((resolveEntry .sampleFailing "main").Fails {} e ∧ lines = [] ∨
          ∃ s entryTrust, (resolveEntry .sampleFailing "main").Yields {} s entryTrust ∧
            Arises .sampleFailing s false { trust := entryTrust } e.fault lines)) := by
  obtain ⟨e, h, he⟩ : ∃ e, (compileArtifact .sampleFailing "main" false).Fails {} e ∧
      (e == reported (.specialVariable "$smarty.other") [0, 4]) = true :=
    Step.exists_fails (by decide +kernel)
  exact ⟨e, h, beq_iff_eq.1 he, (compileArtifact_reports rfl h).2⟩

end TagTemplate
