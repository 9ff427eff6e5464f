import TagTemplate.Proofs.Block.Loop
import TagTemplate.Proofs.Compile.Merger
import TagTemplate.Proofs.Registry

namespace TagTemplate

variable {α β : Type} {env : Environment} {merge : Option Include.Merger}

def TagSpec.KeepsBlocks (spec : TagSpec) : Prop :=
  ∀ {env merge u attrs w code w'}, (spec.compile env merge u attrs).Yields w code w' →
    w'.draft.blocks = w.draft.blocks

def LoopTag.ofName? (name : String) : Option LoopTag :=
  [LoopTag.start, .fallback, .finish].find? fun tag => tag.name == name

theorem LoopTag.name_of_ofName? {name : String} {tag : LoopTag} (h : ofName? name = some tag) :
    tag.name = name :=
  beq_iff_eq.1 (List.find?_some h :)

@[simp] theorem LoopTag.ofName?_name (tag : LoopTag) : ofName? tag.name = some tag := by
  cases tag <;> decide

/-- Loops have their built-in tags, and no other tag opens or closes blocks. -/
structure Registry.OwnsBlocks (tags : Registry) : Prop where
  loops (tag : LoopTag) : tags.find? tag.name = some tag.builtin.spec
  others {name : String} {spec : TagSpec} : tags.find? name = some spec →
    LoopTag.ofName? name = none → spec.KeepsBlocks

def Draft.SparesBlocks (step : Step Draft α) : Prop :=
  ∀ {d a d'}, step.Yields d a d' → d'.blocks = d.blocks

theorem Special.sparesBlocks_compileTag (u : TagUse) (attrs : Attributes) :
    Draft.SparesBlocks (compileTag u attrs) := by
  intro d code d' h
  simp only [compileTag, Step.yields_bind, Step.yields_ofExcept, Step.yields_modify,
    Step.yields_pure] at h
  obtain ⟨_, _, ⟨-, rfl⟩, _, _, ⟨-, rfl⟩, _, _, rfl, -, rfl⟩ := h
  rfl

theorem Delimiter.sparesBlocks_compileTag (delimiter : String) :
    Draft.SparesBlocks (compileTag delimiter) := by
  intro d code d' h
  rw [compileTag, Step.yields_modify_bind] at h
  obtain ⟨-, rfl⟩ := Step.yields_pure.1 h
  rfl

theorem Expr.sparesBlocks_compilePrint (r : Rules) (e : Expr) :
    Draft.SparesBlocks (e.compilePrint r) := by
  intro d code d' h
  obtain ⟨_, _, -, -, -, rfl⟩ := yields_compilePrint.1 h
  rfl

theorem Work.blocks_withDraft {step : Step Draft α} (hstep : Draft.SparesBlocks step) {w w' : Work}
    {a : α} (h : (Work.withDraft step).Yields w a w') : w'.draft.blocks = w.draft.blocks := by
  obtain ⟨d, hd, rfl⟩ := Work.yields_withDraft.1 h
  exact hstep hd

@[simp] theorem Work.blocks_markedBy (code : String) (w : Work) :
    (w.markedBy code).draft.blocks = w.draft.blocks := by
  unfold markedBy
  split <;> rfl

theorem Include.blocks_compile {u : TagUse} {attrs : Attributes} {w w' : Work} {code : String}
    (h : (compile env merge u attrs).Yields w code w') : w'.draft.blocks = w.draft.blocks := by
  obtain ⟨_, _, _, _, _, -, htarget, -, rfl⟩ := yields_compile.1 h
  obtain ⟨-, -, -, rfl⟩ | ⟨-, ⟨_, -, -, rfl⟩ | ⟨-, hnew⟩⟩ := yields_target.1 htarget
  · rfl
  · rfl
  · obtain ⟨_, _, -, ⟨-, -, rfl⟩ | ⟨-, _, _, _, -, -, -, rfl⟩⟩ := yields_mergeNew.1 hnew
    · rfl
    · rfl

theorem Registry.ownsBlocks_builtin : builtin.OwnsBlocks where
  loops tag := by cases tag <;> rfl
  others {name spec} h hname := by
    intro env merge u attrs w code w' hcode
    obtain ⟨b, rfl, rfl⟩ := builtin_cases h
    cases b with
    | loop => cases hname.symm.trans (LoopTag.ofName?_name .start)
    | fallback => cases hname.symm.trans (LoopTag.ofName?_name .fallback)
    | endLoop => cases hname.symm.trans (LoopTag.ofName?_name .finish)
    | «include» => exact Include.blocks_compile hcode
    | leftDelimiter => exact Work.blocks_withDraft (Delimiter.sparesBlocks_compileTag _) hcode
    | rightDelimiter => exact Work.blocks_withDraft (Delimiter.sparesBlocks_compileTag _) hcode
    | special => exact Work.blocks_withDraft (Special.sparesBlocks_compileTag u attrs) hcode

def Node.mark? : Node → Option LoopMark
  | .tag t => (LoopTag.ofName? (dispatchName t.name)).map fun tag => ⟨tag, t.line⟩
  | _ => none

def loopMarks (nodes : List Node) : List LoopMark := nodes.filterMap Node.mark?

/-- What a node needs besides that loops nest. A loop's tag has to be allowed and to have
attributes that the tag accepts; any other node has to compile. -/
inductive Node.Fits (env : Environment) (merge : Option Include.Merger) (w : Work) : Node → Prop
  | loop {t : Tag} {m : LoopMark} {attrs : Attributes} {plugins : Plugins} :
      (Node.tag t).mark? = some m →
      t.Prepared env m.tag.builtin.spec attrs w.draft.plugins plugins →
      m.tag.Accepts (t.use env) attrs → Fits env merge w (.tag t)
  | other {n : Node} {piece : Piece} {w' : Work} : n.mark? = none →
      (n.compile env merge).Yields w piece w' → Fits env merge w n

def AllFit (env : Environment) (merge : Option Include.Merger) : List Node → Work → Prop
  | [], _ => True
  | n :: ns, w => n.Fits env merge w ∧
    ∀ piece w', (n.compile env merge).Yields w piece w' → AllFit env merge ns w'

theorem AllFit.cons {n : Node} {ns : List Node} {w w' : Work} {piece : Piece}
    (hn : n.Fits env merge w) (h : (n.compile env merge).Yields w piece w')
    (hns : AllFit env merge ns w') : AllFit env merge (n :: ns) w := by
  refine ⟨hn, fun piece' w₁ h' => ?_⟩
  obtain ⟨rfl, rfl⟩ := h.unique h'
  exact hns

theorem Node.name_of_mark? {t : Tag} {m : LoopMark} (h : (Node.tag t).mark? = some m) :
    dispatchName t.name = m.tag.name ∧ t.line = m.line := by
  obtain ⟨tag, htag, rfl⟩ := Option.map_eq_some_iff.1 h
  exact ⟨(LoopTag.name_of_ofName? htag).symm, rfl⟩

theorem loopMarks_cons (n : Node) (ns : List Node) :
    loopMarks (n :: ns) = n.mark?.toList ++ loopMarks ns := by
  cases h : n.mark? <;> simp [loopMarks, h]

theorem Tag.blocks_compile {t : Tag} {w w' : Work} {code : String} (htags : env.tags.OwnsBlocks)
    (htag : LoopTag.ofName? (dispatchName t.name) = none)
    (h : (t.compile env merge).Yields w code w') : w'.draft.blocks = w.draft.blocks := by
  obtain ⟨spec, attrs, plugins, fragment, w₁, hprepared, hspec, -, rfl⟩ := yields_compile.1 h
  have hblocks := htags.others hprepared.known htag hspec
  rw [Work.blocks_markedBy]
  exact hblocks

theorem Node.blocks_compile {n : Node} {w w' : Work} {piece : Piece}
    (htags : env.tags.OwnsBlocks) (hn : n.mark? = none)
    (h : (n.compile env merge).Yields w piece w') : w'.draft.blocks = w.draft.blocks := by
  cases n with
  | text content =>
    obtain ⟨-, rfl⟩ := yields_compile_text.1 h
    rfl
  | print value line =>
    obtain ⟨_, d, hd, -, rfl⟩ := yields_compile_print.1 h
    exact value.sparesBlocks_compilePrint env.rules hd
  | tag t =>
    obtain ⟨_, ht, -⟩ := yields_compile_tag.1 h
    exact t.blocks_compile htags (Option.map_eq_none_iff.1 hn) ht

/-! A tag of a loop fails as the grammar has it, at the line of the tag. -/

theorem CompileError.atLine_located (fault : Fault) (line : Line) :
    (located fault line).atLine line = located fault line := by
  by_cases h : line = 0 <;> simp [located, atLine, h]

theorem LoopMark.atLine_of_turn {m : LoopMark} {bs : List Opening} {e : CompileError}
    (h : turn bs m = .error e) : e.atLine m.line = e := by
  unfold turn at h
  split at h <;> cases h
  all_goals exact CompileError.atLine_located _ _

theorem Work.mirrors_withDraft {step : Step Draft α} {w : Work} {Q : β → Draft → Prop}
    {r : Except CompileError β} (h : step.Mirrors w.draft Q r) :
    (Work.withDraft step).Mirrors w (fun b w => Q b w.draft) r :=
  h.within fun _ _ hQ => hQ

theorem Tag.mirrors_compile {t : Tag} {spec : TagSpec} {attrs : Attributes} {plugins : Plugins}
    {w : Work} {r : Except CompileError (List Opening)}
    (h : t.Prepared env spec attrs w.draft.plugins plugins)
    (hspec : (spec.compile env merge (t.use env) attrs).Mirrors
      { w with draft := { w.draft with plugins } } (fun bs w => w.draft.Opened bs) r) :
    (t.compile env merge).Mirrors w (fun bs w => w.draft.Opened bs) r := by
  obtain ⟨args, hargs, hattrs⟩ := h.resolved
  have hwork : (Work.withDraft (Draft.withPlugins (t.args.mapM (TagArg.compile env.rules)))).Yields
      w args { w with draft := { w.draft with plugins } } :=
    Work.yields_withDraft.2 ⟨_, Draft.yields_withPlugins.2 ⟨plugins, hargs, rfl⟩, rfl⟩
  unfold Tag.compile
  apply Step.Yields.mirrors (Step.yields_ofExcept.2 ⟨h.allowed, rfl⟩)
  simp only [h.known]
  apply Step.Yields.mirrors hwork
  simp only [hattrs]
  apply hspec.map
  intro code bs w' _ hw'
  split
  · exact .ok (Step.yields_pure.2 ⟨rfl, rfl⟩) hw'
  · exact .ok (Step.yields_modify_bind.2 (Step.yields_pure.2 ⟨rfl, rfl⟩)) hw'

theorem Node.mirrors_turns {n : Node} {w : Work} {bs : List Opening} (htags : env.tags.OwnsBlocks)
    (h : n.Fits env merge w) (hw : w.draft.Opened bs) :
    (n.compile env merge).Mirrors w (fun bs w => w.draft.Opened bs)
      (LoopMark.turns bs n.mark?.toList) := by
  cases h with
  | @loop t m attrs plugins hm hprepared haccepts =>
    obtain ⟨hname, hline⟩ := name_of_mark? hm
    have hmark : (⟨m.tag, (t.use env).line⟩ : LoopMark) = m := by rw [Tag.use, hline]
    have hturn : (m.tag.builtin.spec.compile env merge (t.use env) attrs).Mirrors
        { w with draft := { w.draft with plugins } } (fun bs w => w.draft.Opened bs)
        (m.turn bs) := by
      have hdraft := LoopTag.mirrors_turn haccepts hname (d := { w.draft with plugins }) hw
      rw [hmark] at hdraft
      rw [LoopTag.compile_spec]
      exact Work.mirrors_withDraft hdraft
    have htag := Tag.mirrors_compile hprepared hturn
    rw [hm, Option.toList_some, LoopMark.turns_singleton]
    have hatLine := htag.atLine fun e he => hline ▸ LoopMark.atLine_of_turn he
    exact hatLine.map fun code bs w' _ hw' => .ok (Step.yields_pure.2 ⟨rfl, rfl⟩) hw'
  | @other _ piece w' hn hyields =>
    rw [hn]
    exact .ok hyields ((blocks_compile htags hn hyields).trans hw)

theorem mirrors_mapM {nodes : List Node} {w : Work} {bs : List Opening}
    (htags : env.tags.OwnsBlocks) (h : AllFit env merge nodes w) (hw : w.draft.Opened bs) :
    (nodes.mapM (Node.compile env merge)).Mirrors w (fun bs w => w.draft.Opened bs)
      (LoopMark.turns bs (loopMarks nodes)) := by
  induction nodes generalizing w bs with
  | nil => exact .ok (Step.yields_mapM_nil.2 ⟨rfl, rfl⟩) hw
  | cons n ns ih =>
    obtain ⟨hn, hns⟩ := h
    rw [loopMarks_cons, LoopMark.turns_append, List.mapM_cons]
    apply (Node.mirrors_turns htags hn hw).bind
    intro piece bs₁ w₁ hpiece hw₁
    apply (ih (hns piece w₁ hpiece) hw₁).map
    intro pieces bs₂ w₂ _ hw₂
    exact .ok (Step.yields_pure.2 ⟨rfl, rfl⟩) hw₂

theorem Draft.Opened.checkClosed {d : Draft} {bs : List Opening} (h : d.Opened bs) :
    d.checkClosed = Opening.checkNone bs := by
  unfold Draft.checkClosed
  rw [h]
  cases bs with
  | nil => rfl
  | cons b bs =>
    obtain ⟨kind, line⟩ := b
    cases kind <;> rfl

theorem Draft.opened_start (s : Source) (inBlock : Bool) : (start s inBlock).Opened [] := by
  unfold Opened start
  split <;> rfl

theorem mirrors_compileNodes {nodes : List Node} {w : Work} (htags : env.tags.OwnsBlocks)
    (h : AllFit env merge nodes w) (hw : w.draft.Opened []) :
    (compileNodes env merge nodes).Mirrors w (fun _ _ => True)
      (checkNesting (loopMarks nodes)) := by
  apply (mirrors_mapM htags h hw).bind
  intro pieces bs w' _ hw'
  apply Step.Yields.mirrors (Step.yields_get.2 ⟨rfl, rfl⟩)
  have hclosed : (Step.ofExcept w'.draft.checkClosed).Mirrors w' (fun _ _ => True)
      (Opening.checkNone bs) := by
    rw [hw'.checkClosed]
    exact Step.mirrors_ofExcept fun _ _ => trivial
  exact hclosed.map fun _ _ _ _ _ => .ok (Step.yields_pure.2 ⟨rfl, rfl⟩) trivial

theorem mirrors_compileSource {s : Source} {inBlock : Bool} {p : Pass} {nodes : List Node}
    (htags : env.tags.OwnsBlocks) (hparse : env.parse s = .ok nodes)
    (h : AllFit env merge nodes ⟨Draft.start s inBlock, p.begin s⟩) :
    (compileSource env merge s inBlock).Mirrors p (fun _ _ => True)
      (checkNesting (loopMarks nodes)) := by
  rw [compileSource_eq]
  apply Step.Yields.mirrors (a := ()) (Step.yields_modify.2 rfl)
  apply Step.Yields.mirrors (Step.yields_ofExcept.2 ⟨hparse, rfl⟩)
  exact (mirrors_compileNodes htags h (Draft.opened_start s inBlock)).within fun _ _ _ => trivial

/-- Where loops have their built-in tags and everything else in a template fits, it compiles if and
only if the tags of its loops nest. Otherwise it fails with the reason why they do not. -/
theorem compileTemplate_nested {s : Source} {inBlock : Bool} {p : Pass} {nodes : List Node}
    (htags : env.tags.OwnsBlocks) (hparse : env.parse s = .ok nodes)
    (hfit : AllFit env (mergerAt env p.session.depth) nodes
      ⟨Draft.start s inBlock, p.begin s⟩) :
    ((∃ c p', (compileTemplate env s inBlock).Yields p c p') ↔ Nested (loopMarks nodes)) ∧
    ∀ e, (compileTemplate env s inBlock).Fails p e ↔ Misnested (loopMarks nodes) e := by
  have hmirrors := mirrors_compileSource htags hparse hfit
  simp only [Step.Yields, Step.Fails, run_compileTemplate]
  constructor
  · rw [← checkNesting_eq_ok]
    refine hmirrors.yields_iff.trans ⟨?_, fun h => ⟨(), h⟩⟩
    rintro ⟨_, h⟩
    exact h
  · intro e
    rw [← checkNesting_eq_error]
    exact hmirrors.fails_iff

def Tag.sampleLoop : Tag := {
  name := "for"
  args := [.named "start" (.assign ⟨"'i'", .code "$a"⟩), .named "to" (.expr (.code "$b"))]
  line := 1 }

def Node.sampleLoop : List Node := [
  .tag .sampleLoop,
  .text "x",
  .tag { name := "forelse", line := 2 },
  .tag { name := "forelse", line := 3 }]

set_option maxRecDepth 4000 in
theorem allFit_sampleLoop :
    AllFit (.ofNodes Node.sampleLoop) (mergerAt (.ofNodes Node.sampleLoop) 0) Node.sampleLoop
      ⟨Draft.start .sample false, Pass.begin .sample {}⟩ := by
  refine .cons (.loop (m := ⟨.start, 1⟩) rfl ⟨rfl, rfl, _, rfl, rfl⟩ ⟨_, rfl⟩) rfl ?_
  refine .cons (.other rfl rfl) rfl ?_
  refine .cons (.loop (m := ⟨.fallback, 2⟩) rfl ⟨rfl, rfl, _, rfl, rfl⟩ trivial) rfl ?_
  exact ⟨.loop (m := ⟨.fallback, 3⟩) rfl ⟨rfl, rfl, _, rfl, rfl⟩ trivial, fun _ _ _ => trivial⟩

theorem compileTemplate_nested_sample :
    (compileTemplate (.ofNodes Node.sampleLoop) .sample false).Fails {}
      (LoopMark.misplaced ⟨.fallback, 3⟩ (.mismatched .fallback)) := by
  have h := compileTemplate_nested (p := {}) Registry.ownsBlocks_builtin rfl allFit_sampleLoop
  have hopen : LeavesOpen [⟨.start, 1⟩, ⟨.fallback, 2⟩] [⟨.fallback, 2⟩] :=
    .fallback (.none .empty) .empty .empty
  exact (h.2 _).2 (.mismatched hopen)

end TagTemplate
