import TagTemplate.Proofs.Compile.Depth
import TagTemplate.Proofs.Compile.Fragment

/-!
Invariants of passes. A compilation changes its pass in a few ways only, so that a property that
none of them spoils holds of every pass that a compilation leaves, whether it succeeds or fails.
-/

namespace TagTemplate

variable {α : Type} {env : Environment} {P : Pass → Prop}

structure Include.Calls (file : String) (compileId : Option String) (function code : String) :
    Prop where
  literal : obstacle file compileId = none
  occurs : Occurs (function ++ "($_tpl);\n") code

def Include.Serves (p : Pass) (k : MergeKey) (function : String) : Prop :=
  p.session.function? k = some function ∨ function = k.function

structure Pass.Stable (P : Pass → Prop) : Prop where
  trust : ∀ {p : Pass} (trust : TrustIndex), P p → P { p with trust }
  begin : ∀ {p : Pass} (s : Source), P p → P (p.begin s)
  call : ∀ {p : Pass} {file : String} {compileId : Option String} {function code : String}, P p →
    Include.Calls file compileId function code →
    Include.Serves p (Include.key file compileId) function →
    P (p.note (.called file compileId function code))
  enter : ∀ {p : Pass} (k : MergeKey), P p →
    P { p.note (.merged k) with session := (p.session.reserve k).enter }
  leave : ∀ {p : Pass}, P p → P { p with session := p.session.leave }
  complete : ∀ {p : Pass} (k : MergeKey) (s : Source) (c : Compiled), P p →
    P { p.note (.completed k s c) with session := p.session.complete k c.body }

abbrev Work.Keeps (P : Pass → Prop) (step : Step Work α) : Prop := step.Keeps fun w => P w.pass

theorem Work.keeps_withDraft (step : Step Draft α) : Work.Keeps P (Work.withDraft step) :=
  fun _ h => h

theorem Work.keeps_modifyDraft (f : Draft → Draft) :
    Work.Keeps P (modify fun w => { w with draft := f w.draft }) :=
  fun _ h => h

namespace Include

def Merger.Keeps (P : Pass → Prop) (merger : Merger) : Prop :=
  ∀ s inBlock, (merger s inBlock).Keeps P

variable {merge : Option Merger}

theorem keeps_compileTarget (hP : Pass.Stable P) {merger : Merger} (hm : merger.Keeps P)
    (k : MergeKey) (s : Source) (inBlock : Bool) : (compileTarget merger k s inBlock).Keeps P := by
  intro p hp
  rw [run_compileTarget]
  exact hP.leave (hm s inBlock _ (hP.enter k hp))

theorem keeps_mergeNew (hP : Pass.Stable P) (hm : ∀ merger ∈ merge, merger.Keeps P)
    (k : MergeKey) : Work.Keeps P (mergeNew env merge k) := by
  unfold mergeNew
  refine Step.keeps_bind (fun w hw => hP.trust _ hw) fun s => ?_
  split
  · exact Step.keeps_pure none
  cases merge with
  | none => exact Step.keeps_fail _
  | some merger =>
    refine Step.keeps_bind (fun w hw => hw) fun w => ?_
    have htarget := keeps_compileTarget hP (hm merger rfl) k s w.draft.inBlock
    refine Step.keeps_bind (fun w hw => htarget w.pass hw) fun c => ?_
    exact Step.keeps_bind (fun w hw => hP.complete k s c hw) fun _ => Step.keeps_pure _

theorem keeps_target (hP : Pass.Stable P) (hm : ∀ merger ∈ merge, merger.Keeps P) (u : TagUse)
    (attrs : Attributes) (file : String) : Work.Keeps P (target env merge u attrs file) := by
  intro w hw
  rw [target, Step.run_get_bind]
  dsimp only
  split
  · exact hw
  split
  · split
    · exact hw
    · exact hw
  · rw [Step.run_get_bind]
    split
    · exact hw
    · exact keeps_mergeNew hP hm _ w hw

theorem isLiteral_of_obstacle {file id : String} (h : obstacle file (some id) = none) :
    Text.isLiteral id = true := by
  rw [obstacle] at h
  split at h
  · cases h
  · by_contra hid
    cases (if_neg hid).symm.trans h

theorem serves_of_target {u : TagUse} {attrs : Attributes} {file : String} {t : Target}
    {w w' : Work} (h : (target env merge u attrs file).Yields w (some t) w') :
    obstacle file (attrs.code? "compile_id") = none ∧
      Serves w'.pass (key file (attrs.code? "compile_id")) t.function := by
  cases yields_target.1 h with
  | inl h => cases h.2.2.1
  | inr h =>
    refine ⟨h.1.literal, ?_⟩
    cases h.2 with
    | inl h =>
      obtain ⟨function, hfunction, ht, hw⟩ := h
      cases ht
      rw [hw]
      exact .inl hfunction
    | inr h =>
      obtain ⟨s, trust, -, h⟩ := yields_mergeNew.1 h.2
      cases h with
      | inl h => cases h.2.1
      | inr h =>
        obtain ⟨-, merger, c, p, -, -, ht, -⟩ := h
        cases ht
        exact .inr rfl

theorem keeps_compile (hP : Pass.Stable P) (hm : ∀ merger ∈ merge, merger.Keeps P) (u : TagUse)
    (attrs : Attributes) : Work.Keeps P (compile env merge u attrs) := by
  unfold compile
  refine Step.keeps_bind (Step.keeps_ofExcept _) fun file => ?_
  refine Step.keeps_bind (Step.keeps_ofExcept _) fun scope => ?_
  refine Step.keeps_bind (Step.keeps_ofExcept _) fun vars => ?_
  refine Step.keeps_bind_of_yields (keeps_target hP hm u attrs file) fun {w t w'} ht hw => ?_
  cases t with
  | none => exact hw
  | some t =>
    obtain ⟨hliteral, hserves⟩ := serves_of_target ht
    exact hP.call hw ⟨hliteral, occurs_callCode t _ _⟩ hserves

end Include

open Include

variable {merge : Option Merger}

theorem TagSpec.keeps_compile (hP : Pass.Stable P) (hm : ∀ merger ∈ merge, merger.Keeps P)
    (spec : TagSpec) (u : TagUse) (attrs : Attributes) :
    Work.Keeps P (spec.compile env merge u attrs) := by
  by_cases h : spec.action = .builtin .include
  · rw [TagSpec.compile, h]
    exact Include.keeps_compile hP hm u attrs
  · obtain ⟨step, hstep⟩ := TagSpec.compile_eq_withDraft env h u attrs
    rw [hstep]
    exact Work.keeps_withDraft step

theorem Tag.keeps_compile (hP : Pass.Stable P) (hm : ∀ merger ∈ merge, merger.Keeps P) (t : Tag) :
    Work.Keeps P (t.compile env merge) := by
  unfold Tag.compile
  refine Step.keeps_bind (Step.keeps_ofExcept _) fun _ => ?_
  split
  · exact Step.keeps_fail _
  refine Step.keeps_bind (Work.keeps_withDraft _) fun args => ?_
  split
  · exact Step.keeps_fail _
  refine Step.keeps_bind (TagSpec.keeps_compile hP hm _ _ _) fun code => ?_
  split
  · exact Step.keeps_pure _
  · exact Step.keeps_bind (Work.keeps_modifyDraft _) fun _ => Step.keeps_pure _

theorem Node.keeps_compile (hP : Pass.Stable P) (hm : ∀ merger ∈ merge, merger.Keeps P)
    (n : Node) : Work.Keeps P (n.compile env merge) := by
  cases n with
  | text content => exact Step.keeps_pure _
  | print value line => exact Step.keeps_bind (fun _ h => h) fun _ => Step.keeps_pure _
  | tag t => exact Step.keeps_bind (Tag.keeps_compile hP hm t) fun _ => Step.keeps_pure _

theorem keeps_compileNodes (hP : Pass.Stable P) (hm : ∀ merger ∈ merge, merger.Keeps P)
    (nodes : List Node) : Work.Keeps P (compileNodes env merge nodes) := by
  unfold compileNodes
  have hpieces : Work.Keeps P (nodes.mapM (Node.compile env merge)) :=
    Step.keeps_mapM (Node.keeps_compile hP hm) nodes
  refine Step.keeps_bind hpieces fun pieces => Step.keeps_bind (fun w hw => hw) fun w => ?_
  exact Step.keeps_bind (Step.keeps_ofExcept _) fun _ => Step.keeps_pure _

theorem keeps_compileSource (hP : Pass.Stable P) (hm : ∀ merger ∈ merge, merger.Keeps P) :
    Merger.Keeps P (compileSource env merge) := by
  intro s inBlock p hp
  have hbegin := hP.begin s hp
  rw [run_compileSource]
  split
  · exact keeps_compileNodes hP hm _ ⟨Draft.start s inBlock, p.begin s⟩ hbegin
  · exact hbegin

theorem keeps_compileLevels (hP : Pass.Stable P) (levels : Nat) :
    Merger.Keeps P (compileLevels env levels) := by
  induction levels with
  | zero => exact keeps_compileSource hP nofun
  | succ n ih =>
    apply keeps_compileSource hP
    intro merger hmerger
    cases hmerger
    exact ih

theorem keeps_compileTemplate (hP : Pass.Stable P) : Merger.Keeps P (compileTemplate env) := by
  intro s inBlock p hp
  rw [compileTemplate, Step.run_get_bind]
  exact keeps_compileLevels hP _ s inBlock p hp

structure Pass.Keyed (p : Pass) : Prop where
  function_eq : ∀ {k : MergeKey} {function : String}, p.session.function? k = some function →
    function = k.function
  calls : ∀ {file : String} {compileId : Option String} {function code : String},
    .called file compileId function code ∈ p.trace →
    Include.Calls file compileId function code ∧ function = (Include.key file compileId).function

theorem Pass.keyed_start (trust : TrustIndex) : ({ trust } : Pass).Keyed := ⟨nofun, nofun⟩

theorem Pass.Keyed.reserve {p : Pass} (h : p.Keyed) (k : MergeKey) {j : MergeKey}
    {function : String} (hj : (p.session.reserve k).function? j = some function) :
    function = j.function := by
  rw [Session.function?, Session.reserve, Table.find?_insertNew] at hj
  split at hj
  next heq =>
    cases hfind : p.session.records.find? j with
    | none =>
      rw [hfind] at hj
      rw [← heq]
      exact (Option.some.inj hj).symm
    | some r =>
      apply h.function_eq
      rw [hfind] at hj
      rw [Session.function?, hfind]
      exact hj
  next => exact h.function_eq hj

theorem Session.function?_complete (s : Session) (k j : MergeKey) (body : String) :
    (s.complete k body).function? j = s.function? j := by
  rw [function?, complete, Table.find?_modify]
  split
  · cases h : s.records.find? j <;> simp [function?, h]
  · rfl

theorem Pass.stable_keyed : Pass.Stable Pass.Keyed where
  trust _ h := ⟨h.function_eq, h.calls⟩
  begin s h := ⟨h.function_eq, fun hmem => h.calls ((List.mem_cons.1 hmem).resolve_left nofun)⟩
  call {p file compileId function code} h hcalls hserves := by
    refine ⟨h.function_eq, fun hmem => ?_⟩
    cases List.mem_cons.1 hmem with
    | inl heq =>
      cases heq
      exact ⟨hcalls, hserves.elim h.function_eq id⟩
    | inr hmem => exact h.calls hmem
  enter k h := ⟨h.reserve k, fun hmem => h.calls ((List.mem_cons.1 hmem).resolve_left nofun)⟩
  leave h := ⟨h.function_eq, h.calls⟩
  complete {p} k s c h := by
    refine ⟨fun {j function} hj => ?_, fun hmem => ?_⟩
    · apply h.function_eq
      rw [← p.session.function?_complete k j c.body]
      exact hj
    · exact h.calls ((List.mem_cons.1 hmem).resolve_left nofun)

/-- In every compilation, also one that fails, the codes of merged includes are literals, and each
of them calls the function of its key. -/
theorem keyed_compileTemplate (s : Source) (inBlock : Bool) (trust : TrustIndex) :
    ((compileTemplate env s inBlock).run { trust }).2.Keyed :=
  keeps_compileTemplate Pass.stable_keyed s inBlock _ (Pass.keyed_start trust)

end TagTemplate
