import TagTemplate.Proofs.Compile.Depth
import TagTemplate.Proofs.Compile.Fragment

namespace TagTemplate

variable {env : Environment}

/-! Records -/

def Pass.record? (p : Pass) (k : MergeKey) : Option Merged := p.session.records.find? k

theorem PlainPass.record? {piece : Piece} {p p' : Pass} (h : PlainPass env piece p p')
    (k : MergeKey) : p'.record? k = p.record? k := by
  rw [Pass.record?, h.session, Pass.record?]

namespace Merging

variable {t : Tag} {w : Work} (m : Merging env t w)

theorem record?_key : w.pass.record? m.key = none :=
  Option.map_eq_none_iff.1 m.unrecorded

theorem record?_start (k : MergeKey) :
    m.start.pass.record? k =
      if m.key = k then some ⟨m.key.function, m.key.template, ""⟩ else w.pass.record? k := by
  change (w.pass.session.records.insertNew m.key _).find? k = _
  rw [Table.find?_insertNew]
  split
  next h =>
    have hnone := m.record?_key
    rw [h] at hnone
    change Option.or (w.pass.record? k) _ = _
    rw [hnone, Option.none_or]
  next => rfl

theorem record?_finish (c : Compiled) (p : Pass) (k : MergeKey) :
    (m.finish c p).pass.record? k =
      if m.key = k then (p.record? k).map fun r => { r with body := c.body } else p.record? k :=
  Table.find?_modify p.session.records m.key k _

theorem ne_key_of_record? {k : MergeKey} {r : Merged} (h : w.pass.record? k = some r) :
    m.key ≠ k := by
  rintro rfl
  rw [m.record?_key] at h
  cases h

end Merging

theorem Run.record?_of_record? {nodes : List Node} {w w' : Work} {pieces : List Piece}
    (h : Run env nodes w pieces w') {k : MergeKey} {r : Merged} (hr : w.pass.record? k = some r) :
    w'.pass.record? k = some r := by
  induction h with
  | nil => exact hr
  | plain hn _ ih =>
    apply ih
    rw [(Node.pass_compile hn).record? k]
    exact hr
  | merge m _ _ _ _ ihInner ihRest =>
    have hne := m.ne_key_of_record? hr
    apply ihRest
    rw [m.record?_finish, if_neg hne]
    apply ihInner
    rw [m.record?_start, if_neg hne]
    exact hr

theorem Merging.record?_inner {t : Tag} {w w' : Work} {pieces : List Piece}
    (m : Merging env t w) (h : Run env m.nodes m.start pieces w') :
    w'.pass.record? m.key = some ⟨m.key.function, m.key.template, ""⟩ := by
  apply h.record?_of_record?
  rw [m.record?_start, if_pos rfl]

structure MergeKey.CompilesTo (env : Environment) (k : MergeKey) (s : Source) (c : Compiled) :
    Prop where
  located : ∃ index index', (env.locate k.template).Yields index s index'
  compiled : ∃ inBlock p p', (compileTemplate env s inBlock).Yields p c p'

/-- A record has the body that its template compiled to, and a fragment calls it. -/
structure Merged.Finished (env : Environment) (events : List Event) (k : MergeKey) (r : Merged) :
    Prop where
  compiled : ∃ s c, .completed k s c ∈ events ∧ k.CompilesTo env s c ∧
    r = ⟨k.function, k.template, c.body⟩
  called : ∃ file compileId code, .called file compileId k.function code ∈ events ∧
    Include.key file compileId = k

theorem Merged.Finished.mono {events events' : List Event} {k : MergeKey} {r : Merged}
    (h : r.Finished env events k) (hsub : events ⊆ events') : r.Finished env events' k := by
  obtain ⟨⟨s, c, hc, hrest⟩, ⟨file, compileId, code, hcode, hkey⟩⟩ := h
  exact ⟨⟨s, c, hsub hc, hrest⟩, ⟨file, compileId, code, hsub hcode, hkey⟩⟩

theorem Run.finished {nodes : List Node} {w w' : Work} {pieces : List Piece}
    (h : Run env nodes w pieces w') {k : MergeKey} {r : Merged}
    (hr : w'.pass.record? k = some r) :
    w.pass.record? k = some r ∨ r.Finished env w'.pass.trace k := by
  induction h with
  | nil => exact .inl hr
  | plain hn _ ih =>
    rw [← (Node.pass_compile hn).record? k]
    exact ih hr
  | @merge t ns w inner w₁ pieces w' m hcompiled hinner _ hrest ihInner ihRest =>
    have hlater := hrest.trace_suffix.subset
    obtain hfinish | hfinished := ihRest hr
    · rw [m.record?_finish] at hfinish
      split at hfinish
      next hk =>
        -- the record was empty to the end of the inner run, and now has the body
        subst hk
        rw [m.record?_inner hinner] at hfinish
        cases hfinish
        refine .inr ⟨⟨m.source, w₁.draft.compiled inner, hlater ?_, ?_, rfl⟩,
          ⟨m.file, _, m.code, hlater ?_, rfl⟩⟩
        · exact List.mem_cons_of_mem _ List.mem_cons_self
        · exact ⟨⟨_, _, m.located⟩, ⟨_, _, _, hcompiled⟩⟩
        · exact List.mem_cons_self
      next hk =>
        obtain hstart | hfinished := ihInner hfinish
        · rw [m.record?_start, if_neg hk] at hstart
          exact .inl hstart
        · refine .inr (hfinished.mono fun event hevent => hlater ?_)
          exact List.mem_cons_of_mem _ (List.mem_cons_of_mem _ hevent)
    · exact .inr hfinished

/-! Calls -/

/-- A fragment that calls a recorded function stands among the pieces of a run, or in the body of a
template that the run merges. -/
structure Call (w w' : Work) (pieces : List Piece) (file : String) (compileId : Option String)
    (function code : String) : Prop where
  recorded : ∃ r, w'.pass.record? (Include.key file compileId) = some r ∧ r.function = function
  calls : Occurs (function ++ "($_tpl);\n") code
  placed : (∃ fragment, .code fragment ∈ pieces ∧ Occurs code fragment) ∨
    ∃ k r, w.pass.record? k = none ∧ w'.pass.record? k = some r ∧ Occurs code r.body

theorem Call.cons {w w₁ w' : Work} {pieces : List Piece} {file : String}
    {compileId : Option String} {function code : String} (piece : Piece)
    (hnone : ∀ k, w₁.pass.record? k = none → w.pass.record? k = none)
    (h : Call w₁ w' pieces file compileId function code) :
    Call w w' (piece :: pieces) file compileId function code := by
  refine ⟨h.recorded, h.calls, ?_⟩
  obtain ⟨fragment, hmem, hfragment⟩ | ⟨k, r, hk, hr, hbody⟩ := h.placed
  · exact .inl ⟨fragment, List.mem_cons_of_mem piece hmem, hfragment⟩
  · exact .inr ⟨k, r, hnone k hk, hr, hbody⟩

theorem PlainPass.called_cases {piece : Piece} {p p' : Pass} (h : PlainPass env piece p p')
    {file : String} {compileId : Option String} {function code : String}
    (hcall : .called file compileId function code ∈ p'.trace) :
    .called file compileId function code ∈ p.trace ∨
      (∃ r, p.record? (Include.key file compileId) = some r ∧ r.function = function) ∧
      Occurs (function ++ "($_tpl);\n") code ∧
      ∃ fragment, piece = .code fragment ∧ Occurs code fragment := by
  cases h with
  | same => exact .inl hcall
  | declined _ => exact .inl hcall
  | called hfunction hpiece =>
    rcases List.mem_cons.1 hcall with heq | hmem
    · cases heq
      exact .inr ⟨Option.map_eq_some_iff.1 hfunction, Include.occurs_callCode _ _ _,
        _, hpiece, TagOutput.occurs_emit _ _⟩
    · exact .inl hmem

namespace Merging

variable {t : Tag} {w w' : Work} {pieces : List Piece} (m : Merging env t w)

theorem record?_finish_of_record? (h : Run env m.nodes m.start pieces w') {k : MergeKey}
    {r : Merged} (hr : w.pass.record? k = some r) (c : Compiled) :
    (m.finish c w'.pass).pass.record? k = some r := by
  have hne := m.ne_key_of_record? hr
  rw [m.record?_finish, if_neg hne]
  apply h.record?_of_record?
  rw [m.record?_start, if_neg hne]
  exact hr

theorem record?_finish_key (h : Run env m.nodes m.start pieces w') (c : Compiled) :
    (m.finish c w'.pass).pass.record? m.key = some ⟨m.key.function, m.key.template, c.body⟩ := by
  rw [m.record?_finish, if_pos rfl, m.record?_inner h]
  rfl

theorem exists_record?_finish {p : Pass} {k : MergeKey} {r : Merged}
    (hr : p.record? k = some r) (c : Compiled) :
    ∃ r', (m.finish c p).pass.record? k = some r' ∧ r'.function = r.function := by
  rw [m.record?_finish, hr]
  split
  · exact ⟨_, rfl, rfl⟩
  · exact ⟨_, rfl, rfl⟩

theorem occurs_body (htags : env.tags = Registry.builtin) (h : Run env m.nodes m.start pieces w')
    {fragment : String} (hf : .code fragment ∈ pieces) :
    Occurs fragment (w'.draft.compiled pieces).body := by
  have hcode := h.hasCode htags (.inr ⟨fragment, hf⟩)
  change Occurs fragment (Body.ofPieces w'.draft.hasCode pieces)
  rw [hcode]
  exact Body.occurs_join hf ""

theorem record?_of_finish_none (h : Run env m.nodes m.start pieces w') (c : Compiled)
    (k : MergeKey) (hk : (m.finish c w'.pass).pass.record? k = none) :
    w.pass.record? k = none := by
  cases hr : w.pass.record? k with
  | none => rfl
  | some r =>
    rw [m.record?_finish_of_record? h hr c] at hk
    cases hk

theorem call_of_inner (htags : env.tags = Registry.builtin) {w₁ : Work} {inner : List Piece}
    (hinner : Run env m.nodes m.start inner w₁) {ns : List Node}
    (hrest : Run env ns (m.finish (w₁.draft.compiled inner) w₁.pass) pieces w') {file : String}
    {compileId : Option String} {function code : String}
    (h : Call m.start w₁ inner file compileId function code) :
    Call w w' (m.piece :: pieces) file compileId function code := by
  obtain ⟨⟨r, hr, hfunction⟩, hcalls, hplaced⟩ := h
  refine ⟨?_, hcalls, .inr ?_⟩
  · obtain ⟨r', hr', hsame⟩ := m.exists_record?_finish hr (w₁.draft.compiled inner)
    exact ⟨r', hrest.record?_of_record? hr', hsame.trans hfunction⟩
  · obtain ⟨fragment, hmem, hfragment⟩ | ⟨k, r, hk, hr, hbody⟩ := hplaced
    · have hkey := m.record?_finish_key hinner (w₁.draft.compiled inner)
      exact ⟨m.key, _, m.record?_key, hrest.record?_of_record? hkey,
        hfragment.trans (m.occurs_body htags hinner hmem)⟩
    · have hne : m.key ≠ k := by
        rintro rfl
        rw [m.record?_start, if_pos rfl] at hk
        cases hk
      rw [m.record?_start, if_neg hne] at hk
      refine ⟨k, r, hk, hrest.record?_of_record? ?_, hbody⟩
      rw [m.record?_finish, if_neg hne]
      exact hr

end Merging

theorem Run.call {nodes : List Node} {w w' : Work} {pieces : List Piece}
    (htags : env.tags = Registry.builtin) (h : Run env nodes w pieces w') {file : String}
    {compileId : Option String} {function code : String}
    (hcall : .called file compileId function code ∈ w'.pass.trace) :
    .called file compileId function code ∈ w.pass.trace ∨
      Call w w' pieces file compileId function code := by
  induction h with
  | nil => exact .inl hcall
  | @plain n ns w piece w₁ pieces w' hn hrest ih =>
    have hpass := Node.pass_compile hn
    obtain hbefore | hlater := ih hcall
    · obtain hbefore | ⟨⟨r, hr, hfunction⟩, hcalls, fragment, rfl, hfragment⟩ :=
        hpass.called_cases hbefore
      · exact .inl hbefore
      · refine .inr ⟨⟨r, ?_, hfunction⟩, hcalls, .inl ⟨fragment, List.mem_cons_self, hfragment⟩⟩
        apply hrest.record?_of_record?
        rw [hpass.record?]
        exact hr
    · refine .inr (hlater.cons piece fun k hk => ?_)
      rwa [hpass.record?] at hk
  | @merge t ns w inner w₁ pieces w' m _ hinner _ hrest ihInner ihRest =>
    have hkey := hrest.record?_of_record? (m.record?_finish_key hinner (w₁.draft.compiled inner))
    obtain hbefore | hlater := ihRest hcall
    · rcases List.mem_cons.1 hbefore with heq | hbefore
      · -- the latest event of the include is its own call
        cases heq
        have hcalls := Include.occurs_callCode m.target
          (Include.arguments m.attrs m.file m.vars m.scope) (m.attrs.code? "assign")
        have hpiece := m.spec.output.occurs_emit m.code
        exact .inr ⟨⟨_, hkey, rfl⟩, hcalls, .inl ⟨_, List.mem_cons_self, hpiece⟩⟩
      · have hmem : .called file compileId function code ∈ w₁.pass.trace := by
          simpa using hbefore
        obtain hstart | hcall := ihInner hmem
        · exact .inl (by simpa [Merging.start, Merging.entered, Pass.begin, Pass.note] using hstart)
        · exact .inr (m.call_of_inner htags hinner hrest hcall)
    · exact .inr (hlater.cons m.piece (m.record?_of_finish_none hinner _))

/-! Artifacts -/

theorem Pass.mem_merged {p : Pass} (h : p.session.records.keys.Nodup) {r : Merged} :
    r ∈ p.session.merged ↔ ∃ k, p.record? k = some r := by
  constructor
  · intro hr
    obtain ⟨⟨k, r⟩, hmem, rfl⟩ := List.mem_map.1 hr
    exact ⟨k, Table.find?_of_mem h hmem⟩
  · rintro ⟨k, hk⟩
    exact List.mem_map.2 ⟨(k, r), Table.mem_of_find? hk, rfl⟩

theorem Pass.mem_functions {p : Pass} (h : p.session.records.keys.Nodup) (s : Source)
    (result : Compiled) {function : String} :
    function ∈ (Artifact.ofCompiled env s result p.session).functions.keys ↔
      ∃ k r, p.record? k = some r ∧ r.function = function := by
  rw [Artifact.ofCompiled, Table.mem_keys_ofList, List.map_map, List.mem_map]
  constructor
  · rintro ⟨r, hr, rfl⟩
    obtain ⟨k, hk⟩ := (mem_merged h).1 hr
    exact ⟨k, r, hk, rfl⟩
  · rintro ⟨k, r, hk, rfl⟩
    exact ⟨r, (mem_merged h).2 ⟨k, hk⟩, rfl⟩

namespace Compilation

variable {name : String} {inBlock : Bool} {trust : TrustIndex} {a : Artifact}

theorem exists_run (c : Compilation env name inBlock trust a) :
    ∃ nodes pieces w,
      Run env nodes ⟨Draft.start c.source inBlock,
        ({ trust := c.entryTrust } : Pass).begin c.source⟩ pieces w ∧
      w.pass = c.pass ∧ c.result = w.draft.compiled pieces := by
  obtain ⟨nodes, pieces, w, -, hrun, -, hresult, hpass⟩ := compiles_of_compileTemplate c.compiled
  exact ⟨nodes, pieces, w, hrun, hpass.symm, hresult⟩

theorem nodup_keys (c : Compilation env name inBlock trust a) :
    c.pass.session.records.keys.Nodup := by
  have hnodup := nodup_keys_compileTemplate env c.source inBlock c.entryTrust
  rw [c.compiled] at hnodup
  exact hnodup

theorem mem_merged (c : Compilation env name inBlock trust a) {r : Merged} :
    r ∈ c.pass.session.merged ↔ ∃ k, c.pass.record? k = some r :=
  Pass.mem_merged c.nodup_keys

theorem finished (c : Compilation env name inBlock trust a) {k : MergeKey} {r : Merged}
    (h : c.pass.record? k = some r) : r.Finished env c.pass.trace k := by
  obtain ⟨nodes, pieces, w, hrun, hpass, -⟩ := c.exists_run
  rw [← hpass] at h ⊢
  exact (hrun.finished h).resolve_left nofun

theorem functions_eq (c : Compilation env name inBlock trust a) :
    a.functions = Table.ofList (c.pass.session.merged.map fun r => (r.function, r.body)) :=
  congrArg Artifact.functions c.artifact

theorem mem_functions (c : Compilation env name inBlock trust a) {function : String} :
    function ∈ a.functions.keys ↔ ∃ k r, c.pass.record? k = some r ∧ r.function = function := by
  have hkeys := congrArg (fun a => a.functions.keys) c.artifact
  rw [hkeys]
  exact Pass.mem_functions c.nodup_keys c.source c.result

def Distinct (c : Compilation env name inBlock trust a) : Prop :=
  ∀ j ∈ c.pass.session.records.keys, ∀ k ∈ c.pass.session.records.keys,
    j.function = k.function → j = k

theorem function_eq (c : Compilation env name inBlock trust a) {k : MergeKey} {r : Merged}
    (h : c.pass.record? k = some r) : r.function = k.function := by
  obtain ⟨s, result, -, -, rfl⟩ := (c.finished h).compiled
  rfl

theorem find?_functions (c : Compilation env name inBlock trust a) (hc : c.Distinct)
    {k : MergeKey} {r : Merged} (h : c.pass.record? k = some r) :
    a.functions.find? r.function = some r.body := by
  rw [c.functions_eq]
  apply Table.find?_ofList
  · exact List.mem_map_of_mem (c.mem_merged.2 ⟨k, h⟩)
  · intro body hbody
    obtain ⟨r', hr', heq⟩ := List.mem_map.1 hbody
    obtain ⟨hfunction, rfl⟩ := Prod.mk.inj heq
    obtain ⟨j, hj⟩ := c.mem_merged.1 hr'
    have hsame : j.function = k.function := by
      rw [← c.function_eq hj, ← c.function_eq h, hfunction]
    have hjk := hc j (Table.mem_keys_of_find? hj) k (Table.mem_keys_of_find? h) hsame
    subst hjk
    rw [Option.some.inj (hj.symm.trans h)]

def Holds (c : Compilation env name inBlock trust a) (code : String) : Prop :=
  Occurs code a.body ∨ ∃ r ∈ c.pass.session.merged, Occurs code r.body

theorem call (c : Compilation env name inBlock trust a) (htags : env.tags = Registry.builtin)
    {file : String} {compileId : Option String} {function code : String}
    (h : .called file compileId function code ∈ c.pass.trace) :
    Occurs (function ++ "($_tpl);\n") code ∧ c.Holds code ∧
      ∃ r, c.pass.record? (Include.key file compileId) = some r ∧ r.function = function := by
  obtain ⟨nodes, pieces, w, hrun, hpass, hresult⟩ := c.exists_run
  rw [← hpass] at h
  obtain hstart | hcall := hrun.call htags h
  · simp [Pass.begin, Pass.note] at hstart
  refine ⟨hcall.calls, ?_, hpass ▸ hcall.recorded⟩
  obtain ⟨fragment, hmem, hfragment⟩ | ⟨k, r, -, hr, hbody⟩ := hcall.placed
  · have hcode := hrun.hasCode htags (.inr ⟨fragment, hmem⟩)
    have hbody : a.body = Body.ofPieces w.draft.hasCode pieces := by
      rw [c.artifact, hresult]
      rfl
    refine .inl (hfragment.trans ?_)
    rw [hbody, hcode]
    exact Body.occurs_join hmem ""
  · rw [hpass] at hr
    exact .inr ⟨r, c.mem_merged.2 ⟨k, hr⟩, hbody⟩

end Compilation

/-- Every call of a merged template calls a function of the artifact, whose body is what the
template compiled to, and every function is called. -/
theorem compileArtifact_merged {name : String} {inBlock : Bool} {trust trust' : TrustIndex}
    {a : Artifact} (htags : env.tags = Registry.builtin)
    (h : (compileArtifact env name inBlock).Yields trust a trust') :
    ∃ c : Compilation env name inBlock trust a,
      (∀ file compileId function code,
        .called file compileId function code ∈ c.pass.trace →
        Occurs (function ++ "($_tpl);\n") code ∧ c.Holds code ∧ function ∈ a.functions.keys ∧
        (c.Distinct → ∃ s result,
          .completed (Include.key file compileId) s result ∈ c.pass.trace ∧
          (Include.key file compileId).CompilesTo env s result ∧
          a.functions.find? function = some result.body)) ∧
      ∀ function ∈ a.functions.keys, ∃ file compileId code,
        .called file compileId function code ∈ c.pass.trace ∧ c.Holds code := by
  obtain ⟨c, -⟩ := exists_compilation h
  refine ⟨c, fun file compileId function code hcall => ?_, fun function hfunction => ?_⟩
  · obtain ⟨hcalls, hholds, r, hr, rfl⟩ := c.call htags hcall
    refine ⟨hcalls, hholds, c.mem_functions.2 ⟨_, r, hr, rfl⟩, fun hc => ?_⟩
    have hfind := c.find?_functions hc hr
    obtain ⟨s, result, hcompleted, hcompiles, rfl⟩ := (c.finished hr).compiled
    exact ⟨s, result, hcompleted, hcompiles, hfind⟩
  · obtain ⟨k, r, hr, rfl⟩ := c.mem_functions.1 hfunction
    obtain ⟨file, compileId, code, hcall, rfl⟩ := (c.finished hr).called
    rw [c.function_eq hr]
    exact ⟨file, compileId, code, hcall, (c.call htags hcall).2.1⟩

theorem compileArtifact_merged_sample :
    ∃ a trust', (compileArtifact (.sample none) "main" false).Yields {} a trust' ∧
      a.functions.keys.length = 1 ∧ ∃ c : Compilation (.sample none) "main" false {} a,
        ∀ function ∈ a.functions.keys, ∃ file compileId code,
          .called file compileId function code ∈ c.pass.trace ∧ c.Holds code := by
  obtain ⟨a, trust', h, hlength⟩ : ∃ a trust',
      (compileArtifact (.sample none) "main" false).Yields {} a trust' ∧
      (a.functions.keys.length == 1) = true :=
    Step.exists_yields (by decide +kernel)
  obtain ⟨c, -, hcalled⟩ := compileArtifact_merged rfl h
  exact ⟨a, trust', h, beq_iff_eq.1 hlength, c, hcalled⟩

end TagTemplate
