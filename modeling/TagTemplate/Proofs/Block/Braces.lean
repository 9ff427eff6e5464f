import TagTemplate.Proofs.Block.Template
import TagTemplate.Proofs.Compile.Fragment
import TagTemplate.Proofs.Text.Quoting

namespace TagTemplate

namespace Braces

def opened (text : String) : Nat := text.toList.count '\x7b'

def closed (text : String) : Nat := text.toList.count '\x7d'

structure Opens (text : String) (n : Nat) : Prop where
  opened : opened text = n
  closed : closed text = 0

abbrev Free (text : String) : Prop := Opens text 0

/-- Text that is read with a number of braces open leaves another number of them open, and closes no
brace that is not open. -/
structure Moves (before : Nat) (text : String) (after : Nat) : Prop where
  total : before + opened text = after + closed text
  below : ∀ p, p <+: text.toList → p.count '\x7d' ≤ before + p.count '\x7b'

variable {a b c : Nat} {s t : String}

@[simp] theorem opened_append (s t : String) : opened (s ++ t) = opened s + opened t := by
  simp [opened]

@[simp] theorem closed_append (s t : String) : closed (s ++ t) = closed s + closed t := by
  simp [closed]

theorem Opens.append {m n : Nat} (hs : Opens s m) (ht : Opens t n) : Opens (s ++ t) (m + n) where
  opened := by rw [opened_append, hs.opened, ht.opened]
  closed := by rw [closed_append, hs.closed, ht.closed]

theorem free_join {texts : List String} (h : ∀ text ∈ texts, Free text) :
    Free (String.join texts) := by
  induction texts with
  | nil => exact ⟨rfl, rfl⟩
  | cons text texts ih =>
    rw [List.forall_mem_cons] at h
    rw [String.join_cons]
    exact h.1.append (ih h.2)

theorem moves_empty (a : Nat) : Moves a "" a where
  total := rfl
  below p hp := by
    rw [List.prefix_nil.1 hp]
    exact Nat.zero_le _

theorem Moves.append (hs : Moves a s b) (ht : Moves b t c) : Moves a (s ++ t) c where
  total := by
    have h := hs.total
    have h' := ht.total
    rw [opened_append, closed_append]
    omega
  below p hp := by
    rw [String.toList_append] at hp
    obtain hp | ⟨q, rfl⟩ := List.prefix_or_prefix_of_prefix hp (List.prefix_append _ _)
    · exact hs.below p hp
    · have h := ht.below q ((List.prefix_append_right_inj _).1 hp)
      have htotal := hs.total
      unfold opened closed at htotal
      rw [List.count_append, List.count_append]
      omega

theorem moves_of_closed_le (hle : closed s ≤ a) (htotal : a + opened s = b + closed s) :
    Moves a s b where
  total := htotal
  below p hp := by
    have h : p.count '\x7d' ≤ closed s := hp.sublist.count_le _
    omega

end Braces

open Braces

/-! Codes -/

theorem Text.free_quote {s : String} (h : Free s) : Free (quote s) where
  opened := by
    have hs := h.opened
    unfold Braces.opened at hs ⊢
    simp [toList_quote, quoteChars, count_escapeChars, hs]
  closed := by
    have hs := h.closed
    unfold Braces.closed at hs ⊢
    simp [toList_quote, quoteChars, count_escapeChars, hs]

theorem Braces.free_nat (n : Nat) : Free (Nat.repr n) := by
  have h {c : Char} (hc : c.isDigit = false) : (Nat.repr n).toList.count c = 0 := by
    rw [List.count_eq_zero, Nat.repr_eq_ofList_toDigits, String.toList_ofList]
    intro hmem
    have hdigit := Nat.isDigit_of_mem_toDigits (by decide) (by decide) hmem
    simp [hc] at hdigit
  exact ⟨h rfl, h rfl⟩

theorem Braces.free_int (n : Int) : Free (toString n) := by
  cases n with
  | ofNat n => exact free_nat n
  | negSucc n => exact Opens.append (s := "-") ⟨rfl, rfl⟩ (free_nat (n + 1))

/-! Attributes -/

structure CodeAssignment.BraceFree (a : CodeAssignment) : Prop where
  var : Free a.var
  value : Free a.value

def AttrValue.BraceFree : AttrValue → Prop
  | .code text => Free text
  | .flag _ => True
  | .assign a => a.BraceFree
  | .assigns as => ∀ a ∈ as, a.BraceFree

def Attributes.BraceFree (attrs : Attributes) : Prop :=
  ∀ {name v}, attrs.values.find? name = some v → v.BraceFree

namespace Attributes.BraceFree

variable {attrs : Attributes} {name : String}

theorem code (h : attrs.BraceFree) {text : String} (hcode : attrs.code? name = some text) :
    Free text := by
  unfold code? at hcode
  split at hcode
  next hv =>
    cases hcode
    exact h hv
  next => cases hcode

theorem requireCode (h : attrs.BraceFree) {text : String}
    (hcode : attrs.requireCode name = .ok text) : Free text := by
  unfold Attributes.requireCode at hcode
  split at hcode <;> cases hcode
  next hv => exact h hv

theorem requireAssign (h : attrs.BraceFree) {a : CodeAssignment}
    (ha : attrs.requireAssign name = .ok a) : a.BraceFree := by
  unfold Attributes.requireAssign at ha
  split at ha <;> cases ha
  next hv => exact h hv
  next hv => exact h hv _ List.mem_cons_self

theorem requireAssigns (h : attrs.BraceFree) {as : List CodeAssignment}
    (has : attrs.requireAssigns name = .ok as) : ∀ a ∈ as, a.BraceFree := by
  unfold Attributes.requireAssigns at has
  split at has <;> cases has
  next hv =>
    intro a ha
    cases List.mem_singleton.1 ha
    exact h hv
  next hv => exact h hv

end Attributes.BraceFree

namespace Loop

theorem free_var {name : String} (h : Free name) : Free (Code.var name) :=
  Opens.append (.append (s := "$_tpl->vars[") ⟨rfl, rfl⟩ (Text.free_quote h)) ⟨rfl, rfl⟩

theorem free_countCode {var start stop : String} {max : Option String} (hvar : Free var)
    (hstart : Free start) (hstop : Free stop) (hmax : ∀ code ∈ max, Free code) :
    Free (countCode var start stop max) := by
  cases max with
  | none =>
    constructor
    · simp only [countCode, opened_append, hvar.opened, hstart.opened, hstop.opened]
      rfl
    · simp only [countCode, closed_append, hvar.closed, hstart.closed, hstop.closed]
      rfl
  | some code =>
    have hcode := hmax code rfl
    constructor
    · simp only [countCode, opened_append, hvar.opened, hstart.opened, hstop.opened, hcode.opened]
      rfl
    · simp only [countCode, closed_append, hvar.closed, hstart.closed, hstop.closed, hcode.closed]
      rfl

theorem free_totalCode {var start stop step : String} {max : Option String} (hvar : Free var)
    (hstart : Free start) (hstop : Free stop) (hmax : ∀ code ∈ max, Free code) :
    Free (totalCode var start stop step max) := by
  unfold totalCode
  split
  · exact free_int _
  · exact free_countCode hvar hstart hstop hmax

theorem opens_rangeHead {start : CodeAssignment} {stop step : String} {max : Option String}
    (hstart : start.BraceFree) (hstop : Free stop) (hstep : Free step)
    (hmax : ∀ code ∈ max, Free code) : Opens (rangeHead start stop step max) 2 := by
  unfold rangeHead
  extract_lets var
  have hvar : Free var := free_var hstart.var
  have htotal : Free (totalCode var start.value stop step max) :=
    free_totalCode hvar hstart.value hstop hmax
  clear_value var
  constructor
  · simp only [opened_append, hvar.opened, hstart.value.opened, hstep.opened, htotal.opened]
    rfl
  · simp only [closed_append, hvar.closed, hstart.value.closed, hstep.closed, htotal.closed]
    rfl

theorem free_startCode {a : CodeAssignment} (h : a.BraceFree) : Free (startCode a) := by
  have hvar := free_var h.var
  constructor
  · simp only [startCode, opened_append, hvar.opened, h.value.opened]
    rfl
  · simp only [startCode, closed_append, hvar.closed, h.value.closed]
    rfl

theorem opens_generalHead {starts : List CodeAssignment} {condition var step : String}
    (hstarts : ∀ a ∈ starts, a.BraceFree) (hcondition : Free condition) (hvar : Free var)
    (hstep : Free step) : Opens (generalHead starts condition var step) 2 := by
  have hjoin : Free (String.join (starts.map startCode)) := by
    apply Braces.free_join
    intro code hcode
    obtain ⟨a, ha, rfl⟩ := List.mem_map.1 hcode
    exact free_startCode (hstarts a ha)
  constructor
  · simp only [generalHead, Code.varAt, opened_append, hjoin.opened, hcondition.opened,
      hvar.opened, hstep.opened]
    rfl
  · simp only [generalHead, Code.varAt, closed_append, hjoin.closed, hcondition.closed,
      hvar.closed, hstep.closed]
    rfl

theorem opens_head {u : TagUse} {attrs : Attributes} {code : String} (h : attrs.BraceFree)
    (hcode : head u attrs = .ok code) : Opens code 2 := by
  unfold head at hcode
  split at hcode
  · obtain ⟨start, hstart, hcode⟩ := TagUse.require_bind_eq_ok hcode
    obtain ⟨stop, hstop, hcode⟩ := TagUse.require_bind_eq_ok hcode
    rw [← Except.ok.inj hcode]
    have hstep : Free ((attrs.code? "step").getD "1") := by
      cases hstep : attrs.code? "step" with
      | none => exact ⟨rfl, rfl⟩
      | some step => exact h.code hstep
    exact opens_rangeHead (h.requireAssign hstart) (h.requireCode hstop) hstep fun _ => h.code
  · obtain ⟨starts, hstarts, hcode⟩ := TagUse.require_bind_eq_ok hcode
    obtain ⟨condition, hcondition, hcode⟩ := TagUse.require_bind_eq_ok hcode
    obtain ⟨var, hvar, hcode⟩ := TagUse.require_bind_eq_ok hcode
    obtain ⟨step, hstep, hcode⟩ := TagUse.require_bind_eq_ok hcode
    rw [← Except.ok.inj hcode]
    exact opens_generalHead (h.requireAssigns hstarts) (h.requireCode hcondition)
      (h.requireCode hvar) (h.requireCode hstep)

end Loop

/-! Tags -/

def BlockKind.braces : BlockKind → Nat
  | .loop => 2
  | .fallback => 1

def openBraces (bs : List Block) : Nat :=
  2 * (bs.countP fun b => b.kind == .loop) + bs.countP fun b => b.kind == .fallback

theorem openBraces_cons (b : Block) (bs : List Block) :
    openBraces (b :: bs) = openBraces bs + b.kind.braces := by
  obtain ⟨kind, closers, line⟩ := b
  cases kind <;> simp [openBraces, BlockKind.braces] <;> omega

@[simp] theorem Loop.opened_endCode (kind : BlockKind) : opened (endCode kind) = 0 := by
  cases kind <;> rfl

@[simp] theorem Loop.closed_endCode (kind : BlockKind) : closed (endCode kind) = kind.braces := by
  cases kind <;> rfl

theorem LoopTag.Turns.moves {tag : LoopTag} {u : TagUse} {attrs : Attributes}
    {bs bs' : List Block} {code : String} (h : Turns u attrs tag bs code bs')
    (hfree : tag = .start → attrs.BraceFree) : Moves (openBraces bs) code (openBraces bs') := by
  cases h with
  | start hhead =>
    have hopens := Loop.opens_head (hfree rfl) hhead
    apply moves_of_closed_le
    · simp [hopens.closed]
    · simp [hopens.closed, hopens.opened, openBraces_cons, BlockKind.braces]
  | fallback hb =>
    have hopened : opened Loop.elseCode = 1 := rfl
    have hclosed : closed Loop.elseCode = 2 := rfl
    apply moves_of_closed_le
    · simp [hclosed, openBraces_cons, hb, BlockKind.braces]
    · simp [hopened, hclosed, openBraces_cons, hb, BlockKind.braces]
  | finish =>
    apply moves_of_closed_le
    · simp [openBraces_cons]
    · simp [openBraces_cons]

structure LoopCall where
  tag : LoopTag
  use : TagUse
  attrs : Attributes

namespace LoopCall

def BraceFree (c : LoopCall) : Prop := c.tag = .start → c.attrs.BraceFree

def run (c : LoopCall) (d : Draft) : Except CompileError String × Draft :=
  (c.tag.compile c.use c.attrs).run d

def runAll : List LoopCall → Draft → String × Draft
  | [], d => ("", d)
  | c :: cs, d =>
    match c.run d with
    | (.ok code, d') => (code ++ (runAll cs d').1, (runAll cs d').2)
    | (.error _, d') => runAll cs d'

theorem moves_runAll {cs : List LoopCall} (h : ∀ c ∈ cs, c.BraceFree) (d : Draft) :
    Moves (openBraces d.blocks) (runAll cs d).1 (openBraces (runAll cs d).2.blocks) := by
  induction cs generalizing d with
  | nil => exact moves_empty _
  | cons c cs ih =>
    rw [List.forall_mem_cons] at h
    unfold runAll
    cases hrun : c.run d with
    | mk r d' =>
      cases r with
      | ok code => exact ((LoopTag.turns_of_yields hrun).moves h.1).append (ih h.2 d')
      | error e =>
        rw [← LoopTag.fails_unchanged hrun]
        exact ih h.2 d'

end LoopCall

/-! Templates -/

def loopCode : List Node → List Piece → String
  | n :: ns, piece :: pieces =>
    (if n.mark?.isSome then piece.fragment else "") ++ loopCode ns pieces
  | _, _ => ""

def Node.LoopBraceFree (env : Environment) (n : Node) : Prop :=
  ∀ {t attrs plugins plugins'}, n = .tag t →
    t.Prepared env Builtin.loop.spec attrs plugins plugins' → attrs.BraceFree

variable {env : Environment} {merge : Option Include.Merger}

theorem Node.moves_compile {n : Node} {w w' : Work} {piece : Piece} (htags : env.tags.OwnsBlocks)
    (hfree : n.LoopBraceFree env) (h : (n.compile env merge).Yields w piece w') :
    Moves (openBraces w.draft.blocks) (if n.mark?.isSome then piece.fragment else "")
      (openBraces w'.draft.blocks) := by
  cases hn : n.mark? with
  | none =>
    rw [blocks_compile htags hn h]
    exact moves_empty _
  | some m =>
    cases n with
    | text content => cases hn
    | print value line => cases hn
    | tag t =>
      obtain ⟨code, ht, rfl⟩ := yields_compile_tag.1 h
      obtain ⟨spec, attrs, plugins, fragment, w₁, hprepared, hspec, rfl, rfl⟩ :=
        Tag.yields_compile.1 ht
      have hknown := hprepared.known
      rw [(name_of_mark? hn).1, htags.loops] at hknown
      cases hknown
      rw [LoopTag.compile_spec] at hspec
      obtain ⟨d, hd, rfl⟩ := Work.yields_withDraft.1 hspec
      rw [Work.blocks_markedBy, LoopTag.emit_spec]
      apply (LoopTag.turns_of_yields hd).moves
      intro hstart
      rw [hstart] at hprepared
      exact hfree rfl hprepared

theorem moves_mapM {nodes : List Node} {w w' : Work} {pieces : List Piece}
    (htags : env.tags.OwnsBlocks) (hfree : ∀ n ∈ nodes, n.LoopBraceFree env)
    (h : (nodes.mapM (Node.compile env merge)).Yields w pieces w') :
    Moves (openBraces w.draft.blocks) (loopCode nodes pieces) (openBraces w'.draft.blocks) := by
  induction nodes generalizing w pieces with
  | nil =>
    obtain ⟨rfl, rfl⟩ := Step.yields_mapM_nil.1 h
    exact moves_empty _
  | cons n ns ih =>
    obtain ⟨piece, w₁, pieces, hn, hns, rfl⟩ := Step.yields_mapM_cons.1 h
    rw [List.forall_mem_cons] at hfree
    exact (Node.moves_compile htags hfree.1 hn).append (ih hfree.2 hns)

/-- However tags of loops follow each other, their code opens and closes braces as the open blocks
tell, and those that fail change nothing. In a template that compiles, the code of the loops closes
all the braces that it opens, and no others. -/
theorem loops_balance :
    (∀ (cs : List LoopCall) (d : Draft), (∀ c ∈ cs, c.BraceFree) →
      Moves (openBraces d.blocks) (LoopCall.runAll cs d).1
        (openBraces (LoopCall.runAll cs d).2.blocks)) ∧
    (∀ (c : LoopCall) (d d' : Draft) (e : CompileError), c.run d = (.error e, d') → d' = d) ∧
    ∀ (env : Environment) (s : Source) (inBlock : Bool) (p p' : Pass) (c : Compiled)
      (nodes : List Node), env.tags.OwnsBlocks → env.parse s = .ok nodes →
      (∀ n ∈ nodes, n.LoopBraceFree env) → (compileTemplate env s inBlock).Yields p c p' →
      ∃ pieces w, (nodes.mapM (Node.compile env (mergerAt env p.session.depth))).Yields
          ⟨Draft.start s inBlock, p.begin s⟩ pieces w ∧
        c = w.draft.compiled pieces ∧ Moves 0 (loopCode nodes pieces) 0 := by
  refine ⟨fun cs d h => LoopCall.moves_runAll h d, fun c d d' e h => LoopTag.fails_unchanged h, ?_⟩
  intro env s inBlock p p' c nodes htags hparse hfree h
  obtain ⟨nodes', pieces, w, hparse', hpieces, hblocks, rfl, -⟩ := yields_compileTemplate_nodes.1 h
  cases hparse.symm.trans hparse'
  have hmoves := moves_mapM htags hfree hpieces
  rw [hblocks] at hmoves
  have hstart : openBraces (Draft.start s inBlock).blocks = 0 := by
    rw [Draft.opened_start]
    rfl
  rw [hstart] at hmoves
  exact ⟨pieces, w, hpieces, rfl, hmoves⟩

/-! A loop, and a fallback of it -/

def Attributes.sampleLoop : Attributes := {
  values := .ofList [("start", .assign ⟨"'i'", "$a"⟩), ("to", .code "$b")] }

theorem Attributes.braceFree_sampleLoop : sampleLoop.BraceFree := by
  intro name v h
  have hmem := Table.mem_of_find? h
  change (name, v) ∈ [("start", AttrValue.assign ⟨"'i'", "$a"⟩), ("to", .code "$b")] at hmem
  simp only [List.mem_cons, Prod.mk.injEq, List.not_mem_nil, or_false] at hmem
  obtain ⟨-, rfl⟩ | ⟨-, rfl⟩ := hmem
  · exact ⟨⟨rfl, rfl⟩, ⟨rfl, rfl⟩⟩
  · exact ⟨rfl, rfl⟩

def LoopCall.sample : List LoopCall := [
  ⟨.start, ⟨{}, "for", 1, 0⟩, .sampleLoop⟩,
  ⟨.fallback, ⟨{}, "forelse", 2, 0⟩, .sampleLoop⟩]

def Node.sampleClosed : List Node := [.tag .sampleLoop, .text "x", .tag { name := "/for" }]

theorem loopBraceFree_sampleClosed :
    ∀ n ∈ Node.sampleClosed, n.LoopBraceFree (.ofNodes Node.sampleClosed) := by
  simp only [Node.sampleClosed, List.forall_mem_cons]
  refine ⟨?_, nofun, ?_, nofun⟩
  · intro t attrs plugins plugins' ht h
    cases ht
    obtain ⟨args, hargs, hattrs⟩ := h.resolved
    cases hargs
    rw [← Except.ok.inj hattrs]
    exact Attributes.braceFree_sampleLoop
  · intro t attrs plugins plugins' ht h
    cases ht
    have hspec : Builtin.endLoop.spec = Builtin.loop.spec := Option.some.inj h.known
    cases congrArg TagSpec.action hspec

theorem loops_balance_sample :
    Moves 0 (LoopCall.runAll LoopCall.sample (.start .sample false)).1 1 ∧
    ∃ c p' pieces, (compileTemplate (.ofNodes Node.sampleClosed) .sample false).Yields {} c p' ∧
      Moves 0 (loopCode Node.sampleClosed pieces) 0 := by
  obtain ⟨hcalls, -, hunit⟩ := loops_balance
  constructor
  · have hfree : ∀ c ∈ LoopCall.sample, c.BraceFree := by
      have hattrs : ∀ c ∈ LoopCall.sample, c.attrs = .sampleLoop := by simp [LoopCall.sample]
      intro c hc _
      rw [hattrs c hc]
      exact Attributes.braceFree_sampleLoop
    have hopen :
        openBraces (LoopCall.runAll LoopCall.sample (.start .sample false)).2.blocks = 1 := by
      decide +kernel
    have hmoves := hcalls LoopCall.sample (.start .sample false) hfree
    rw [hopen] at hmoves
    exact hmoves
  · obtain ⟨c, p', h, -⟩ : ∃ (c : Compiled) (p' : Pass),
        (compileTemplate (.ofNodes Node.sampleClosed) .sample false).Yields {} c p' ∧
        c.hasCode = true :=
      Step.exists_yields (P := Compiled.hasCode) (by decide +kernel)
    obtain ⟨pieces, w, -, -, hmoves⟩ := hunit _ _ _ _ _ _ _ Registry.ownsBlocks_builtin rfl
      loopBraceFree_sampleClosed h
    exact ⟨c, p', pieces, h, hmoves⟩

end TagTemplate
