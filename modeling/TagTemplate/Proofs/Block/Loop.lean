import TagTemplate.Proofs.Block.Nesting
import TagTemplate.Proofs.Compile.Steps

namespace TagTemplate

variable {env : Environment} {merge : Option Include.Merger} {u : TagUse} {attrs : Attributes}
  {d d' : Draft} {code : String} {e : CompileError}

namespace Loop

def endCode : BlockKind → String
  | .loop => "\x7d\n\x7d\n"
  | .fallback => "\x7d\n"

def elseCode : String := "\x7d\n\x7d else \x7b\n"

theorem run_close (u : TagUse) (expected : List BlockKind) (d : Draft) :
    (close u expected).run d =
      match d.closeBlock u.tag expected u.line with
      | .ok (b, d') => (.ok b, d')
      | .error e => (.error e, d) := by
  rw [close, Step.run_get_bind, Step.run_bind]
  cases d.closeBlock u.tag expected u.line <;> rfl

end Loop

theorem Draft.closeBlock_eq_ok {closer : String} {expected : List BlockKind} {line : Line}
    {b : Block} (h : d.closeBlock closer expected line = .ok (b, d')) :
    d.blocks = b :: d'.blocks ∧ b.kind ∈ expected := by
  unfold closeBlock at h
  split at h
  · cases h
  next b' rest hblocks =>
    split at h
    next hb =>
      cases h
      rw [Bool.and_eq_true, List.contains_iff_mem] at hb
      exact ⟨hblocks, hb.1⟩
    · cases h

def Opening.block : Opening → Block
  | ⟨.loop, line⟩ => ⟨.loop, Loop.closers, line⟩
  | ⟨.fallback, line⟩ => ⟨.fallback, Loop.fallbackClosers, line⟩

def Draft.Opened (bs : List Opening) (d : Draft) : Prop := d.blocks = bs.map Opening.block

namespace LoopTag

def builtin : LoopTag → Builtin
  | .start => .loop
  | .fallback => .fallback
  | .finish => .endLoop

def compile (u : TagUse) (attrs : Attributes) : LoopTag → Step Draft String
  | .start => Loop.openLoop u attrs
  | .fallback => Loop.openFallback u
  | .finish => Loop.closeLoop u

theorem compile_spec (tag : LoopTag) :
    tag.builtin.spec.compile env merge u attrs = Work.withDraft (tag.compile u attrs) := by
  cases tag <;> rfl

@[simp] theorem emit_spec (tag : LoopTag) (code : String) :
    tag.builtin.spec.output.emit code = code := by
  cases tag <;> rfl

def outcome (u : TagUse) (attrs : Attributes) (d : Draft) :
    LoopTag → Except CompileError (String × Draft)
  | .start => (Loop.head u attrs).map fun code =>
    (code, (d.openBlock .loop Loop.closers u.line).marked)
  | .fallback => (d.closeBlock u.tag [.loop] u.line).map fun (_, d) =>
    (Loop.elseCode, (d.openBlock .fallback Loop.fallbackClosers u.line).marked)
  | .finish => (d.closeBlock u.tag [.loop, .fallback] u.line).map fun (b, d) =>
    (Loop.endCode b.kind, d.marked)

theorem run_compile (tag : LoopTag) (d : Draft) :
    (tag.compile u attrs).run d =
      match tag.outcome u attrs d with
      | .ok (code, d') => (.ok code, d')
      | .error e => (.error e, d) := by
  cases tag with
  | start =>
    rw [compile, Loop.openLoop, Step.run_bind, outcome]
    cases Loop.head u attrs <;> rfl
  | fallback =>
    rw [compile, Loop.openFallback, Step.run_bind, Loop.run_close, outcome]
    cases d.closeBlock u.tag [.loop] u.line <;> rfl
  | finish =>
    rw [compile, Loop.closeLoop, Step.run_bind, Loop.run_close, outcome]
    cases d.closeBlock u.tag [.loop, .fallback] u.line with
    | error e => rfl
    | ok closed =>
      obtain ⟨⟨kind, closers, line⟩, d'⟩ := closed
      cases kind <;> rfl

theorem yields_compile {tag : LoopTag} :
    (tag.compile u attrs).Yields d code d' ↔ tag.outcome u attrs d = .ok (code, d') := by
  rw [Step.Yields, run_compile]
  constructor
  · intro h
    cases hout : tag.outcome u attrs d with
    | error e =>
      rw [hout] at h
      cases h
    | ok result =>
      rw [hout] at h
      cases h
      rfl
  · intro h
    rw [h]

theorem fails_compile {tag : LoopTag} :
    (tag.compile u attrs).Fails d e ↔ tag.outcome u attrs d = .error e := by
  rw [Step.Fails, run_compile]
  constructor
  · rintro ⟨d', h⟩
    cases hout : tag.outcome u attrs d with
    | error e' =>
      rw [hout] at h
      cases h
      rfl
    | ok result =>
      rw [hout] at h
      cases h
  · intro h
    rw [h]
    exact ⟨d, rfl⟩

inductive Turns (u : TagUse) (attrs : Attributes) :
    LoopTag → List Block → String → List Block → Prop
  | start {bs : List Block} {code : String} : Loop.head u attrs = .ok code →
      Turns u attrs .start bs code (⟨.loop, Loop.closers, u.line⟩ :: bs)
  | fallback {b : Block} {bs : List Block} : b.kind = .loop →
      Turns u attrs .fallback (b :: bs) Loop.elseCode
        (⟨.fallback, Loop.fallbackClosers, u.line⟩ :: bs)
  | finish {b : Block} {bs : List Block} :
      Turns u attrs .finish (b :: bs) (Loop.endCode b.kind) bs

theorem turns_of_yields {tag : LoopTag} (h : (tag.compile u attrs).Yields d code d') :
    Turns u attrs tag d.blocks code d'.blocks := by
  have hout := yields_compile.1 h
  unfold outcome at hout
  cases tag with
  | start =>
    cases hhead : Loop.head u attrs with
    | error e =>
      rw [hhead] at hout
      cases hout
    | ok head =>
      rw [hhead] at hout
      cases hout
      exact .start hhead
  | fallback =>
    cases hclose : d.closeBlock u.tag [.loop] u.line with
    | error e =>
      rw [hclose] at hout
      cases hout
    | ok closed =>
      obtain ⟨hblocks, hkind⟩ := Draft.closeBlock_eq_ok hclose
      rw [hclose] at hout
      cases hout
      rw [hblocks]
      exact .fallback (List.mem_singleton.1 hkind)
  | finish =>
    cases hclose : d.closeBlock u.tag [.loop, .fallback] u.line with
    | error e =>
      rw [hclose] at hout
      cases hout
    | ok closed =>
      obtain ⟨hblocks, -⟩ := Draft.closeBlock_eq_ok hclose
      rw [hclose] at hout
      cases hout
      rw [hblocks]
      exact .finish

theorem fails_unchanged {tag : LoopTag} (h : (tag.compile u attrs).run d = (.error e, d')) :
    d' = d := by
  rw [run_compile] at h
  cases hout : tag.outcome u attrs d with
  | ok result =>
    rw [hout] at h
    cases h
  | error e' =>
    rw [hout] at h
    cases h
    rfl

def Accepts (u : TagUse) (attrs : Attributes) : LoopTag → Prop
  | .start => ∃ code, Loop.head u attrs = .ok code
  | _ => True

theorem mirrors_turn {tag : LoopTag} {bs : List Opening} (h : tag.Accepts u attrs)
    (htag : u.tag = tag.name) (hbs : d.Opened bs) :
    (tag.compile u attrs).Mirrors d (fun bs d => d.Opened bs) (LoopMark.turn bs ⟨tag, u.line⟩) := by
  obtain ⟨source, blocks, hasCode, dependencies, plugins, inBlock⟩ := d
  obtain ⟨rules, name, line, variant⟩ := u
  cases htag
  cases hbs
  cases tag with
  | start =>
    obtain ⟨code, hcode⟩ := h
    exact .ok (yields_compile.2 (congrArg (Except.map _) hcode)) rfl
  | fallback =>
    cases bs with
    | nil => exact .error (fails_compile.2 rfl)
    | cons b bs =>
      obtain ⟨kind, line⟩ := b
      cases kind with
      | loop => exact .ok (yields_compile.2 rfl) rfl
      | fallback => exact .error (fails_compile.2 rfl)
  | finish =>
    cases bs with
    | nil => exact .error (fails_compile.2 rfl)
    | cons b bs =>
      obtain ⟨kind, line⟩ := b
      cases kind with
      | loop => exact .ok (yields_compile.2 rfl) rfl
      | fallback => exact .ok (yields_compile.2 rfl) rfl

end LoopTag

end TagTemplate
