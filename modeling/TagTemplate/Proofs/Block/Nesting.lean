import Mathlib.Data.List.Induction
import TagTemplate.Error

/-!
The grammar of loops. The tags of a template nest if every loop is ended, after at most one
fallback. A stack of open blocks decides whether they do: it finds the first tag that is out of
place, or else the innermost block that is left open.
-/

namespace TagTemplate

inductive LoopTag where
  | start
  | fallback
  | finish
  deriving DecidableEq

def LoopTag.name : LoopTag → String
  | .start => "for"
  | .fallback => "forelse"
  | .finish => "forclose"

structure LoopMark where
  tag : LoopTag
  line : Line

structure Opening where
  kind : BlockKind
  line : Line

def LoopMark.misplaced (m : LoopMark) (cause : NestingError) : CompileError :=
  .located (.nesting m.tag.name cause) m.line

def Opening.unclosed (b : Opening) : CompileError :=
  .located (.nesting b.kind.tag .unclosed) b.line

inductive Nested : List LoopMark → Prop
  | empty : Nested []
  | loop {u v : List LoopMark} {i j : Line} : Nested u → Nested v →
      Nested (⟨.start, i⟩ :: u ++ ⟨.finish, j⟩ :: v)
  | withFallback {u v w : List LoopMark} {i j k : Line} : Nested u → Nested v → Nested w →
      Nested (⟨.start, i⟩ :: u ++ ⟨.fallback, j⟩ :: v ++ ⟨.finish, k⟩ :: w)

/-- The blocks that a sequence of tags opens without closing them, the innermost first. -/
inductive LeavesOpen : List LoopMark → List Opening → Prop
  | none {u : List LoopMark} : Nested u → LeavesOpen u []
  | loop {ms u : List LoopMark} {bs : List Opening} {i : Line} : LeavesOpen ms bs → Nested u →
      LeavesOpen (ms ++ ⟨.start, i⟩ :: u) (⟨.loop, i⟩ :: bs)
  | fallback {ms u v : List LoopMark} {bs : List Opening} {i j : Line} : LeavesOpen ms bs →
      Nested u → Nested v →
      LeavesOpen (ms ++ ⟨.start, i⟩ :: u ++ ⟨.fallback, j⟩ :: v) (⟨.fallback, j⟩ :: bs)

/-- Why a sequence of tags does not nest: its first tag that continues or ends a loop while none is
open, its first fallback of a loop that has one already, or else the innermost block left open. -/
inductive Misnested : List LoopMark → CompileError → Prop
  | notOpen {u after : List LoopMark} {m : LoopMark} : Nested u → m.tag ≠ .start →
      Misnested (u ++ m :: after) (m.misplaced .notOpen)
  | mismatched {before after : List LoopMark} {bs : List Opening} {i j : Line} :
      LeavesOpen before (⟨.fallback, i⟩ :: bs) →
      Misnested (before ++ ⟨.fallback, j⟩ :: after)
        (LoopMark.misplaced ⟨.fallback, j⟩ (.mismatched .fallback))
  | unclosed {ms : List LoopMark} {b : Opening} {bs : List Opening} : LeavesOpen ms (b :: bs) →
      Misnested ms b.unclosed

theorem Nested.append {u v : List LoopMark} (hu : Nested u) (hv : Nested v) : Nested (u ++ v) := by
  induction hu with
  | empty => exact hv
  | loop h₁ _ _ ih =>
    rw [List.append_assoc, List.cons_append]
    exact .loop h₁ ih
  | withFallback h₁ h₂ _ _ _ ih =>
    rw [List.append_assoc, List.cons_append]
    exact .withFallback h₁ h₂ ih

theorem LeavesOpen.append {ms u : List LoopMark} {bs : List Opening} (h : LeavesOpen ms bs)
    (hu : Nested u) : LeavesOpen (ms ++ u) bs := by
  cases h with
  | none hv => exact .none (hv.append hu)
  | loop h hv =>
    rw [List.append_assoc, List.cons_append]
    exact .loop h (hv.append hu)
  | fallback h hv hw =>
    rw [List.append_assoc, List.cons_append]
    exact .fallback h hv (hw.append hu)

theorem leavesOpen_nil {ms : List LoopMark} : LeavesOpen ms [] ↔ Nested ms := by
  constructor
  · intro h
    cases h with
    | none h => exact h
  · exact .none

def LoopMark.turn (bs : List Opening) (m : LoopMark) : Except CompileError (List Opening) :=
  match m.tag, bs with
  | .start, bs => .ok (⟨.loop, m.line⟩ :: bs)
  | .fallback, [] | .finish, [] => .error (m.misplaced .notOpen)
  | .fallback, ⟨.loop, _⟩ :: bs => .ok (⟨.fallback, m.line⟩ :: bs)
  | .fallback, ⟨.fallback, _⟩ :: _ => .error (m.misplaced (.mismatched .fallback))
  | .finish, _ :: bs => .ok bs

def LoopMark.turns (bs : List Opening) (ms : List LoopMark) : Except CompileError (List Opening) :=
  ms.foldlM turn bs

def Opening.checkNone : List Opening → Except CompileError Unit
  | [] => .ok ()
  | b :: _ => .error b.unclosed

namespace LoopMark

variable {ms ms' : List LoopMark} {m : LoopMark} {bs bs' : List Opening} {e : CompileError}

@[simp] theorem turns_nil : turns bs [] = .ok bs := rfl

@[simp] theorem turns_cons : turns bs (m :: ms) = (turn bs m).bind fun bs' => turns bs' ms :=
  List.foldlM_cons

@[simp] theorem turns_singleton : turns bs [m] = turn bs m := by
  rw [turns_cons]
  cases turn bs m <;> rfl

@[simp] theorem turns_append :
    turns bs (ms ++ ms') = (turns bs ms).bind fun bs' => turns bs' ms' :=
  List.foldlM_append

theorem turns_of_nested (h : Nested ms) (bs : List Opening) : turns bs ms = .ok bs := by
  induction h generalizing bs with
  | empty => rfl
  | loop _ _ ih₁ ih₂ => simp [turn, Except.bind, ih₁, ih₂]
  | withFallback _ _ _ ih₁ ih₂ ih₃ => simp [turn, Except.bind, ih₁, ih₂, ih₃]

theorem turns_of_leavesOpen (h : LeavesOpen ms bs) : turns [] ms = .ok bs := by
  induction h with
  | none h => exact turns_of_nested h []
  | loop _ h ih => simp [turn, Except.bind, ih, turns_of_nested h]
  | fallback _ h h' ih => simp [turn, Except.bind, ih, turns_of_nested h, turns_of_nested h']

theorem leavesOpen_of_turn (h : LeavesOpen ms bs) (ht : turn bs m = .ok bs') :
    LeavesOpen (ms ++ [m]) bs' := by
  obtain ⟨tag, line⟩ := m
  cases tag with
  | start =>
    cases ht
    exact .loop h .empty
  | fallback =>
    cases h with
    | none => cases ht
    | loop h hu =>
      cases ht
      exact .fallback h hu .empty
    | fallback => cases ht
  | finish =>
    -- the block that the tag ends becomes part of what nests after the outer blocks
    cases h with
    | none => cases ht
    | loop h hu =>
      cases ht
      rw [List.append_assoc]
      exact h.append (.loop hu .empty)
    | fallback h hu hv =>
      cases ht
      rw [List.append_assoc, List.append_assoc, ← List.append_assoc (_ :: _)]
      exact h.append (.withFallback hu hv .empty)

theorem turns_eq_ok : turns [] ms = .ok bs ↔ LeavesOpen ms bs := by
  refine ⟨fun h => ?_, turns_of_leavesOpen⟩
  induction ms using List.reverseRecOn generalizing bs with
  | nil =>
    cases h
    exact .none .empty
  | append_singleton ms m ih =>
    rw [turns_append] at h
    cases hms : turns [] ms with
    | error e => simp [hms, Except.bind] at h
    | ok bs₁ =>
      rw [hms] at h
      cases hm : turn bs₁ m with
      | error e => simp [hm, Except.bind] at h
      | ok bs₂ =>
        simp only [turns_cons, hm, Except.bind, turns_nil, Except.ok.injEq] at h
        exact leavesOpen_of_turn (ih hms) (hm.trans (congrArg _ h))

theorem turns_of_turn_eq_error (h : LeavesOpen ms bs) (hm : turn bs m = .error e)
    (after : List LoopMark) : turns [] (ms ++ m :: after) = .error e := by
  simp [turns_of_leavesOpen h, hm, Except.bind]

theorem exists_turn_eq_error (h : turns [] ms = .error e) :
    ∃ before m after bs, ms = before ++ m :: after ∧ LeavesOpen before bs ∧
      turn bs m = .error e := by
  induction ms using List.reverseRecOn with
  | nil => cases h
  | append_singleton ms m ih =>
    rw [turns_append] at h
    cases hms : turns [] ms with
    | error e' =>
      simp only [hms, Except.bind, Except.error.injEq] at h
      obtain ⟨before, m', after, bs, rfl, hbefore, hm'⟩ := ih (hms.trans (congrArg _ h))
      exact ⟨before, m', after ++ [m], bs, by simp, hbefore, hm'⟩
    | ok bs =>
      refine ⟨ms, m, [], bs, rfl, turns_eq_ok.1 hms, ?_⟩
      cases hm : turn bs m with
      | error e' => simpa [hms, hm, Except.bind] using h
      | ok bs' => simp [hms, hm, Except.bind] at h

theorem turn_nil (h : m.tag ≠ .start) : turn [] m = .error (m.misplaced .notOpen) := by
  obtain ⟨tag, line⟩ := m
  cases tag with
  | start => exact absurd rfl h
  | fallback => rfl
  | finish => rfl

theorem misnested_of_turn {before after : List LoopMark} (h : LeavesOpen before bs)
    (hm : turn bs m = .error e) : Misnested (before ++ m :: after) e := by
  obtain ⟨tag, line⟩ := m
  cases tag with
  | start => cases hm
  | fallback =>
    cases h with
    | none hu =>
      cases hm
      exact .notOpen hu nofun
    | loop => cases hm
    | fallback h hu hv =>
      cases hm
      exact .mismatched (.fallback h hu hv)
  | finish =>
    cases h with
    | none hu =>
      cases hm
      exact .notOpen hu nofun
    | loop => cases hm
    | fallback => cases hm

end LoopMark

def checkNesting (ms : List LoopMark) : Except CompileError Unit :=
  (LoopMark.turns [] ms).bind Opening.checkNone

theorem checkNesting_eq_ok {ms : List LoopMark} : checkNesting ms = .ok () ↔ Nested ms := by
  rw [← leavesOpen_nil, ← LoopMark.turns_eq_ok, checkNesting]
  cases h : LoopMark.turns [] ms with
  | error e => simp [Except.bind]
  | ok bs => cases bs <;> simp [Except.bind, Opening.checkNone]

theorem checkNesting_eq_error {ms : List LoopMark} {e : CompileError} :
    checkNesting ms = .error e ↔ Misnested ms e := by
  rw [checkNesting]
  constructor
  · intro h
    cases hms : LoopMark.turns [] ms with
    | error e' =>
      simp only [hms, Except.bind, Except.error.injEq] at h
      obtain ⟨before, m, after, bs, rfl, hbefore, hm⟩ := LoopMark.exists_turn_eq_error hms
      exact h ▸ LoopMark.misnested_of_turn hbefore hm
    | ok bs =>
      cases bs with
      | nil => simp [hms, Except.bind, Opening.checkNone] at h
      | cons b bs =>
        simp only [hms, Except.bind, Opening.checkNone, Except.error.injEq] at h
        exact h ▸ .unclosed (LoopMark.turns_eq_ok.1 hms)
  · intro h
    cases h with
    | notOpen hu htag =>
      rw [LoopMark.turns_of_turn_eq_error (.none hu) (LoopMark.turn_nil htag)]
      rfl
    | mismatched hbefore =>
      rw [LoopMark.turns_of_turn_eq_error hbefore rfl]
      rfl
    | unclosed hms =>
      rw [LoopMark.turns_of_leavesOpen hms]
      rfl

end TagTemplate
