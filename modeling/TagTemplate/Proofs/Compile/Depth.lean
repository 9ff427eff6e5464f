import TagTemplate.Proofs.Compile.Merger
import TagTemplate.Proofs.Table

namespace TagTemplate

variable {α : Type} {env : Environment} {w : Work} {merge merge' : Option Include.Merger}

namespace Event

def key? : Event → Option MergeKey
  | .merged k => some k
  | _ => none

def isUnit : Event → Bool
  | .compiled .. => true
  | _ => false

def keys (events : List Event) : List MergeKey := (events.filterMap key?).reverse

def units (events : List Event) : Nat := events.countP isUnit

@[simp] theorem keys_append (a b : List Event) : keys (a ++ b) = keys b ++ keys a := by
  simp [keys]

@[simp] theorem units_append (a b : List Event) : units (a ++ b) = units a + units b :=
  List.countP_append

theorem key?_of_isCall {event : Event} (h : event.isCall = true) : event.key? = none := by
  cases event <;> first | rfl | cases h

theorem isUnit_of_isCall {event : Event} (h : event.isCall = true) : event.isUnit = false := by
  cases event <;> first | rfl | cases h

theorem keys_eq_nil {events : List Event} (h : ∀ event ∈ events, event.key? = none) :
    keys events = [] := by
  rw [keys, List.filterMap_eq_nil_iff.2 h, List.reverse_nil]

end Event

namespace Pass

/-- What happens on the way from one pass to the next, where some more sources are compiled than
keys are recorded. -/
structure Grows (env : Environment) (extra : Nat) (p : Pass) (events : List Event) (q : Pass) :
    Prop where
  trace : q.trace = events ++ p.trace
  depth : q.session.depth = p.session.depth
  keys : q.session.records.keys = p.session.records.keys ++ Event.keys events
  nodup : (Event.keys events).Nodup
  unrecorded : ∀ k ∈ Event.keys events, k ∉ p.session.records.keys
  shallow : ∀ s depth, .compiled s depth ∈ events →
    depth ≤ max p.session.depth env.config.maxInlineDepth.toNat
  count : Event.units events + p.session.records.keys.length =
    q.session.records.keys.length + extra

namespace Grows

variable {p q r : Pass} {events events' : List Event} {m n : Nat}

theorem trans (h : p.Grows env m events q) (h' : q.Grows env n events' r) :
    p.Grows env (m + n) (events' ++ events) r where
  trace := by rw [h'.trace, h.trace, List.append_assoc]
  depth := h'.depth.trans h.depth
  keys := by rw [h'.keys, h.keys, Event.keys_append, List.append_assoc]
  nodup := by
    rw [Event.keys_append, List.nodup_append]
    refine ⟨h.nodup, h'.nodup, fun j hj k hk heq => h'.unrecorded k hk ?_⟩
    rw [h.keys, ← heq]
    exact List.mem_append_right _ hj
  unrecorded k hk := by
    rw [Event.keys_append] at hk
    rcases List.mem_append.1 hk with hk | hk
    · exact h.unrecorded k hk
    · intro hp
      apply h'.unrecorded k hk
      rw [h.keys]
      exact List.mem_append_left _ hp
  shallow s depth hmem := by
    rcases List.mem_append.1 hmem with hmem | hmem
    · rw [← h.depth]
      exact h'.shallow s depth hmem
    · exact h.shallow s depth hmem
  count := by
    have hp := h.count
    have hq := h'.count
    rw [Event.units_append]
    omega

theorem of_idle (htrace : q.trace = events ++ p.trace)
    (hdepth : q.session.depth = p.session.depth)
    (hkeys : q.session.records.keys = p.session.records.keys)
    (hevents : ∀ event ∈ events, event.key? = none ∧ event.isUnit = false) :
    p.Grows env 0 events q where
  trace := htrace
  depth := hdepth
  keys := by rw [hkeys, Event.keys_eq_nil fun event h => (hevents event h).1, List.append_nil]
  nodup := by rw [Event.keys_eq_nil fun event h => (hevents event h).1]; exact List.nodup_nil
  unrecorded k hk := by simp [Event.keys_eq_nil fun event h => (hevents event h).1] at hk
  shallow s depth hmem := by cases (hevents _ hmem).2
  count := by
    have hunits : Event.units events = 0 :=
      List.countP_eq_zero.2 fun event h => by simp [(hevents event h).2]
    rw [hunits, hkeys, Nat.zero_add, Nat.add_zero]

end Grows

theorem Quiet.grows (env : Environment) {p q : Pass} (h : p.Quiet q) :
    ∃ events, p.Grows env 0 events q := by
  obtain ⟨calls, htrace, hcalls⟩ := h.trace
  have hsession := h.session
  refine ⟨calls, .of_idle htrace (by rw [hsession]) (by rw [hsession]) fun event hevent => ?_⟩
  exact ⟨Event.key?_of_isCall (hcalls event hevent), Event.isUnit_of_isCall (hcalls event hevent)⟩

theorem grows_begin (env : Environment) (p : Pass) (s : Source) :
    p.Grows env 1 [.compiled s p.session.depth] (p.begin s) where
  trace := rfl
  depth := rfl
  keys := (List.append_nil _).symm
  nodup := List.nodup_nil
  unrecorded := nofun
  shallow s' depth hmem := by
    cases List.mem_singleton.1 hmem
    exact Nat.le_max_left _ _
  count := Nat.add_comm _ _

end Pass

/-! One template that is merged -/

namespace Include

theorem run_compileTarget (merger : Merger) (k : MergeKey) (s : Source) (inBlock : Bool)
    (p : Pass) :
    (compileTarget merger k s inBlock).run p =
      let outcome := (merger s inBlock).run
        { p.note (.merged k) with session := (p.session.reserve k).enter }
      (outcome.1, { outcome.2 with session := outcome.2.session.leave }) :=
  rfl

def Usable (env : Environment) (depth : Nat) (merge : Option Merger) : Prop :=
  ∀ merger ∈ merge, depth < env.config.maxInlineDepth.toNat ∧
    ∀ s inBlock (p : Pass), p.session.depth = depth + 1 →
      ∃ events, p.Grows env 1 events ((merger s inBlock).run p).2

theorem keys_reserve {p : Pass} {k : MergeKey} (hnew : p.session.function? k = none) :
    (p.session.reserve k).records.keys = p.session.records.keys ++ [k] := by
  have hk : k ∉ p.session.records.keys := Table.find?_eq_none.1 (Option.map_eq_none_iff.1 hnew)
  exact (Table.keys_insertNew _ _ _).trans (if_neg hk)

theorem grows_compileTarget {merger : Merger} {k : MergeKey} (s : Source) (inBlock : Bool)
    {p : Pass} (hm : Usable env p.session.depth (some merger))
    (hnew : p.session.function? k = none) :
    ∃ events, p.Grows env 0 events ((compileTarget merger k s inBlock).run p).2 := by
  obtain ⟨hlimit, hmerger⟩ := hm merger rfl
  obtain ⟨events, h⟩ := hmerger s inBlock
    { p.note (.merged k) with session := (p.session.reserve k).enter } rfl
  have hkeys := keys_reserve hnew
  rw [run_compileTarget]
  generalize (merger s inBlock).run _ = outcome at h ⊢
  exact ⟨events ++ [.merged k], {
    trace := by
      rw [List.append_assoc]
      exact h.trace
    depth := by
      have hdepth := h.depth
      change _ = p.session.depth + 1 at hdepth
      change outcome.2.session.depth - 1 = p.session.depth
      omega
    keys := by
      rw [Event.keys_append, ← List.append_assoc]
      exact h.keys.trans (congrArg (· ++ Event.keys events) hkeys)
    nodup := by
      rw [Event.keys_append]
      -- what is merged deeper has no record yet, but `k` has one there
      refine List.nodup_cons.2 ⟨fun hk => h.unrecorded k hk ?_, h.nodup⟩
      exact hkeys ▸ List.mem_append_right _ List.mem_cons_self
    unrecorded := by
      intro j hj hp
      rw [Event.keys_append] at hj
      rcases List.mem_cons.1 hj with rfl | hj
      · exact Table.find?_eq_none.1 (Option.map_eq_none_iff.1 hnew) hp
      · exact h.unrecorded j hj (hkeys ▸ List.mem_append_left _ hp)
    shallow := by
      intro s' depth hmem
      have hmem : .compiled s' depth ∈ events := by simpa using hmem
      have hdepth := h.shallow s' depth hmem
      change depth ≤ max (p.session.depth + 1) _ at hdepth
      omega
    count := by
      have hcount := h.count
      have hlength := congrArg List.length hkeys
      rw [List.length_append, List.length_singleton] at hlength
      change _ + (p.session.reserve k).records.keys.length = _ at hcount
      rw [Event.units_append]
      change Event.units events + 0 + _ = outcome.2.session.records.keys.length + 0
      omega }⟩

theorem grows_recorded (env : Environment) (k : MergeKey) (s : Source)
    (outcome : Except CompileError Compiled × Pass) :
    ∃ events, outcome.2.Grows env 0 events (recorded k s outcome) := by
  obtain ⟨r, p⟩ := outcome
  cases r with
  | ok c =>
    refine ⟨[.completed k s c], .of_idle rfl rfl (Table.keys_modify _ _ _) ?_⟩
    simp [Event.key?, Event.isUnit]
  | error e => exact (Pass.Quiet.refl p).grows env

theorem Asks.grows {x : Option Merger → Step Work α} (h : Asks env x w)
    (hm : Usable env w.pass.session.depth merge) :
    ∃ events, w.pass.Grows env 0 events ((x merge).run w).2.pass := by
  cases h with
  | never outcome hall hquiet =>
    rw [hall]
    exact hquiet.grows env
  | once k s inBlock p e w₀ finish _ hp hnew hnone hw₀ hsome hfinish _ =>
    cases merge with
    | none =>
      rw [hnone]
      exact hw₀.grows env
    | some merger =>
      rw [← hp.session] at hm hnew
      obtain ⟨_, hbefore⟩ := hp.grows env
      obtain ⟨_, hmerged⟩ := grows_compileTarget s inBlock hm hnew
      obtain ⟨_, hrecorded⟩ := grows_recorded env k s
        ((compileTarget merger k s inBlock).run p)
      obtain ⟨_, hafter⟩ := (hfinish ((compileTarget merger k s inBlock).run p)).grows env
      rw [hsome]
      exact ⟨_, ((hbefore.trans hmerged).trans hrecorded).trans hafter⟩

def Same (depth : Nat) : Option Merger → Option Merger → Prop :=
  Option.Rel fun m m' => ∀ s inBlock (p : Pass), p.session.depth = depth + 1 →
    (m s inBlock).run p = (m' s inBlock).run p

theorem Asks.congr {x : Option Merger → Step Work α} (h : Asks env x w)
    (hm : Same w.pass.session.depth merge merge') : (x merge).run w = (x merge').run w := by
  cases h with
  | never outcome hall hquiet => rw [hall, hall]
  | once k s inBlock p e w₀ finish _ hp hnew hnone hw₀ hsome hfinish _ =>
    cases hm with
    | none => rfl
    | some hm =>
      rw [hsome, hsome, run_compileTarget, run_compileTarget, hm]
      change p.session.depth + 1 = _
      rw [hp.session]

end Include

open Include

/-! Templates -/

theorem grows_mapM (nodes : List Node) (hm : Usable env w.pass.session.depth merge) :
    ∃ events, w.pass.Grows env 0 events
      ((nodes.mapM (Node.compile env merge)).run w).2.pass := by
  induction nodes generalizing w with
  | nil =>
    rw [List.mapM_nil]
    exact (Pass.Quiet.refl w.pass).grows env
  | cons n ns ih =>
    obtain ⟨_, hn⟩ := (n.asks_compile w).grows hm
    rw [Step.run_mapM_cons]
    rcases h : ((n.compile env merge).run w : Except CompileError Piece × Work) with ⟨r, w₁⟩
    rw [h] at hn
    cases r with
    | error e => exact ⟨_, hn⟩
    | ok piece =>
      rw [← hn.depth] at hm
      obtain ⟨_, hns⟩ := ih hm
      exact ⟨_, hn.trans hns⟩

theorem mapM_congr (nodes : List Node) (hm : Usable env w.pass.session.depth merge)
    (hsame : Same w.pass.session.depth merge merge') :
    (nodes.mapM (Node.compile env merge)).run w =
      (nodes.mapM (Node.compile env merge')).run w := by
  induction nodes generalizing w with
  | nil => rw [List.mapM_nil, List.mapM_nil]
  | cons n ns ih =>
    obtain ⟨_, hn⟩ := (n.asks_compile w).grows hm
    rw [Step.run_mapM_cons, Step.run_mapM_cons, ← (n.asks_compile w).congr hsame]
    rcases h : ((n.compile env merge).run w : Except CompileError Piece × Work) with ⟨r, w₁⟩
    rw [h] at hn
    cases r with
    | error e => rfl
    | ok piece =>
      rw [← hn.depth] at hm hsame
      simp only [ih hm hsame]

theorem grows_compileSource (s : Source) (inBlock : Bool) {p : Pass}
    (hm : Usable env p.session.depth merge) :
    ∃ events, p.Grows env 1 events ((compileSource env merge s inBlock).run p).2 := by
  have hbegin := p.grows_begin env s
  rw [run_compileSource]
  cases env.parse s with
  | error e => exact ⟨_, hbegin⟩
  | ok nodes =>
    obtain ⟨_, hnodes⟩ := grows_mapM (w := ⟨Draft.start s inBlock, p.begin s⟩) nodes hm
    simp only [run_compileNodes]
    generalize (nodes.mapM (Node.compile env merge)).run _ = outcome at hnodes ⊢
    obtain ⟨r, w'⟩ := outcome
    cases r with
    | ok pieces => exact ⟨_, hbegin.trans hnodes⟩
    | error e => exact ⟨_, hbegin.trans hnodes⟩

theorem compileSource_congr (s : Source) (inBlock : Bool) {p : Pass}
    (hm : Usable env p.session.depth merge) (hsame : Same p.session.depth merge merge') :
    (compileSource env merge s inBlock).run p = (compileSource env merge' s inBlock).run p := by
  rw [run_compileSource, run_compileSource]
  cases env.parse s with
  | error e => rfl
  | ok nodes =>
    have hnodes := mapM_congr (w := ⟨Draft.start s inBlock, p.begin s⟩) nodes hm hsame
    simp only [run_compileNodes, hnodes]

/-! The mergers of a compilation -/

theorem usable_mergerAt (env : Environment) (depth : Nat) :
    Usable env depth (mergerAt env depth) := by
  induction h : levelsLeft env depth generalizing depth with
  | zero =>
    rw [mergerAt, h]
    nofun
  | succ n ih =>
    obtain ⟨-, hnone⟩ | ⟨hlimit, merger, hsome, hrun⟩ := mergerAt_cases env depth
    · rw [hnone]
      nofun
    · rw [hsome]
      rintro _ ⟨rfl⟩
      refine ⟨hlimit, fun s inBlock p hp => ?_⟩
      have hn : levelsLeft env (depth + 1) = n := by
        unfold levelsLeft at h ⊢
        omega
      rw [hrun s inBlock p hp, run_compileTemplate, hp]
      exact grows_compileSource s inBlock (hp ▸ ih (depth + 1) hn)

theorem grows_compileTemplate (s : Source) (inBlock : Bool) (p : Pass) :
    ∃ events, p.Grows env 1 events ((compileTemplate env s inBlock).run p).2 := by
  rw [run_compileTemplate]
  exact grows_compileSource s inBlock (usable_mergerAt env p.session.depth)

theorem nodup_keys_compileTemplate (env : Environment) (s : Source) (inBlock : Bool)
    (trust : TrustIndex) :
    ((compileTemplate env s inBlock).run { trust }).2.session.records.keys.Nodup := by
  obtain ⟨events, hgrows⟩ := @grows_compileTemplate env s inBlock { trust }
  rw [hgrows.keys]
  exact hgrows.nodup

/-! The recursion -/

def compileVia (env : Environment) (deeper : Merger) : Merger := fun s inBlock => do
  let depth := (← get).session.depth
  let merge := if depth < env.config.maxInlineDepth.toNat then some deeper else none
  compileSource env merge s inBlock

/-- Compile a source by a number of levels of recursion, and by something else below them. -/
def compileCut (env : Environment) (bottom : Merger) : Nat → Merger
  | 0 => bottom
  | n + 1 => compileVia env (compileCut env bottom n)

theorem run_compileVia {deeper : Merger} (s : Source) (inBlock : Bool) {p : Pass}
    (h : p.session.depth < env.config.maxInlineDepth.toNat → ∀ s inBlock (q : Pass),
      q.session.depth = p.session.depth + 1 →
      (deeper s inBlock).run q = (compileTemplate env s inBlock).run q) :
    (compileVia env deeper s inBlock).run p = (compileTemplate env s inBlock).run p := by
  rw [run_compileTemplate, compileVia, Step.run_get_bind]
  refine (compileSource_congr s inBlock (usable_mergerAt env p.session.depth) ?_).symm
  obtain ⟨hlimit, hnone⟩ | ⟨hlimit, merger, hsome, hrun⟩ := mergerAt_cases env p.session.depth
  · rw [hnone, if_neg (Nat.not_lt.2 hlimit)]
    exact .none
  · rw [hsome, if_pos hlimit]
    refine .some fun s inBlock q hq => ?_
    rw [hrun s inBlock q hq, h hlimit s inBlock q hq]

theorem run_compileCut (bottom : Merger) {n : Nat} (s : Source) (inBlock : Bool) {p : Pass}
    (h : levelsLeft env p.session.depth < n) :
    (compileCut env bottom n s inBlock).run p = (compileTemplate env s inBlock).run p := by
  induction n generalizing s inBlock p with
  | zero => cases h
  | succ n ih =>
    refine run_compileVia s inBlock fun hlimit s inBlock q hq => ih s inBlock ?_
    unfold levelsLeft at h ⊢
    omega

/-- A session in use: templates and includes are compiled in any order, and some of them fail. -/
inductive Pass.History (env : Environment) (p : Pass) : Pass → Prop
  | start : History env p p
  | template {q} (s : Source) (inBlock : Bool) : History env p q →
      History env p ((compileTemplate env s inBlock).run q).2
  | include {q} (u : TagUse) (attrs : Attributes) (draft : Draft) : History env p q →
      History env p
        ((Include.compile env (mergerAt env q.session.depth) u attrs).run ⟨draft, q⟩).2.pass

theorem grows_include (u : TagUse) (attrs : Attributes) (w : Work) :
    ∃ events, w.pass.Grows env 0 events
      ((Include.compile env (mergerAt env w.pass.session.depth) u attrs).run w).2.pass :=
  (Include.asks_compile u attrs w).grows (usable_mergerAt env w.pass.session.depth)

theorem Pass.History.grows {p q : Pass} (h : History env p q) :
    ∃ extra events, p.Grows env extra events q := by
  induction h with
  | start => exact ⟨0, (Pass.Quiet.refl p).grows env⟩
  | template s inBlock _ ih =>
    obtain ⟨_, _, hp⟩ := ih
    obtain ⟨_, hq⟩ := grows_compileTemplate s inBlock _
    exact ⟨_, _, hp.trans hq⟩
  | «include» u attrs draft _ ih =>
    obtain ⟨_, _, hp⟩ := ih
    obtain ⟨_, hq⟩ := grows_include u attrs ⟨draft, _⟩
    exact ⟨_, _, hp.trans hq⟩

/-- Compiling a template obeys the recursion by which each level merges the next, and the recursion
ends: cut off below the levels that are left, it gives the same, whatever stands below the cut. A
compilation restores the depth, records each key that it merges for the first time in the session,
and compiles one source for each of them and its own; an include does so without one of its own. -/
theorem compileTemplate_bounded (env : Environment) (s : Source) (inBlock : Bool) (p : Pass) :
    (compileTemplate env s inBlock).run p =
      (compileVia env (compileTemplate env) s inBlock).run p ∧
    (∀ bottom more, (compileTemplate env s inBlock).run p =
      (compileCut env bottom (levelsLeft env p.session.depth + 1 + more) s inBlock).run p) ∧
    (∃ events, p.Grows env 1 events ((compileTemplate env s inBlock).run p).2) ∧
    (∀ u attrs draft, ∃ events, p.Grows env 0 events
      ((Include.compile env (mergerAt env p.session.depth) u attrs).run ⟨draft, p⟩).2.pass) ∧
    ∀ q, p.History env q → ∃ extra events, p.Grows env extra events q := by
  refine ⟨(run_compileVia s inBlock fun _ _ _ _ _ => rfl).symm, fun bottom more => ?_,
    grows_compileTemplate s inBlock p, fun u attrs draft => grows_include u attrs ⟨draft, p⟩,
    fun q hq => hq.grows⟩
  exact (run_compileCut bottom s inBlock (by omega)).symm

end TagTemplate
