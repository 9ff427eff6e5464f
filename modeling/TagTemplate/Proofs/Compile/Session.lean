import Mathlib.Data.List.Infix
import Mathlib.Data.List.TakeWhile
import TagTemplate.Compile.Session
import TagTemplate.Proofs.Table

namespace TagTemplate

namespace Session

inductive Act where
  | reserve (k : MergeKey)
  | complete (k : MergeKey) (body : String)
  | enter
  | leave
  deriving Repr, DecidableEq

def Act.apply (s : Session) : Act → Session
  | .reserve k => s.reserve k
  | .complete k body => s.complete k body
  | .enter => s.enter
  | .leave => s.leave

def after (acts : List Act) : Session := acts.foldl Act.apply {}

def Act.reserved? : Act → Option MergeKey
  | .reserve k => some k
  | _ => none

def Act.body? (k : MergeKey) : Act → Option String
  | .complete j body => if j = k then some body else none
  | _ => none

def reserved (acts : List Act) : List MergeKey := (acts.filterMap Act.reserved?).eraseDups

def lastBody (acts : List Act) (k : MergeKey) : String :=
  (((acts.dropWhile (· ≠ .reserve k)).filterMap (Act.body? k)).getLast?).getD ""

def Balanced (acts : List Act) : Prop :=
  acts.count .leave = acts.count .enter ∧
  ∀ stretch ∈ acts.inits, stretch.count .leave ≤ stretch.count .enter

instance : DecidablePred Balanced := fun _ => inferInstanceAs (Decidable (_ ∧ _))

/-- An enter stands when no later leave cancels it. A leave cancels the latest enter that stands, so
what lies between an enter and the leave that cancels it is balanced. -/
def Stands : List Act → Prop
  | .enter :: later => ∀ between ∈ later.inits, Balanced between → ¬ between ++ [.leave] <+: later
  | _ => False

instance : DecidablePred Stands
  | .enter :: later => inferInstanceAs
      (Decidable (∀ between ∈ later.inits, Balanced between → ¬ between ++ [.leave] <+: later))
  | [] | .reserve _ :: _ | .complete _ _ :: _ | .leave :: _ => .isFalse id

def standing (acts : List Act) : Nat := acts.tails.countP (Stands ·)

variable {acts : List Act} {k : MergeKey}

theorem after_concat (acts : List Act) (act : Act) :
    after (acts ++ [act]) = act.apply (after acts) := by
  rw [after, List.foldl_append]
  rfl

/-! Keys -/

theorem mem_reserved : k ∈ reserved acts ↔ .reserve k ∈ acts := by
  rw [reserved, List.mem_eraseDups, List.mem_filterMap]
  constructor
  · rintro ⟨act, hact, h⟩
    cases act <;> cases h
    exact hact
  · intro h
    exact ⟨_, h, rfl⟩

theorem reserved_concat {act : Act} (h : act.reserved? = none) :
    reserved (acts ++ [act]) = reserved acts := by
  rw [reserved, List.filterMap_append, List.filterMap_cons_none h, List.filterMap_nil,
    List.append_nil, reserved]

theorem reserved_concat_reserve (acts : List Act) (k : MergeKey) :
    reserved (acts ++ [.reserve k]) =
      if k ∈ reserved acts then reserved acts else reserved acts ++ [k] := by
  have hlast : ([Act.reserve k].filterMap Act.reserved?) = [k] := rfl
  rw [reserved, List.filterMap_append, hlast, List.eraseDups_append, ← reserved, List.removeAll,
    List.filter_singleton]
  have hmem : k ∈ acts.filterMap Act.reserved? ↔ k ∈ reserved acts := List.mem_eraseDups.symm
  by_cases hk : k ∈ reserved acts
  · simp [hmem.2 hk, hk]
  · simp [mt hmem.1 hk, hk, List.eraseDups_cons]

theorem pairwise_reserved (acts : List Act) :
    (reserved acts).Pairwise fun j k => acts.idxOf (.reserve j) < acts.idxOf (.reserve k) := by
  induction acts using List.reverseRecOn with
  | nil => exact List.Pairwise.nil
  | append_singleton acts act ih =>
    have hkept : (reserved acts).Pairwise fun j k =>
        (acts ++ [act]).idxOf (.reserve j) < (acts ++ [act]).idxOf (.reserve k) := by
      refine ih.imp_of_mem fun hj hk h => ?_
      rwa [List.idxOf_append_of_mem (mem_reserved.1 hj),
        List.idxOf_append_of_mem (mem_reserved.1 hk)]
    cases act with
    | reserve k =>
      rw [reserved_concat_reserve]
      split
      next => exact hkept
      next hk =>
        have hlast : (acts ++ [Act.reserve k]).idxOf (.reserve k) = acts.length := by
          rw [List.idxOf_append_of_notMem (mt mem_reserved.2 hk), List.idxOf_cons_self,
            Nat.add_zero]
        refine List.pairwise_append.2 ⟨hkept, List.pairwise_singleton _ _, fun j hj k' hk' => ?_⟩
        rw [List.mem_singleton.1 hk', List.idxOf_append_of_mem (mem_reserved.1 hj), hlast]
        exact List.idxOf_lt_length_iff.2 (mem_reserved.1 hj)
    | complete | enter | leave =>
      rw [reserved_concat rfl]
      exact hkept

theorem keys_after (acts : List Act) : (after acts).records.keys = reserved acts := by
  induction acts using List.reverseRecOn with
  | nil => rfl
  | append_singleton acts act ih =>
    rw [after_concat]
    cases act with
    | reserve k =>
      rw [reserved_concat_reserve, ← ih]
      exact Table.keys_insertNew _ k _
    | complete k body =>
      rw [reserved_concat rfl, ← ih]
      exact Table.keys_modify _ k _
    | enter | leave =>
      rw [reserved_concat rfl]
      exact ih

theorem nodup_reserved (acts : List Act) : (reserved acts).Nodup := by
  refine (pairwise_reserved acts).imp fun h heq => ?_
  rw [heq] at h
  exact lt_irrefl _ h

/-! Bodies -/

theorem lastBody_concat (h : .reserve k ∈ acts) (act : Act) :
    lastBody (acts ++ [act]) k = (act.body? k).getD (lastBody acts k) := by
  have hdrop : (acts ++ [act]).dropWhile (· ≠ .reserve k) =
      acts.dropWhile (· ≠ .reserve k) ++ [act] := by
    rw [List.dropWhile_append, if_neg]
    rw [List.isEmpty_iff, List.dropWhile_eq_nil_iff]
    exact fun hall => by simpa using hall _ h
  rw [lastBody, hdrop, List.filterMap_append, List.getLast?_append]
  cases hbody : act.body? k with
  | none =>
    rw [List.filterMap_cons_none hbody]
    rfl
  | some body =>
    rw [List.filterMap_cons_some hbody]
    rfl

theorem lastBody_reserve (h : .reserve k ∉ acts) : lastBody (acts ++ [.reserve k]) k = "" := by
  have hdrop : (acts ++ [Act.reserve k]).dropWhile (· ≠ .reserve k) = [Act.reserve k] := by
    rw [List.dropWhile_append_of_pos]
    · simp
    · intro act hact
      simpa using fun heq : act = .reserve k => h (heq ▸ hact)
  rw [lastBody, hdrop]
  rfl

def recordOf (acts : List Act) (k : MergeKey) : Merged :=
  { function := k.function, template := k.template, body := lastBody acts k }

theorem find?_after_eq_none (h : .reserve k ∉ acts) : (after acts).records.find? k = none := by
  rw [Table.find?_eq_none, keys_after, mem_reserved]
  exact h

theorem find?_after (h : .reserve k ∈ acts) :
    (after acts).records.find? k = some (recordOf acts k) := by
  induction acts using List.reverseRecOn with
  | nil => cases h
  | append_singleton acts act ih =>
    rw [after_concat]
    by_cases hk : .reserve k ∈ acts
    · have hfind := ih hk
      rw [recordOf, lastBody_concat hk]
      cases act with
      | reserve j =>
        rw [Act.apply, Session.reserve, Table.find?_insertNew, hfind]
        split <;> rfl
      | complete j body =>
        rw [Act.apply, Session.complete, Table.find?_modify, hfind, Act.body?]
        split <;> rfl
      | enter | leave => exact hfind
    · have hact : act = .reserve k := by
        simpa [hk, eq_comm] using h
      subst hact
      rw [recordOf, lastBody_reserve hk, Act.apply, Session.reserve, Table.find?_insertNew,
        find?_after_eq_none hk, if_pos rfl]
      rfl

theorem entries_after (acts : List Act) :
    (after acts).records.entries = (reserved acts).map fun k => (k, recordOf acts k) := by
  have hkeys := keys_after acts
  rw [← hkeys]
  refine Table.entries_eq_map (hkeys ▸ nodup_reserved acts) fun k hk => ?_
  exact find?_after (mem_reserved.1 (hkeys ▸ hk))

theorem mem_of_find?_after {m : Merged} (h : (after acts).records.find? k = some m) :
    .reserve k ∈ acts := by
  by_contra hk
  rw [find?_after_eq_none hk] at h
  cases h

theorem reserve_of_mem {s : Session} (h : k ∈ s.records.keys) : s.reserve k = s := by
  rw [Session.reserve, Table.insertNew_of_mem h]

theorem complete_of_notMem {s : Session} (h : k ∉ s.records.keys) (body : String) :
    s.complete k body = s := by
  rw [Session.complete, Table.modify_of_notMem h]

theorem function?_after {name : String} :
    (after acts).function? k = some name ↔ .reserve k ∈ acts ∧ name = k.function := by
  rw [Session.function?]
  by_cases hk : .reserve k ∈ acts
  · rw [find?_after hk]
    simp [hk, recordOf, eq_comm]
  · rw [find?_after_eq_none hk]
    simp [hk]

/-! Depth -/

def unmet : List Act → Nat
  | [] => 0
  | .enter :: later => unmet later - 1
  | .leave :: later => unmet later + 1
  | .reserve _ :: later | .complete _ _ :: later => unmet later

theorem unmet_le_iff {later : List Act} {d : Nat} :
    unmet later ≤ d ↔ ∀ stretch ∈ later.inits, stretch.count .leave ≤ stretch.count .enter + d := by
  induction later generalizing d with
  | nil => simp [unmet]
  | cons act later ih =>
    rw [List.inits_cons, List.forall_mem_cons, List.forall_mem_map]
    cases act with
    | enter =>
      simp only [unmet, Nat.sub_le_iff_le_add, ih]
      simp [Nat.add_right_comm, Nat.add_assoc]
    | leave =>
      cases d with
      | zero =>
        refine iff_of_false (Nat.not_succ_le_zero _) fun h => ?_
        have hle := h.2 [] ((List.mem_inits _ _).2 List.nil_prefix)
        exact absurd hle (by decide)
      | succ d => simpa [unmet, ← Nat.add_assoc] using ih
    | reserve k | complete k body => simpa [unmet, List.count_cons] using ih

theorem forall_inits_of_stands {later : List Act} (h : Stands (.enter :: later)) :
    ∀ stretch ∈ later.inits, stretch.count .leave ≤ stretch.count .enter := by
  have hall : ∀ acts, acts <+: later →
      ∀ stretch ∈ acts.inits, stretch.count .leave ≤ stretch.count .enter := by
    intro acts hacts
    induction acts using List.reverseRecOn with
    | nil => simp
    | append_singleton acts act ih =>
      have hprefix := (List.prefix_append acts [act]).trans hacts
      have hbefore := ih hprefix
      intro stretch hstretch
      rw [List.mem_inits, List.prefix_concat_iff] at hstretch
      rcases hstretch with rfl | hstretch
      · -- a leave that comes after balanced acts would have cancelled the enter
        have hle := hbefore acts ((List.mem_inits _ _).2 List.prefix_rfl)
        rw [List.count_append, List.count_append]
        cases act with
        | leave =>
          have hne : acts.count .leave ≠ acts.count .enter := fun heq =>
            h acts ((List.mem_inits _ _).2 hprefix) ⟨heq, hbefore⟩ hacts
          simp
          omega
        | enter | reserve k | complete k body =>
          simp
          omega
      · exact hbefore stretch ((List.mem_inits _ _).2 hstretch)
  exact hall later List.prefix_rfl

theorem stands_enter {later : List Act} : Stands (.enter :: later) ↔ unmet later = 0 := by
  rw [← Nat.le_zero, unmet_le_iff]
  constructor
  · exact forall_inits_of_stands
  · intro h between _ hbalanced hprefix
    have hle := h _ ((List.mem_inits _ _).2 hprefix)
    rw [List.count_append, List.count_append, hbalanced.1] at hle
    exact Nat.not_succ_le_self _ hle

theorem standing_enter (later : List Act) :
    standing (.enter :: later) = standing later + if unmet later = 0 then 1 else 0 := by
  rw [standing, List.tails, List.countP_cons, ← standing]
  simp only [stands_enter, decide_eq_true_eq]

theorem standing_cons (act : Act) {later : List Act} (h : ¬ Stands (act :: later)) :
    standing (act :: later) = standing later := by
  rw [standing, List.tails, List.countP_cons, ← standing]
  simp [h]

/-- Leaves that cancel no enter of a history take from the depth it began with. -/
theorem depth_foldl (acts : List Act) (s : Session) :
    (acts.foldl Act.apply s).depth = s.depth - unmet acts + standing acts := by
  induction acts generalizing s with
  | nil => rfl
  | cons act acts ih =>
    rw [List.foldl_cons, ih]
    cases act with
    | enter =>
      have hdepth : (Act.enter.apply s).depth = s.depth + 1 := rfl
      rw [standing_enter, unmet, hdepth]
      split <;> omega
    | leave =>
      have hdepth : (Act.leave.apply s).depth = s.depth - 1 := rfl
      rw [standing_cons .leave id, unmet, hdepth]
      omega
    | reserve k =>
      rw [standing_cons (.reserve k) id]
      rfl
    | complete k body =>
      rw [standing_cons (.complete k body) id]
      rfl

theorem depth_after (acts : List Act) : (after acts).depth = standing acts := by
  rw [after, depth_foldl, Nat.zero_sub, Nat.zero_add]

example : standing [.leave, .enter, .enter, .leave, .enter] = 2 := by decide

/-- A session is what its history says, whatever was done and in whatever order. The keys stand in
the order of their first reservations, each with its own function and template and the body that it
was last given since. Reserving a key again and completing one that is not reserved change nothing,
and the depth counts the enters that no later leave cancels. -/
theorem after_history (acts : List Act) :
    ((after acts).records.entries = (reserved acts).map fun k =>
      (k, { function := k.function, template := k.template, body := lastBody acts k })) ∧
    (reserved acts).Nodup ∧
    (∀ k, k ∈ reserved acts ↔ .reserve k ∈ acts) ∧
    ((reserved acts).Pairwise fun j k => acts.idxOf (.reserve j) < acts.idxOf (.reserve k)) ∧
    (∀ k name, (after acts).function? k = some name ↔ .reserve k ∈ acts ∧ name = k.function) ∧
    (∀ k m later, (after acts).records.find? k = some m →
      ∃ body, (after (acts ++ later)).records.find? k = some { m with body }) ∧
    (∀ k, .reserve k ∈ acts → after (acts ++ [.reserve k]) = after acts) ∧
    (∀ k body, .reserve k ∉ acts → after (acts ++ [.complete k body]) = after acts) ∧
    (after acts).depth = standing acts := by
  refine ⟨entries_after acts, nodup_reserved acts, fun k => mem_reserved, pairwise_reserved acts,
    fun k name => function?_after, fun k m later h => ?_, fun k h => ?_, fun k body h => ?_,
    depth_after acts⟩
  · have hk := mem_of_find?_after h
    have hm : recordOf acts k = m := Option.some.inj ((find?_after hk).symm.trans h)
    subst hm
    exact ⟨_, find?_after (List.mem_append_left later hk)⟩
  · rw [after_concat]
    apply reserve_of_mem
    rwa [keys_after, mem_reserved]
  · rw [after_concat]
    apply complete_of_notMem
    rwa [keys_after, mem_reserved]

theorem after_history_sample :
    let j : MergeKey := ⟨"menu", ""⟩
    let k : MergeKey := ⟨"page", ""⟩
    let acts : List Act := [.leave, .reserve k, .complete j "lost", .complete k "first", .enter,
      .reserve j, .complete k "last", .enter, .leave]
    (after acts).records.entries =
      [(k, ⟨k.function, "page", "last"⟩), (j, ⟨j.function, "menu", ""⟩)] ∧
    .reserve k ∈ acts ∧ after (acts ++ [.reserve k]) = after acts ∧ (after acts).depth = 1 := by
  intro j k acts
  obtain ⟨hentries, -, -, -, -, -, hreserve, -, hdepth⟩ := after_history acts
  have hk : .reserve k ∈ acts := by decide
  have hreserved : reserved acts = [k, j] := by decide
  have hstanding : standing acts = 1 := by decide
  refine ⟨?_, hk, hreserve k hk, hdepth.trans hstanding⟩
  rw [hentries, hreserved]
  rfl

end Session

end TagTemplate
