import Mathlib.Data.List.Induction
import Mathlib.Data.List.Nodup
import TagTemplate.Table

namespace TagTemplate.Table

variable {κ α : Type} [DecidableEq κ]

theorem mem_of_findIn {k : κ} {a : α} {xs : List (κ × α)} (h : findIn k xs = some a) :
    (k, a) ∈ xs := by
  induction xs with
  | nil => cases h
  | cons x xs ih =>
    rw [findIn] at h
    split at h
    next heq =>
      cases h
      rw [← heq]
      exact List.mem_cons_self
    next => exact List.mem_cons_of_mem x (ih h)

theorem mem_of_find? {t : Table κ α} {k : κ} {a : α} (h : t.find? k = some a) :
    (k, a) ∈ t.entries :=
  mem_of_findIn h

theorem mem_keys_of_find? {t : Table κ α} {k : κ} {a : α} (h : t.find? k = some a) : k ∈ t.keys :=
  List.mem_map_of_mem (mem_of_find? h)

theorem findIn_eq_none {k : κ} {xs : List (κ × α)} : findIn k xs = none ↔ k ∉ xs.map Prod.fst := by
  induction xs with
  | nil => simp [findIn]
  | cons x xs ih =>
    rw [findIn, List.map_cons, List.mem_cons]
    by_cases heq : x.1 = k
    · simp [heq]
    · have hne : k ≠ x.1 := fun h => heq h.symm
      simp [heq, hne, ih]

theorem find?_eq_none {t : Table κ α} {k : κ} : t.find? k = none ↔ k ∉ t.keys :=
  findIn_eq_none

theorem contains_eq_true {t : Table κ α} {k : κ} : t.contains k = true ↔ k ∈ t.keys := by
  rw [contains, Option.isSome_iff_ne_none, Ne, find?_eq_none, not_not]

theorem mem_keys_iff {t : Table κ α} {k : κ} : k ∈ t.keys ↔ ∃ a, t.find? k = some a := by
  rw [← contains_eq_true, contains, Option.isSome_iff_exists]

theorem findIn_of_mem {k : κ} {a : α} {xs : List (κ × α)} (hxs : (xs.map Prod.fst).Nodup)
    (h : (k, a) ∈ xs) : findIn k xs = some a := by
  induction xs with
  | nil => cases h
  | cons x xs ih =>
    rw [List.map_cons, List.nodup_cons] at hxs
    rw [findIn]
    rcases List.mem_cons.1 h with rfl | hmem
    · rw [if_pos rfl]
    · have hne : x.1 ≠ k := fun heq => hxs.1 (heq ▸ List.mem_map_of_mem hmem)
      rw [if_neg hne]
      exact ih hxs.2 hmem

theorem find?_of_mem {t : Table κ α} {k : κ} {a : α} (ht : t.keys.Nodup)
    (h : (k, a) ∈ t.entries) : t.find? k = some a :=
  findIn_of_mem ht h

theorem find?_eq_some_iff {t : Table κ α} (ht : t.keys.Nodup) {k : κ} {a : α} :
    t.find? k = some a ↔ (k, a) ∈ t.entries :=
  ⟨mem_of_find?, find?_of_mem ht⟩

theorem entries_eq_map {t : Table κ α} (ht : t.keys.Nodup) {f : κ → α}
    (hf : ∀ k ∈ t.keys, t.find? k = some (f k)) : t.entries = t.keys.map fun k => (k, f k) := by
  have hself : t.entries.map (fun x => (x.1, f x.1)) = t.entries.map id := by
    refine List.map_congr_left fun x hx => ?_
    have hfind := hf x.1 (List.mem_map_of_mem hx)
    rw [find?_of_mem ht hx] at hfind
    rw [← Option.some.inj hfind]
    rfl
  rw [keys, List.map_map]
  exact (hself.trans (List.map_id _)).symm

theorem find?_filter {t : Table κ α} (ht : t.keys.Nodup) (keep : κ × α → Bool) (k : κ) :
    (⟨t.entries.filter keep⟩ : Table κ α).find? k = (t.find? k).filter fun a => keep (k, a) := by
  have hkeys : (⟨t.entries.filter keep⟩ : Table κ α).keys.Nodup :=
    (List.filter_sublist.map Prod.fst).nodup ht
  apply Option.ext
  intro a
  rw [find?_eq_some_iff hkeys, List.mem_filter, Option.filter_eq_some_iff, find?_eq_some_iff ht]

theorem find?_eq_of_perm {t u : Table κ α} (h : t.entries.Perm u.entries) (ht : t.keys.Nodup)
    (k : κ) : t.find? k = u.find? k := by
  have hu : u.keys.Nodup := (h.map Prod.fst).nodup_iff.1 ht
  apply Option.ext
  intro a
  rw [find?_eq_some_iff ht, find?_eq_some_iff hu, h.mem_iff]

/-! A known key keeps its place, a new one goes to the end. -/

theorem map_fst_insertIn (k : κ) (a : α) (xs : List (κ × α)) :
    (insertIn k a xs).map Prod.fst =
      if k ∈ xs.map Prod.fst then xs.map Prod.fst else xs.map Prod.fst ++ [k] := by
  induction xs with
  | nil => rfl
  | cons x xs ih =>
    rw [insertIn]
    by_cases heq : x.1 = k
    · simp [heq]
    · have hne : k ≠ x.1 := fun h => heq h.symm
      rw [if_neg heq, List.map_cons, ih, List.map_cons]
      by_cases hmem : k ∈ xs.map Prod.fst
      · rw [if_pos hmem, if_pos (List.mem_cons_of_mem _ hmem)]
      · rw [if_neg hmem, if_neg (by simp [hne] at hmem ⊢; exact hmem), List.cons_append]

theorem keys_insert (t : Table κ α) (k : κ) (a : α) :
    (t.insert k a).keys = if k ∈ t.keys then t.keys else t.keys ++ [k] :=
  map_fst_insertIn k a t.entries

theorem mem_keys_insert {t : Table κ α} {j k : κ} {a : α} :
    j ∈ (t.insert k a).keys ↔ j ∈ t.keys ∨ j = k := by
  rw [keys_insert]
  split
  next h =>
    constructor
    · exact .inl
    · rintro (hj | rfl)
      · exact hj
      · exact h
  next => simp

theorem nodup_keys_insert {t : Table κ α} (h : t.keys.Nodup) (k : κ) (a : α) :
    (t.insert k a).keys.Nodup := by
  rw [keys_insert]
  split
  next => exact h
  next hk =>
    rw [← List.concat_eq_append]
    exact h.concat hk

theorem insertNew_of_mem {t : Table κ α} {k : κ} (h : k ∈ t.keys) (a : α) :
    t.insertNew k a = t := by
  rw [insertNew, if_pos (contains_eq_true.2 h)]

theorem keys_insertNew (t : Table κ α) (k : κ) (a : α) :
    (t.insertNew k a).keys = if k ∈ t.keys then t.keys else t.keys ++ [k] := by
  by_cases h : k ∈ t.keys
  · rw [insertNew_of_mem h, if_pos h]
  · rw [insertNew, if_neg (mt contains_eq_true.1 h), keys_insert]

theorem modify_of_notMem {t : Table κ α} {k : κ} (h : k ∉ t.keys) (f : α → α) :
    t.modify k f = t := by
  rw [modify, find?_eq_none.2 h]

theorem keys_modify (t : Table κ α) (k : κ) (f : α → α) : (t.modify k f).keys = t.keys := by
  unfold modify
  cases h : t.find? k with
  | none => rfl
  | some a => rw [keys_insert, if_pos (mem_keys_of_find? h)]

/-! Of equal keys in a list the last one counts. -/

theorem ofList_concat (xs : List (κ × α)) (x : κ × α) :
    ofList (xs ++ [x]) = (ofList xs).insert x.1 x.2 := by
  rw [ofList, List.foldl_append]
  rfl

theorem insertIn_of_notMem {k : κ} {xs : List (κ × α)} (h : k ∉ xs.map Prod.fst) (a : α) :
    insertIn k a xs = xs ++ [(k, a)] := by
  induction xs with
  | nil => rfl
  | cons x xs ih =>
    rw [List.map_cons, List.mem_cons, not_or] at h
    rw [insertIn, if_neg (Ne.symm h.1), ih h.2, List.cons_append]

theorem entries_ofList {xs : List (κ × α)} (h : (xs.map Prod.fst).Nodup) :
    (ofList xs).entries = xs := by
  induction xs using List.reverseRecOn with
  | nil => rfl
  | append_singleton xs x ih =>
    rw [List.map_append, List.nodup_append] at h
    have hx : x.1 ∉ xs.map Prod.fst := fun hmem => h.2.2 x.1 hmem x.1 (by simp) rfl
    have hxs := ih h.1
    rw [ofList_concat, insert, hxs, insertIn_of_notMem hx]

theorem mem_keys_ofList {xs : List (κ × α)} {k : κ} :
    k ∈ (ofList xs).keys ↔ k ∈ xs.map Prod.fst := by
  induction xs using List.reverseRecOn with
  | nil => rfl
  | append_singleton xs x ih =>
    rw [ofList_concat, mem_keys_insert, ih, List.map_append, List.mem_append]
    simp

theorem find?_ofList {xs : List (κ × α)} {k : κ} {a : α} (h : (k, a) ∈ xs)
    (hxs : ∀ b, (k, b) ∈ xs → b = a) : (ofList xs).find? k = some a := by
  induction xs using List.reverseRecOn with
  | nil => cases h
  | append_singleton xs x ih =>
    rw [ofList_concat, find?_insert]
    by_cases heq : x.1 = k
    · have hlast : (k, x.2) ∈ xs ++ [x] := by simp [← heq]
      rw [if_pos heq, hxs x.2 hlast]
    · have hmem : (k, a) ∈ xs := by
        rcases List.mem_append.1 h with hmem | hmem
        · exact hmem
        · rw [List.mem_singleton] at hmem
          exact absurd (congrArg Prod.fst hmem).symm heq
      rw [if_neg heq]
      exact ih hmem fun b hb => hxs b (List.mem_append_left _ hb)

end TagTemplate.Table
