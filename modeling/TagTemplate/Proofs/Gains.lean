import TagTemplate.Proofs.Table

namespace TagTemplate.Table

variable {κ α : Type} [DecidableEq κ]

/-- The second table holds what the first holds and the new entries, and nothing else. Of two
entries for one key either may stand. -/
structure Gains (t : Table κ α) (new : κ → α → Prop) (u : Table κ α) : Prop where
  mem_keys : ∀ k, k ∈ u.keys ↔ k ∈ t.keys ∨ ∃ a, new k a
  find? : ∀ {k a}, u.find? k = some a → t.find? k = some a ∨ new k a
  nodup : t.keys.Nodup → u.keys.Nodup

namespace Gains

variable {t u v : Table κ α} {new new' : κ → α → Prop}

theorem congr (h : t.Gains new u) (hnew : ∀ k a, new k a ↔ new' k a) : t.Gains new' u := by
  have heq : new = new' := by
    funext k a
    exact propext (hnew k a)
  rwa [← heq]

theorem refl (t : Table κ α) : t.Gains (fun _ _ => False) t where
  mem_keys k := by simp
  find? h := .inl h
  nodup h := h

theorem trans (h : t.Gains new u) (h' : u.Gains new' v) :
    t.Gains (fun k a => new k a ∨ new' k a) v where
  mem_keys k := by
    rw [h'.mem_keys, h.mem_keys, or_assoc, exists_or]
  find? hv := by
    obtain hu | hnew := h'.find? hv
    · exact (h.find? hu).imp_right .inl
    · exact .inr (.inr hnew)
  nodup ht := h'.nodup (h.nodup ht)

theorem insert (t : Table κ α) (k : κ) (a : α) :
    t.Gains (fun j b => j = k ∧ b = a) (t.insert k a) where
  mem_keys j := by simp [mem_keys_insert]
  find? {j b} h := by
    rw [find?_insert] at h
    split at h
    next heq => exact .inr ⟨heq.symm, (Option.some.inj h).symm⟩
    next => exact .inl h
  nodup ht := nodup_keys_insert ht k a

theorem insertNew (t : Table κ α) (k : κ) (a : α) :
    t.Gains (fun j b => j = k ∧ b = a) (t.insertNew k a) := by
  rw [Table.insertNew]
  split
  next hk =>
    refine ⟨fun j => ?_, .inl, id⟩
    simp only [exists_and_left, exists_eq, and_true]
    constructor
    · exact .inl
    · rintro (hj | rfl)
      · exact hj
      · exact contains_eq_true.1 hk
  next => exact .insert t k a

theorem foldl {add : Table κ α → κ × α → Table κ α}
    (hadd : ∀ t x, Gains t (fun j b => j = x.1 ∧ b = x.2) (add t x)) (xs : List (κ × α))
    (t : Table κ α) : t.Gains (fun k a => (k, a) ∈ xs) (xs.foldl add t) := by
  induction xs generalizing t with
  | nil => exact (refl t).congr (by simp)
  | cons x xs ih =>
    refine ((hadd t x).trans (ih (add t x))).congr fun k a => ?_
    rw [List.mem_cons, Prod.ext_iff]

theorem new_of_find? (h : empty.Gains new u) {k : κ} {a : α} (hfind : u.find? k = some a) :
    new k a :=
  (h.find? hfind).resolve_left (by simp)

theorem of_entries (h : t.Gains (fun k a => (k, a) ∈ u.entries) v) (hu : empty.Gains new u) :
    t.Gains new v where
  mem_keys k := by
    have hentries : (∃ a, (k, a) ∈ u.entries) ↔ k ∈ u.keys := by simp [keys]
    have hnew : k ∈ u.keys ↔ ∃ a, new k a := by simpa [keys, empty] using hu.mem_keys k
    rw [h.mem_keys, hentries, hnew]
  find? hv := by
    obtain ht | hmem := h.find? hv
    · exact .inl ht
    · have hfind := find?_of_mem (hu.nodup List.nodup_nil) hmem
      exact .inr (hu.new_of_find? hfind)
  nodup := h.nodup

theorem mem_entries (h : empty.Gains new u) (hnew : ∀ {k a b}, new k a → new k b → a = b) {k : κ}
    {a : α} : (k, a) ∈ u.entries ↔ new k a := by
  constructor
  · intro hmem
    have hfind := find?_of_mem (h.nodup List.nodup_nil) hmem
    exact h.new_of_find? hfind
  · intro ha
    obtain ⟨b, hfind⟩ := mem_keys_iff.1 ((h.mem_keys k).2 (.inr ⟨a, ha⟩))
    have hb : new k b := h.new_of_find? hfind
    rw [hnew ha hb]
    exact mem_of_find? hfind

end Gains

end TagTemplate.Table
