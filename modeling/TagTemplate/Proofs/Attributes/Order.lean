import TagTemplate.Proofs.Attributes.Resolution

namespace TagTemplate

open Attributes

/-- The same arguments, of which the positional ones come in the same order. -/
structure Arg.Reordered (args args' : List Arg) : Prop where
  perm : args.Perm args'
  positionals : args.filter Arg.isPositional = args'.filter Arg.isPositional

namespace Contract

variable {c : Contract} {args args' : List Arg}

theorem toAttribute_of_not_positional {arg : Arg} (h : arg.isPositional = false) (i : Nat) :
    arg.toAttribute c i = arg.toAttribute c 0 := by
  cases arg with
  | positional v => cases h
  | named name v => rfl
  | flag name => rfl

theorem perm_attributesFrom (c : Contract) (i : Nat) (args : List Arg) :
    (c.attributesFrom i args).Perm
      (c.attributesFrom i (args.filter Arg.isPositional) ++
        (args.filter fun arg => !arg.isPositional).map fun arg => arg.toAttribute c 0) := by
  induction args generalizing i with
  | nil => exact .nil
  | cons arg args ih =>
    rw [attributesFrom]
    cases h : arg.isPositional with
    | true =>
      rw [List.filter_cons_of_pos h, List.filter_cons_of_neg (by simp [h]), attributesFrom]
      exact (ih (arg.next i)).cons _
    | false =>
      rw [List.filter_cons_of_neg (by simp [h]), List.filter_cons_of_pos (by simp [h]),
        Arg.next_of_not_positional h, List.map_cons, toAttribute_of_not_positional h]
      exact ((ih i).cons _).trans List.perm_middle.symm

end Contract

namespace Arg.Reordered

variable {c : Contract} {args args' : List Arg}

theorem symm (h : Reordered args args') : Reordered args' args := ⟨h.perm.symm, h.positionals.symm⟩

theorem attributes (h : Reordered args args') (c : Contract) :
    (c.attributes args).Perm (c.attributes args') := by
  have hothers := (h.perm.filter fun arg => !arg.isPositional).map fun arg => arg.toAttribute c 0
  have hparts := c.perm_attributesFrom 0 args
  rw [h.positionals] at hparts
  exact hparts.trans ((hothers.append_left _).trans (c.perm_attributesFrom 0 args').symm)

theorem fits (h : Reordered args args') (hfits : c.Fits args) : c.Fits args' where
  positionals := h.perm.countP_eq Arg.isPositional ▸ hfits.positionals
  flags name hmem := hfits.flags name (h.perm.mem_iff.2 hmem)
  named name v hmem := hfits.named name v (h.perm.mem_iff.2 hmem)
  distinct := ((h.attributes c).map Attribute.name).nodup_iff.1 hfits.distinct

end Arg.Reordered

structure Attributes.Same (a a' : Attributes) : Prop where
  values : ∀ name, a.values.find? name = a'.values.find? name
  extra : a.extra.entries.Perm a'.extra.entries

namespace Attributes

variable {c : Contract} {args args' : List Arg} {a : Attributes}

theorem nodup_values (h : c.Fits args) : (collect (c.attributes args)).values.keys.Nodup := by
  have hown := List.filter_sublist (p := Attribute.own) (l := c.attributes args)
  have hnames := (hown.map Attribute.name).nodup h.distinct
  rwa [collect, Table.keys, List.map_map]

theorem same_of_perm {xs ys : List Attribute} (h : xs.Perm ys)
    (hxs : (collect xs).values.keys.Nodup) : (collect xs).Same (collect ys) where
  values := Table.find?_eq_of_perm ((h.filter Attribute.own).map Attribute.pair) hxs
  extra := (h.filter fun x : Attribute => !x.own).map Attribute.pair

theorem resolve_reordered (h : Arg.Reordered args args') (ha : resolve c args = .ok a) :
    ∃ a', resolve c args' = .ok a' ∧ a.Same a' := by
  obtain ⟨hfits, hrequired, rfl⟩ := resolve_eq_ok.1 ha
  have hsame := same_of_perm (h.attributes c) (nodup_values hfits)
  refine ⟨_, resolve_eq_ok.2 ⟨h.fits hfits, fun name hname => ?_, rfl⟩, hsame⟩
  obtain ⟨v, hv⟩ := Table.mem_keys_iff.1 (hrequired name hname)
  exact Table.mem_keys_of_find? ((hsame.values name).symm.trans hv)

/-- Whatever the contract, reordered arguments either fail to resolve in both orders or resolve to
the same attributes, those that only the wildcard takes being in supply order. -/
theorem resolve_order (c : Contract) (args args' : List Arg) (h : Arg.Reordered args args') :
    (∃ e e', resolve c args = .error e ∧ resolve c args' = .error e') ∨
    ∃ a a', resolve c args = .ok a ∧ resolve c args' = .ok a' ∧ a.Same a' ∧
      a.extra.entries = ((c.attributes args).filter fun x => !x.own).map Attribute.pair ∧
      a'.extra.entries = ((c.attributes args').filter fun x => !x.own).map Attribute.pair := by
  cases ha : resolve c args with
  | ok a =>
    obtain ⟨a', ha', hsame⟩ := resolve_reordered h ha
    obtain ⟨-, -, rfl⟩ := resolve_eq_ok.1 ha
    obtain ⟨-, -, rfl⟩ := resolve_eq_ok.1 ha'
    exact .inr ⟨_, _, rfl, ha', hsame, rfl, rfl⟩
  | error e =>
    cases ha' : resolve c args' with
    | ok a' =>
      obtain ⟨a, ha₂, -⟩ := resolve_reordered h.symm ha'
      rw [ha] at ha₂
      cases ha₂
    | error e' => exact .inl ⟨e, e', rfl, rfl⟩

def sampleReordered : List Arg := [
  .named "caching" (.code "'off'"), .positional (.code "'a.tpl'"), .positional (.flag true),
  .flag "inline", .named "title" (.code "'A'")]

theorem resolve_order_include :
    Arg.Reordered sampleArgs sampleReordered ∧ ∃ a a', resolve Include.contract sampleArgs = .ok a ∧
      resolve Include.contract sampleReordered = .ok a' ∧ a.Same a' ∧
      a.extra.keys = ["title", "1"] ∧ a'.extra.keys = ["1", "title"] := by
  have hargs : Arg.Reordered sampleArgs sampleReordered := ⟨by decide, by decide⟩
  have ha : (resolve Include.contract sampleArgs).isOk = true := by decide +kernel
  refine ⟨hargs, ?_⟩
  obtain ⟨e, e', he, -⟩ | ⟨a, a', ha, ha', hsame, hextra, hextra'⟩ :=
    resolve_order Include.contract sampleArgs sampleReordered hargs
  · rw [he] at ha
    cases ha
  · refine ⟨a, a', ha, ha', hsame, ?_, ?_⟩
    · rw [Table.keys, hextra]
      decide +kernel
    · rw [Table.keys, hextra']
      decide +kernel

end Attributes

end TagTemplate
