import TagTemplate.Proofs.Step

namespace TagTemplate

/-- Whether a policy refuses a name or a place. The ban on passing variables to outer scopes holds
without a policy too, so it is no refusal. -/
def CompileError.isRefusal (e : CompileError) : Bool :=
  match e.fault with
  | .policy kind _ => kind ≠ .scopedVariables
  | _ => false

@[simp] theorem CompileError.isRefusal_atLine (e : CompileError) (line : Line) :
    (e.atLine line).isRefusal = e.isRefusal := by
  unfold atLine
  split <;> rfl

def Follows {α : Type} (first second : Except CompileError α) : Prop :=
  second = first ∨ ∃ e, first = .error e ∧ e.isRefusal = true

namespace Follows

variable {α β : Type} {x y : Except CompileError α} {f g : α → Except CompileError β}

theorem refl (x : Except CompileError α) : Follows x x := .inl rfl

theorem bind (h : Follows x y) (hf : ∀ a, Follows (f a) (g a)) :
    Follows (x >>= f) (y >>= g) := by
  obtain rfl | ⟨e, rfl, he⟩ := h
  · cases y with
    | ok a => exact hf a
    | error e => exact .refl _
  · exact .inr ⟨e, rfl, he⟩

end Follows

namespace Step

variable {σ σ' τ τ' α α' β β' : Type} {R : σ → τ → Prop} {V : α → α' → Prop} {W : β → β' → Prop}

/-- From related states the second step yields a value related to what the first yields, and the
states stay related; it fails with the error of the first unless that is a refusal. -/
structure Lockstep (R : σ → τ → Prop) (V : α → α' → Prop) (x : Step σ α) (y : Step τ α') :
    Prop where
  yields : ∀ {s t a s'}, R s t → x.Yields s a s' → ∃ b t', y.Yields t b t' ∧ V a b ∧ R s' t'
  fails : ∀ {s t e}, R s t → x.Fails s e → e.isRefusal = true ∨ y.Fails t e

theorem lockstep_refl (x : Step σ α) : Lockstep Eq Eq x x where
  yields := by
    rintro s _ a s' rfl h
    exact ⟨a, s', h, rfl, rfl⟩
  fails := by
    rintro s _ e rfl h
    exact .inr h

theorem lockstep_pure {a : α} {b : α'} (h : V a b) :
    Lockstep R V (pure a : Step σ α) (pure b : Step τ α') where
  yields hR hx := by
    obtain ⟨rfl, rfl⟩ := yields_pure.1 hx
    exact ⟨b, _, yields_pure.2 ⟨rfl, rfl⟩, h, hR⟩
  fails _ hx := absurd hx not_fails_pure

theorem lockstep_bind {x : Step σ α} {y : Step τ α'} {f : α → Step σ β} {g : α' → Step τ β'}
    (hx : Lockstep R V x y) (hf : ∀ a b, V a b → Lockstep R W (f a) (g b)) :
    Lockstep R W (x >>= f) (y >>= g) where
  yields hR h := by
    obtain ⟨a, s₁, ha, hc⟩ := yields_bind.1 h
    obtain ⟨b, t₁, hb, hV, hR₁⟩ := hx.yields hR ha
    obtain ⟨d, t₂, hd, hW, hR₂⟩ := (hf a b hV).yields hR₁ hc
    exact ⟨d, t₂, yields_bind.2 ⟨b, t₁, hb, hd⟩, hW, hR₂⟩
  fails hR h := by
    rcases fails_bind.1 h with h | ⟨a, s₁, ha, hc⟩
    · exact (hx.fails hR h).imp_right fun h => fails_bind.2 (.inl h)
    · obtain ⟨b, t₁, hb, hV, hR₁⟩ := hx.yields hR ha
      exact ((hf a b hV).fails hR₁ hc).imp_right fun h => fails_bind.2 (.inr ⟨b, t₁, hb, h⟩)

theorem lockstep_bind_eq {x : Step σ α} {y : Step τ α} {f : α → Step σ β} {g : α → Step τ β'}
    (hx : Lockstep R Eq x y) (hf : ∀ a, Lockstep R W (f a) (g a)) :
    Lockstep R W (x >>= f) (y >>= g) := by
  refine lockstep_bind hx ?_
  rintro a _ rfl
  exact hf a

theorem lockstep_ite {c : Prop} [Decidable c] {x x' : Step σ α} {y y' : Step τ α'}
    (h : Lockstep R V x y) (h' : Lockstep R V x' y') :
    Lockstep R V (if c then x else x') (if c then y else y') := by
  split
  · exact h
  · exact h'

theorem lockstep_get : Lockstep R R (get : Step σ σ) (get : Step τ τ) where
  yields hR h := by
    obtain ⟨rfl, rfl⟩ := yields_get.1 h
    exact ⟨_, _, yields_get.2 ⟨rfl, rfl⟩, hR, hR⟩
  fails _ h := absurd h not_fails_get

theorem lockstep_modify {f : σ → σ} {g : τ → τ} (h : ∀ s t, R s t → R (f s) (g t)) :
    Lockstep R Eq (modify f : Step σ PUnit) (modify g : Step τ PUnit) where
  yields hR hx := by
    rw [yields_modify.1 hx]
    exact ⟨(), _, yields_modify.2 rfl, rfl, h _ _ hR⟩
  fails _ hx := absurd hx not_fails_modify

theorem lockstep_ofExcept {r r' : Except CompileError α} (h : Follows r r') :
    Lockstep R Eq (ofExcept r : Step σ α) (ofExcept r' : Step τ α) where
  yields hR hx := by
    obtain ⟨rfl, rfl⟩ := yields_ofExcept.1 hx
    obtain rfl | ⟨e, he, -⟩ := h
    · exact ⟨_, _, yields_ofExcept.2 ⟨rfl, rfl⟩, rfl, hR⟩
    · cases he
  fails _ hx := by
    obtain rfl := fails_ofExcept.1 hx
    obtain rfl | ⟨e, he, hrefusal⟩ := h
    · exact .inr (fails_ofExcept.2 rfl)
    · cases he
      exact .inl hrefusal

theorem lockstep_throw (e : CompileError) :
    Lockstep R V (throw e : Step σ α) (throw e : Step τ α') where
  yields _ h := absurd h not_yields_throw
  fails _ h := .inr (fails_throw.2 (fails_throw.1 h))

theorem lockstep_fail (fault : Fault) :
    Lockstep R V (fail fault : Step σ α) (fail fault : Step τ α') :=
  lockstep_throw fault

theorem lockstep_atLine {x : Step σ α} {y : Step τ α'} (line : Line) (h : Lockstep R V x y) :
    Lockstep R V (atLine line x) (atLine line y) where
  yields hR hx := by
    obtain ⟨b, t', hy, hV, hR'⟩ := h.yields hR (yields_atLine.1 hx)
    exact ⟨b, t', yields_atLine.2 hy, hV, hR'⟩
  fails hR hx := by
    obtain ⟨e, he, rfl⟩ := fails_atLine.1 hx
    rw [CompileError.isRefusal_atLine]
    exact (h.fails hR he).imp_right fun he => fails_atLine.2 ⟨e, he, rfl⟩

/-- Steps on parts of larger states, where the relation of the larger states comes down to that of
the parts and back. -/
theorem lockstep_within {S : σ' → τ' → Prop} {part : σ' → σ} {replace : σ' → σ → σ'}
    {part' : τ' → τ} {replace' : τ' → τ → τ'} {x : Step σ α} {y : Step τ α'}
    (h : Lockstep R V x y) (hpart : ∀ s t, S s t → R (part s) (part' t))
    (hreplace : ∀ s t u v, S s t → R u v → S (replace s u) (replace' t v)) :
    Lockstep S V (within part replace x) (within part' replace' y) where
  yields hS hx := by
    obtain ⟨u, hu, rfl⟩ := yields_within.1 hx
    obtain ⟨b, v, hv, hV, hR⟩ := h.yields (hpart _ _ hS) hu
    exact ⟨b, _, yields_within.2 ⟨v, hv, rfl⟩, hV, hreplace _ _ _ _ hS hR⟩
  fails hS hx := (h.fails (hpart _ _ hS) (fails_within.1 hx)).imp_right fails_within.2

theorem lockstep_mapM {f : α → Step σ β} {g : α → Step τ β} (as : List α)
    (h : ∀ a ∈ as, Lockstep R Eq (f a) (g a)) : Lockstep R Eq (as.mapM f) (as.mapM g) := by
  induction as with
  | nil =>
    rw [List.mapM_nil, List.mapM_nil]
    exact lockstep_pure rfl
  | cons a as ih =>
    rw [List.mapM_cons, List.mapM_cons]
    refine lockstep_bind (h a List.mem_cons_self) ?_
    rintro b _ rfl
    refine lockstep_bind (ih fun c hc => h c (List.mem_cons_of_mem a hc)) ?_
    rintro bs _ rfl
    exact lockstep_pure rfl

end Step

end TagTemplate
