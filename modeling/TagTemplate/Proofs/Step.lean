import Mathlib.Logic.Basic
import TagTemplate.Step

namespace TagTemplate.Step

variable {σ τ α β : Type}

def Yields (step : Step σ α) (s : σ) (a : α) (s' : σ) : Prop := step.run s = (.ok a, s')

def Fails (step : Step σ α) (s : σ) (e : CompileError) : Prop := ∃ s', step.run s = (.error e, s')

theorem yields_or_fails (step : Step σ α) (s : σ) :
    (∃ a s', step.Yields s a s') ∨ ∃ e, step.Fails s e := by
  rcases h : (step.run s : Except CompileError α × σ) with ⟨r, s'⟩
  cases r with
  | ok a => exact .inl ⟨a, s', h⟩
  | error e => exact .inr ⟨e, s', h⟩

theorem exists_yields {step : Step σ α} {s : σ} {P : α → Bool}
    (h : (step.run s).1.toOption.any P = true) : ∃ a s', step.Yields s a s' ∧ P a = true := by
  obtain ⟨a, s', ha⟩ | ⟨e, s', he⟩ := step.yields_or_fails s
  · rw [ha] at h
    exact ⟨a, s', ha, h⟩
  · rw [he] at h
    cases h

theorem exists_fails {step : Step σ α} {s : σ} {P : CompileError → Bool}
    (h : (match (step.run s).1 with | .error e => P e | .ok _ => false) = true) :
    ∃ e, step.Fails s e ∧ P e = true := by
  obtain ⟨a, s', ha⟩ | ⟨e, s', he⟩ := step.yields_or_fails s
  · rw [ha] at h
    cases h
  · rw [he] at h
    exact ⟨e, ⟨s', he⟩, h⟩

theorem Yields.unique {step : Step σ α} {s s₁ s₂ : σ} {a₁ a₂ : α} (h₁ : step.Yields s a₁ s₁)
    (h₂ : step.Yields s a₂ s₂) : a₁ = a₂ ∧ s₁ = s₂ := by
  obtain ⟨ha, hs⟩ := Prod.mk.inj (h₁.symm.trans h₂)
  exact ⟨Except.ok.inj ha, hs⟩

theorem Yields.not_fails {step : Step σ α} {s s' : σ} {a : α} {e : CompileError}
    (h : step.Yields s a s') : ¬ step.Fails s e := by
  rintro ⟨t, ht⟩
  cases h.symm.trans ht

theorem Fails.unique {step : Step σ α} {s : σ} {e₁ e₂ : CompileError} (h₁ : step.Fails s e₁)
    (h₂ : step.Fails s e₂) : e₁ = e₂ := by
  obtain ⟨s₁, h₁⟩ := h₁
  obtain ⟨s₂, h₂⟩ := h₂
  cases h₁.symm.trans h₂
  rfl

theorem run_bind (x : Step σ α) (f : α → Step σ β) (s : σ) :
    (x >>= f).run s = match x.run s with
      | (.ok a, s') => (f a).run s'
      | (.error e, s') => (.error e, s') := by
  rcases h : (x.run s : Except CompileError α × σ) with ⟨r, s'⟩
  change ExceptT.bindCont f (x.run s).1 (x.run s).2 = _
  rw [h]
  cases r <;> rfl

@[simp] theorem yields_bind {x : Step σ α} {f : α → Step σ β} {s s' : σ} {b : β} :
    (x >>= f).Yields s b s' ↔ ∃ a t, x.Yields s a t ∧ (f a).Yields t b s' := by
  simp only [Yields, run_bind]
  rcases x.run s with ⟨r, t⟩
  constructor
  · intro hb
    cases r with
    | ok a => exact ⟨a, t, rfl, hb⟩
    | error e => cases hb
  · rintro ⟨a, t', ha, hb⟩
    cases ha
    exact hb

@[simp] theorem fails_bind {x : Step σ α} {f : α → Step σ β} {s : σ} {e : CompileError} :
    (x >>= f).Fails s e ↔ x.Fails s e ∨ ∃ a t, x.Yields s a t ∧ (f a).Fails t e := by
  simp only [Yields, Fails, run_bind]
  rcases x.run s with ⟨r, t⟩
  constructor
  · rintro ⟨s', hb⟩
    cases r with
    | ok a => exact .inr ⟨a, t, rfl, s', hb⟩
    | error e' =>
      cases hb
      exact .inl ⟨t, rfl⟩
  · rintro (⟨s', he⟩ | ⟨a, t', ha, s', hb⟩)
    · cases he
      exact ⟨t, rfl⟩
    · cases ha
      exact ⟨s', hb⟩

@[simp] theorem yields_pure {a b : α} {s s' : σ} :
    (pure a : Step σ α).Yields s b s' ↔ b = a ∧ s' = s := by
  constructor
  · intro h
    cases h
    exact ⟨rfl, rfl⟩
  · rintro ⟨rfl, rfl⟩
    rfl

@[simp] theorem yields_map {f : α → β} {x : Step σ α} {s s' : σ} {b : β} :
    (f <$> x).Yields s b s' ↔ ∃ a, x.Yields s a s' ∧ b = f a := by
  rw [map_eq_pure_bind, yields_bind]
  constructor
  · rintro ⟨a, t, ha, hb⟩
    obtain ⟨rfl, rfl⟩ := yields_pure.1 hb
    exact ⟨a, ha, rfl⟩
  · rintro ⟨a, ha, rfl⟩
    exact ⟨a, s', ha, yields_pure.2 ⟨rfl, rfl⟩⟩

@[simp] theorem not_fails_pure {a : α} {s : σ} {e : CompileError} :
    ¬ (pure a : Step σ α).Fails s e := nofun

@[simp] theorem fails_map {f : α → β} {x : Step σ α} {s : σ} {e : CompileError} :
    (f <$> x).Fails s e ↔ x.Fails s e := by
  rw [map_eq_pure_bind, fails_bind]
  exact or_iff_left fun ⟨_, _, _, h⟩ => not_fails_pure h

@[simp] theorem not_yields_throw {e : CompileError} {s s' : σ} {a : α} :
    ¬ (throw e : Step σ α).Yields s a s' := nofun

@[simp] theorem fails_throw {e e' : CompileError} {s : σ} :
    (throw e : Step σ α).Fails s e' ↔ e' = e := by
  constructor
  · rintro ⟨s', h⟩
    cases h
    rfl
  · rintro rfl
    exact ⟨s, rfl⟩

@[simp] theorem not_yields_fail {fault : Fault} {s s' : σ} {a : α} :
    ¬ (fail fault : Step σ α).Yields s a s' := nofun

@[simp] theorem fails_fail {fault : Fault} {e : CompileError} {s : σ} :
    (fail fault : Step σ α).Fails s e ↔ e = (fault : CompileError) := fails_throw

@[simp] theorem yields_ofExcept {r : Except CompileError α} {a : α} {s s' : σ} :
    (ofExcept r).Yields s a s' ↔ r = .ok a ∧ s' = s := by
  cases r with
  | ok b => simp [ofExcept, eq_comm]
  | error e => simp [ofExcept]

@[simp] theorem fails_ofExcept {r : Except CompileError α} {e : CompileError} {s : σ} :
    (ofExcept r).Fails s e ↔ r = .error e := by
  cases r with
  | ok b => simp [ofExcept]
  | error e' => simp [ofExcept, eq_comm]

@[simp] theorem yields_get {s t s' : σ} : (get : Step σ σ).Yields s t s' ↔ t = s ∧ s' = s :=
  yields_pure

@[simp high] theorem yields_get_bind {f : σ → Step σ α} {s s' : σ} {a : α} :
    (get >>= f).Yields s a s' ↔ (f s).Yields s a s' := by
  rw [yields_bind]
  constructor
  · rintro ⟨_, _, h, ha⟩
    obtain ⟨rfl, rfl⟩ := yields_get.1 h
    exact ha
  · exact fun h => ⟨s, s, yields_get.2 ⟨rfl, rfl⟩, h⟩

theorem run_get_bind (f : σ → Step σ α) (s : σ) : (get >>= f).run s = (f s).run s := rfl

@[simp high] theorem fails_get_bind {f : σ → Step σ α} {s : σ} {e : CompileError} :
    (get >>= f).Fails s e ↔ (f s).Fails s e := .rfl

@[simp] theorem not_fails_get {s : σ} {e : CompileError} : ¬ (get : Step σ σ).Fails s e := nofun

@[simp] theorem yields_modify {f : σ → σ} {s s' : σ} {u : PUnit} :
    (modify f : Step σ PUnit).Yields s u s' ↔ s' = f s := by
  constructor
  · intro h
    cases h
    rfl
  · rintro rfl
    rfl

@[simp] theorem not_fails_modify {f : σ → σ} {s : σ} {e : CompileError} :
    ¬ (modify f : Step σ PUnit).Fails s e := nofun

@[simp high] theorem yields_modify_bind {f : σ → σ} {g : PUnit → Step σ α} {s s' : σ} {a : α} :
    (modify f >>= g).Yields s a s' ↔ (g ()).Yields (f s) a s' := by
  rw [yields_bind]
  constructor
  · rintro ⟨_, _, h, ha⟩
    rw [yields_modify.1 h] at ha
    exact ha
  · exact fun h => ⟨(), f s, yields_modify.2 rfl, h⟩

@[simp high] theorem fails_modify_bind {f : σ → σ} {g : PUnit → Step σ α} {s : σ}
    {e : CompileError} : (modify f >>= g).Fails s e ↔ (g ()).Fails (f s) e := .rfl

theorem run_within (part : τ → σ) (replace : τ → σ → τ) (x : Step σ α) (t : τ) :
    (within part replace x).run t = ((x.run (part t)).1, replace t (x.run (part t)).2) := rfl

@[simp] theorem yields_within {part : τ → σ} {replace : τ → σ → τ} {x : Step σ α} {t t' : τ}
    {a : α} :
    (within part replace x).Yields t a t' ↔ ∃ s', x.Yields (part t) a s' ∧ t' = replace t s' := by
  constructor
  · intro h
    obtain ⟨ha, hs⟩ := Prod.mk.inj h
    exact ⟨(x.run (part t)).2, Prod.ext ha rfl, hs.symm⟩
  · rintro ⟨s', h, rfl⟩
    exact congrArg (fun o => (o.1, replace t o.2)) h

@[simp] theorem fails_within {part : τ → σ} {replace : τ → σ → τ} {x : Step σ α} {t : τ}
    {e : CompileError} : (within part replace x).Fails t e ↔ x.Fails (part t) e := by
  constructor
  · rintro ⟨t', h⟩
    exact ⟨(x.run (part t)).2, Prod.ext (congrArg Prod.fst h :) rfl⟩
  · rintro ⟨s', h⟩
    refine ⟨replace t s', ?_⟩
    exact congrArg (fun o => (o.1, replace t o.2)) h

theorem run_atLine (line : Line) (x : Step σ α) (s : σ) :
    (atLine line x).run s = ((x.run s).1.mapError fun e => e.atLine line, (x.run s).2) := rfl

@[simp] theorem yields_atLine {line : Line} {x : Step σ α} {s s' : σ} {a : α} :
    (atLine line x).Yields s a s' ↔ x.Yields s a s' := by
  simp only [Yields, run_atLine]
  rcases x.run s with ⟨r, t⟩
  cases r with
  | ok b => rfl
  | error e => exact ⟨nofun, nofun⟩

@[simp] theorem fails_atLine {line : Line} {x : Step σ α} {s : σ} {e : CompileError} :
    (atLine line x).Fails s e ↔ ∃ e', x.Fails s e' ∧ e = e'.atLine line := by
  simp only [Fails, run_atLine]
  rcases x.run s with ⟨r, t⟩
  constructor
  · rintro ⟨s', h⟩
    cases r with
    | ok b => cases h
    | error e' =>
      cases h
      exact ⟨e', ⟨t, rfl⟩, rfl⟩
  · rintro ⟨e', ⟨s', h⟩, rfl⟩
    cases h
    exact ⟨t, rfl⟩

theorem run_mapM_cons (f : α → Step σ β) (a : α) (as : List α) (s : σ) :
    ((a :: as).mapM f).run s = match (f a).run s with
      | (.ok b, t) => (((as.mapM f).run t).1.map (b :: ·), ((as.mapM f).run t).2)
      | (.error e, t) => (.error e, t) := by
  rw [List.mapM_cons, run_bind]
  rcases ((f a).run s : Except CompileError β × σ) with ⟨r, t⟩
  cases r with
  | error e => rfl
  | ok b =>
    change ((as.mapM f) >>= fun bs => pure (b :: bs)).run t =
      (((as.mapM f).run t).1.map (b :: ·), ((as.mapM f).run t).2)
    rw [run_bind]
    rcases ((as.mapM f).run t : Except CompileError (List β) × σ) with ⟨r, u⟩
    cases r <;> rfl

@[simp] theorem yields_mapM_nil {f : α → Step σ β} {s s' : σ} {bs : List β} :
    (List.mapM f []).Yields s bs s' ↔ bs = [] ∧ s' = s := by
  rw [List.mapM_nil]
  exact yields_pure

@[simp] theorem yields_mapM_cons {f : α → Step σ β} {a : α} {as : List α} {s s' : σ} {bs : List β} :
    (List.mapM f (a :: as)).Yields s bs s' ↔
      ∃ b t bs', (f a).Yields s b t ∧ (as.mapM f).Yields t bs' s' ∧ bs = b :: bs' := by
  rw [List.mapM_cons]
  simp only [yields_bind, yields_pure]
  constructor
  · rintro ⟨b, t, hb, bs', t', hbs, rfl, rfl⟩
    exact ⟨b, t, bs', hb, hbs, rfl⟩
  · rintro ⟨b, t, bs', hb, hbs, rfl⟩
    exact ⟨b, t, hb, bs', s', hbs, rfl, rfl⟩

@[simp] theorem not_fails_mapM_nil {f : α → Step σ β} {s : σ} {e : CompileError} :
    ¬ (List.mapM f []).Fails s e := by
  rw [List.mapM_nil]
  exact not_fails_pure

@[simp] theorem fails_mapM_cons {f : α → Step σ β} {a : α} {as : List α} {s : σ}
    {e : CompileError} : (List.mapM f (a :: as)).Fails s e ↔
      (f a).Fails s e ∨ ∃ b t, (f a).Yields s b t ∧ (as.mapM f).Fails t e := by
  rw [List.mapM_cons]
  simp only [fails_bind, not_fails_pure, exists_false, and_false, or_false]

theorem yields_mapM_append {f : α → Step σ β} {as as' : List α} {s s' : σ} {bs : List β} :
    ((as ++ as').mapM f).Yields s bs s' ↔ ∃ bs₁ t bs₂, (as.mapM f).Yields s bs₁ t ∧
      (as'.mapM f).Yields t bs₂ s' ∧ bs = bs₁ ++ bs₂ := by
  rw [List.mapM_append]
  simp only [yields_bind, yields_pure]
  constructor
  · rintro ⟨bs₁, t, h₁, bs₂, t', h₂, rfl, rfl⟩
    exact ⟨bs₁, t, bs₂, h₁, h₂, rfl⟩
  · rintro ⟨bs₁, t, bs₂, h₁, h₂, rfl⟩
    exact ⟨bs₁, t, h₁, bs₂, s', h₂, rfl, rfl⟩

theorem fails_mapM_iff {f : α → Step σ β} {as : List α} {s : σ} {e : CompileError} :
    (as.mapM f).Fails s e ↔ ∃ before a after bs t, as = before ++ a :: after ∧
      (before.mapM f).Yields s bs t ∧ (f a).Fails t e := by
  constructor
  · intro h
    induction as generalizing s with
    | nil => exact absurd h not_fails_mapM_nil
    | cons a as ih =>
      obtain h | ⟨b, t, ha, h⟩ := fails_mapM_cons.1 h
      · exact ⟨[], a, as, [], s, rfl, yields_mapM_nil.2 ⟨rfl, rfl⟩, h⟩
      · obtain ⟨before, a', after, bs, t', rfl, hbefore, h⟩ := ih h
        exact ⟨a :: before, a', after, b :: bs, t', rfl,
          yields_mapM_cons.2 ⟨b, t, bs, ha, hbefore, rfl⟩, h⟩
  · rintro ⟨before, a, after, bs, t, rfl, hbefore, h⟩
    rw [List.mapM_append, fails_bind]
    exact .inr ⟨bs, t, hbefore, fails_bind.2 (.inl (fails_mapM_cons.2 (.inl h)))⟩

theorem forall_of_yields_mapM {f : α → Step σ β} {P : α → Prop} {as : List α} {s s' : σ}
    {bs : List β} (hf : ∀ {a s b s'}, (f a).Yields s b s' → P a)
    (h : (as.mapM f).Yields s bs s') : ∀ a ∈ as, P a := by
  induction as generalizing s bs with
  | nil => nofun
  | cons a as ih =>
    obtain ⟨b, t, bs, ha, has, -⟩ := yields_mapM_cons.1 h
    rw [List.forall_mem_cons]
    exact ⟨hf ha, ih has⟩

def Keeps (P : σ → Prop) (x : Step σ α) : Prop := ∀ s, P s → P (x.run s).2

variable {P : σ → Prop}

theorem Keeps.yields {x : Step σ α} (h : x.Keeps P) {s s' : σ} {a : α} (hs : P s)
    (hx : x.Yields s a s') : P s' := by
  have hP := h s hs
  rw [hx] at hP
  exact hP

theorem keeps_pure (a : α) : (pure a : Step σ α).Keeps P := fun _ hs => hs

theorem keeps_fail (fault : Fault) : (fail fault : Step σ α).Keeps P := fun _ hs => hs

theorem keeps_ofExcept (r : Except CompileError α) : (ofExcept r : Step σ α).Keeps P := by
  cases r with
  | ok a => exact keeps_pure a
  | error e => exact fun _ hs => hs

theorem keeps_bind_of_yields {x : Step σ α} {f : α → Step σ β} (hx : x.Keeps P)
    (hf : ∀ {s a t}, x.Yields s a t → P t → P ((f a).run t).2) : (x >>= f).Keeps P := by
  intro s hs
  have hP := hx s hs
  rw [run_bind]
  rcases h : (x.run s : Except CompileError α × σ) with ⟨r, t⟩
  rw [h] at hP
  cases r with
  | ok a => exact hf h hP
  | error e => exact hP

theorem keeps_bind {x : Step σ α} {f : α → Step σ β} (hx : x.Keeps P) (hf : ∀ a, (f a).Keeps P) :
    (x >>= f).Keeps P :=
  keeps_bind_of_yields hx fun {_ a t} _ ht => hf a t ht

theorem keeps_mapM {f : α → Step σ β} (hf : ∀ a, (f a).Keeps P) (as : List α) :
    (as.mapM f).Keeps P := by
  induction as with
  | nil =>
    rw [List.mapM_nil]
    exact keeps_pure []
  | cons a as ih =>
    rw [List.mapM_cons]
    exact keeps_bind (hf a) fun b => keeps_bind ih fun bs => keeps_pure (b :: bs)

def Reverts (P : σ → Prop) (x : Step σ α) : Prop :=
  ∀ s e s', P s → x.run s = (.error e, s') → P s'

theorem Keeps.reverts {x : Step σ α} (h : x.Keeps P) : x.Reverts P := by
  intro s e s' hs hx
  have hP := h s hs
  rwa [hx] at hP

theorem reverts_of_total {x : Step σ α} (h : ∀ s e, ¬ x.Fails s e) : x.Reverts P :=
  fun s e s' _ hx => absurd ⟨s', hx⟩ (h s e)

theorem reverts_fail (fault : Fault) : (fail fault : Step σ α).Reverts P :=
  (keeps_fail fault).reverts

theorem reverts_bind {x : Step σ α} {f : α → Step σ β} (hx : x.Keeps P)
    (hf : ∀ a, (f a).Reverts P) : (x >>= f).Reverts P := by
  intro s e s' hs h
  have hP := hx s hs
  rw [run_bind] at h
  rcases hrun : (x.run s : Except CompileError α × σ) with ⟨r, t⟩
  rw [hrun] at h hP
  cases r with
  | ok a => exact hf a t e s' hP h
  | error e' =>
    cases h
    exact hP

/-- What cannot fail may follow a step that is undone where it fails. -/
theorem Reverts.andThen {x : Step σ α} {f : α → Step σ β} (hx : x.Reverts P)
    (hf : ∀ a s e, ¬ (f a).Fails s e) : (x >>= f).Reverts P := by
  intro s e s' hs h
  rw [run_bind] at h
  rcases hrun : (x.run s : Except CompileError α × σ) with ⟨r, t⟩
  rw [hrun] at h
  cases r with
  | ok a => exact absurd ⟨s', h⟩ (hf a t e)
  | error e' =>
    cases h
    exact hx s _ _ hs hrun

def Raises (Q : CompileError → Prop) (x : Step σ α) : Prop := ∀ s e, x.Fails s e → Q e

section Raises

variable {Q : CompileError → Prop} {x : Step σ α} {f : α → Step σ β}

theorem raises_of_total (h : ∀ s e, ¬ x.Fails s e) : x.Raises Q := fun s e he => absurd he (h s e)

theorem raises_pure (a : α) : (pure a : Step σ α).Raises Q :=
  raises_of_total fun _ _ => not_fails_pure

theorem raises_modify (g : σ → σ) : (modify g : Step σ PUnit).Raises Q :=
  raises_of_total fun _ _ => not_fails_modify

theorem raises_throw {e : CompileError} (h : Q e) : (throw e : Step σ α).Raises Q := by
  intro s e' he
  rwa [fails_throw.1 he]

theorem raises_ofExcept {r : Except CompileError α} (h : ∀ e, r = .error e → Q e) :
    (ofExcept r : Step σ α).Raises Q :=
  fun _ e he => h e (fails_ofExcept.1 he)

theorem raises_bind (hx : x.Raises Q) (hf : ∀ a, (f a).Raises Q) : (x >>= f).Raises Q := by
  intro s e h
  obtain h | ⟨a, t, -, h⟩ := fails_bind.1 h
  · exact hx s e h
  · exact hf a t e h

theorem raises_mapM (hf : ∀ a, (f a).Raises Q) (as : List α) : (as.mapM f).Raises Q := by
  intro s e h
  obtain ⟨_, a, _, _, t, -, -, h⟩ := fails_mapM_iff.1 h
  exact hf a t e h

end Raises

/-- From `s` the step succeeds or fails as `r` does; where it succeeds, `Q` holds afterwards. -/
inductive Mirrors (x : Step σ α) (s : σ) (Q : β → σ → Prop) : Except CompileError β → Prop
  | ok {a : α} {s' : σ} {b : β} : x.Yields s a s' → Q b s' → Mirrors x s Q (.ok b)
  | error {e : CompileError} : x.Fails s e → Mirrors x s Q (.error e)

section Mirrors

variable {γ δ : Type} {x : Step σ α} {f : α → Step σ γ} {s s' : σ} {a : α}
  {r : Except CompileError β} {Q : β → σ → Prop}

theorem Mirrors.yields_iff (h : x.Mirrors s Q r) : (∃ a s', x.Yields s a s') ↔ ∃ b, r = .ok b := by
  cases h with
  | ok hx => exact ⟨fun _ => ⟨_, rfl⟩, fun _ => ⟨_, _, hx⟩⟩
  | error hx => exact ⟨fun ⟨_, _, h⟩ => absurd hx h.not_fails, nofun⟩

theorem Mirrors.fails_iff (h : x.Mirrors s Q r) {e : CompileError} :
    x.Fails s e ↔ r = .error e := by
  cases h with
  | ok hx => exact ⟨fun h => absurd h hx.not_fails, nofun⟩
  | error hx =>
    constructor
    · intro h
      rw [h.unique hx]
    · rintro ⟨rfl⟩
      exact hx

theorem Mirrors.bind {g : β → Except CompileError δ} {R : δ → σ → Prop} (hx : x.Mirrors s Q r)
    (hf : ∀ a b s', x.Yields s a s' → Q b s' → (f a).Mirrors s' R (g b)) :
    (x >>= f).Mirrors s R (r.bind g) := by
  cases hx with
  | error hx => exact .error (fails_bind.2 (.inl hx))
  | @ok a s' b hx hQ =>
    have hfa := hf a b s' hx hQ
    change (x >>= f).Mirrors s R (g b)
    generalize g b = r at hfa ⊢
    cases hfa with
    | ok hfa hR => exact .ok (yields_bind.2 ⟨a, s', hx, hfa⟩) hR
    | error hfa => exact .error (fails_bind.2 (.inr ⟨a, s', hx, hfa⟩))

theorem Mirrors.map {R : β → σ → Prop} (hx : x.Mirrors s Q r)
    (hf : ∀ a b s', x.Yields s a s' → Q b s' → (f a).Mirrors s' R (.ok b)) :
    (x >>= f).Mirrors s R r := by
  have h := hx.bind hf
  cases r <;> exact h

theorem Yields.mirrors {R : δ → σ → Prop} {r : Except CompileError δ} (hx : x.Yields s a s')
    (hf : (f a).Mirrors s' R r) : (x >>= f).Mirrors s R r := by
  cases hf with
  | ok hfa hR => exact .ok (yields_bind.2 ⟨a, s', hx, hfa⟩) hR
  | error hfa => exact .error (fails_bind.2 (.inr ⟨a, s', hx, hfa⟩))

theorem mirrors_ofExcept {r : Except CompileError β} (h : ∀ b, r = .ok b → Q b s) :
    (ofExcept r).Mirrors s Q r := by
  cases r with
  | ok b => exact .ok (yields_ofExcept.2 ⟨rfl, rfl⟩) (h b rfl)
  | error e => exact .error (fails_ofExcept.2 rfl)

theorem Mirrors.atLine {line : Line} (hx : x.Mirrors s Q r)
    (he : ∀ e, r = .error e → e.atLine line = e) : (x.atLine line).Mirrors s Q r := by
  cases hx with
  | ok hx hQ => exact .ok (yields_atLine.2 hx) hQ
  | error hx => exact .error (fails_atLine.2 ⟨_, hx, (he _ rfl).symm⟩)

theorem Mirrors.within {part : τ → σ} {replace : τ → σ → τ} {R : β → τ → Prop} {t : τ}
    (hx : x.Mirrors (part t) Q r) (hR : ∀ b s', Q b s' → R b (replace t s')) :
    (x.within part replace).Mirrors t R r := by
  cases hx with
  | ok hx hQ => exact .ok (yields_within.2 ⟨_, hx, rfl⟩) (hR _ _ hQ)
  | error hx => exact .error (fails_within.2 hx)

end Mirrors

end TagTemplate.Step
