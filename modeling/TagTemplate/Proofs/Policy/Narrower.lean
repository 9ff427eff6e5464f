import TagTemplate.Compile.Template
import TagTemplate.Proofs.Lockstep

namespace TagTemplate

def Privilege.named : List Privilege :=
  [.tag, .modifier, .hostFunction, .hostModifier, .staticClass, .superGlobals, .constants]

/-- Rules that differ in the policy alone, where the first allow no name that the second refuse. -/
structure Rules.Narrower (r r' : Rules) : Prop where
  config : r'.config = r.config
  allows : ∀ kind ∈ Privilege.named, ∀ name,
    r.check kind name = .ok () → r'.check kind name = .ok ()

theorem Policy.check_cases (policy : Option Policy) (kind : Privilege) (name : String) :
    check policy kind name = .ok () ∨
      check policy kind name = .error (Fault.policy kind name) := by
  cases policy with
  | none => exact .inl rfl
  | some p =>
    rw [check]
    split
    · exact .inl rfl
    · exact .inr rfl

theorem Privilege.isRefusal_of_named {kind : Privilege} (h : kind ∈ named) (name : String) :
    (Fault.policy kind name : CompileError).isRefusal = true := by
  cases kind <;> first | rfl | simp [named] at h

namespace Rules.Narrower

variable {r r' : Rules}

theorem refl (r : Rules) : r.Narrower r := ⟨rfl, fun _ _ _ h => h⟩

theorem check (h : r.Narrower r') {kind : Privilege} (hkind : kind ∈ Privilege.named)
    (name : String) : Follows (r.check kind name) (r'.check kind name) := by
  obtain hok | herror := Policy.check_cases r.policy kind name
  · exact .inl ((h.allows kind hkind name hok).trans hok.symm)
  · exact .inr ⟨_, herror, Privilege.isRefusal_of_named hkind name⟩

theorem checkSuperGlobals (h : r.Narrower r') :
    Follows (Policy.checkSuperGlobals r.policy) (Policy.checkSuperGlobals r'.policy) :=
  h.check (by decide) "super globals"

theorem checkConstants (h : r.Narrower r') :
    Follows (Policy.checkConstants r.policy) (Policy.checkConstants r'.policy) :=
  h.check (by decide) "constants"

theorem special (h : r.Narrower r') (name : String) (member : Option String) :
    Follows (Special.compile r name member) (Special.compile r' name member) := by
  simp only [Special.compile, h.config]
  split
  · exact h.checkSuperGlobals.bind fun _ => .refl _
  · split <;> first | exact .refl _ | exact h.checkConstants.bind fun _ => .refl _

end Rules.Narrower

def Plugins.Stable (R : Plugins → Plugins → Prop) : Prop :=
  ∀ s t name p, R s t → R (s.insertNew name p) (t.insertNew name p)

theorem Plugins.stable_true : Plugins.Stable fun _ _ => True := fun _ _ _ _ _ => trivial

section Lockstep

open Step

variable {r r' : Rules} {R : Plugins → Plugins → Prop}

theorem lockstep_callPlugin (hR : Plugins.Stable R) (name value : String) (args : List String) :
    Lockstep R Eq (callPlugin name value args) (callPlugin name value args) := by
  refine lockstep_bind_eq (lockstep_modify fun s t hst => hR s t _ _ hst) fun _ => ?_
  exact lockstep_pure rfl

theorem lockstep_applyModifier (h : r.Narrower r') (hR : Plugins.Stable R)
    (name value : String) (args : List String) :
    Lockstep R Eq (applyModifier r name value args) (applyModifier r' name value args) := by
  unfold applyModifier
  rw [h.config]
  split
  · exact lockstep_pure rfl
  split
  · split
    · exact lockstep_pure rfl
    · exact lockstep_callPlugin hR name value args
  split
  · exact lockstep_callPlugin hR name value args
  · refine lockstep_bind_eq (lockstep_ofExcept (h.check (by decide) name)) fun _ => ?_
    exact lockstep_pure rfl

mutual

theorem Expr.lockstep_compile (h : r.Narrower r') (hR : Plugins.Stable R) :
    (e : Expr) → Lockstep R Eq (e.compile r) (e.compile r')
  | .code text => by
    rw [Expr.compile, Expr.compile]
    exact lockstep_pure rfl
  | .special name member => by
    rw [Expr.compile, Expr.compile]
    exact lockstep_ofExcept (h.special name member)
  | .call function args => by
    rw [Expr.compile, Expr.compile]
    refine lockstep_bind_eq (lockstep_ofExcept (h.check (by decide) function)) fun _ => ?_
    refine lockstep_bind_eq (Expr.lockstep_compileAll h hR args) fun codes => ?_
    exact lockstep_pure rfl
  | .static className member => by
    rw [Expr.compile, Expr.compile]
    refine lockstep_bind_eq (lockstep_ofExcept (h.check (by decide) className)) fun _ => ?_
    exact lockstep_pure rfl
  | .modified value modifiers => by
    rw [Expr.compile, Expr.compile]
    refine lockstep_bind_eq (Expr.lockstep_compile h hR value) fun code => ?_
    exact Modifier.lockstep_compileAll h hR code modifiers

theorem Expr.lockstep_compileAll (h : r.Narrower r') (hR : Plugins.Stable R) :
    (es : List Expr) → Lockstep R Eq (Expr.compileAll r es) (Expr.compileAll r' es)
  | [] => by
    rw [Expr.compileAll, Expr.compileAll]
    exact lockstep_pure rfl
  | e :: es => by
    rw [Expr.compileAll, Expr.compileAll]
    refine lockstep_bind_eq (Expr.lockstep_compile h hR e) fun code => ?_
    refine lockstep_bind_eq (Expr.lockstep_compileAll h hR es) fun codes => ?_
    exact lockstep_pure rfl

theorem Modifier.lockstep_compile (h : r.Narrower r') (hR : Plugins.Stable R) (value : String) :
    (m : Modifier) → Lockstep R Eq (m.compile r value) (m.compile r' value)
  | ⟨name, args⟩ => by
    rw [Modifier.compile, Modifier.compile]
    refine lockstep_bind_eq (lockstep_ofExcept (h.check (by decide) name)) fun _ => ?_
    refine lockstep_bind_eq (Expr.lockstep_compileAll h hR args) fun codes => ?_
    exact lockstep_applyModifier h hR name value codes

theorem Modifier.lockstep_compileAll (h : r.Narrower r') (hR : Plugins.Stable R)
    (value : String) : (ms : List Modifier) → Lockstep R Eq (Modifier.compileAll r value ms)
      (Modifier.compileAll r' value ms)
  | [] => by
    rw [Modifier.compileAll, Modifier.compileAll]
    exact lockstep_pure rfl
  | m :: ms => by
    rw [Modifier.compileAll, Modifier.compileAll]
    refine lockstep_bind_eq (Modifier.lockstep_compile h hR value m) fun code => ?_
    exact Modifier.lockstep_compileAll h hR code ms

end

theorem Assignment.lockstep_compile (h : r.Narrower r') (hR : Plugins.Stable R) (a : Assignment) :
    Lockstep R Eq (a.compile r) (a.compile r') := by
  refine lockstep_bind_eq (a.value.lockstep_compile h hR) fun code => ?_
  exact lockstep_pure rfl

theorem ArgValue.lockstep_compile (h : r.Narrower r') (hR : Plugins.Stable R) (v : ArgValue) :
    Lockstep R Eq (v.compile r) (v.compile r') := by
  cases v with
  | expr e =>
    refine lockstep_bind_eq (e.lockstep_compile h hR) fun code => ?_
    exact lockstep_pure rfl
  | flag b => exact lockstep_pure rfl
  | assign a =>
    refine lockstep_bind_eq (a.lockstep_compile h hR) fun assignment => ?_
    exact lockstep_pure rfl
  | assigns as =>
    refine lockstep_bind_eq (lockstep_mapM as fun a _ => a.lockstep_compile h hR)
      fun assignments => ?_
    exact lockstep_pure rfl

theorem TagArg.lockstep_compile (h : r.Narrower r') (hR : Plugins.Stable R) (a : TagArg) :
    Lockstep R Eq (a.compile r) (a.compile r') := by
  cases a with
  | named name v =>
    refine lockstep_bind_eq (v.lockstep_compile h hR) fun value => ?_
    exact lockstep_pure rfl
  | flag name => exact lockstep_pure rfl
  | positional v =>
    refine lockstep_bind_eq (v.lockstep_compile h hR) fun value => ?_
    exact lockstep_pure rfl

theorem TagArg.yields_mapM_compile {args : List TagArg} {codes : List Arg}
    {plugins plugins' : Plugins}
    (h : (args.mapM (TagArg.compile r)).Yields plugins codes plugins') (other : Plugins) :
    ∃ other', (args.mapM (TagArg.compile r)).Yields other codes other' := by
  have hstep := lockstep_mapM args fun a _ => a.lockstep_compile (.refl r) Plugins.stable_true
  obtain ⟨_, other', hother, rfl, -⟩ := hstep.yields (trivial : True) h
  exact ⟨other', hother⟩

end Lockstep

end TagTemplate
