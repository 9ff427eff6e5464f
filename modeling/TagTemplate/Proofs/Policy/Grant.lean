import TagTemplate.Proofs.Compile.Steps
import TagTemplate.Proofs.Policy.Narrower

namespace TagTemplate

variable {r : Rules} {plugins plugins' : Plugins}

inductive Expr.Within (e : Expr) : Expr → Prop
  | self : Within e e
  | argument {function args a} : a ∈ args → Within e a → Within e (.call function args)
  | value {value modifiers} : Within e value → Within e (.modified value modifiers)
  | modifierArgument {value modifiers m a} : m ∈ modifiers → a ∈ m.args → Within e a →
      Within e (.modified value modifiers)

structure Special.Allowed (r : Rules) (name : String) : Prop where
  superGlobals : requestNames.contains (Text.stripQuotes name) = true →
    Policy.checkSuperGlobals r.policy = .ok ()
  constants : Text.stripQuotes name = "const" → Policy.checkConstants r.policy = .ok ()

/-- A modifier that neither has code of its own nor is a plugin is a function of the host. -/
structure Modifier.Allowed (r : Rules) (name : String) : Prop where
  named : r.check .modifier name = .ok ()
  host : name ≠ "default" → name ≠ "escape" → r.config.isPlugin name = false →
    r.check .hostModifier name = .ok ()

def Expr.Allowed (r : Rules) : Expr → Prop
  | .code _ => True
  | .special name _ => Special.Allowed r name
  | .call function _ => r.check .hostFunction function = .ok ()
  | .static className _ => r.check .staticClass className = .ok ()
  | .modified _ modifiers => ∀ m ∈ modifiers, Modifier.Allowed r m.name

def Expr.Granted (r : Rules) (e : Expr) : Prop := ∀ part : Expr, part.Within e → part.Allowed r

theorem Special.allowed_of_compile {name code : String} {member : Option String}
    (h : Special.compile r name member = .ok code) : Special.Allowed r name := by
  simp only [Special.compile] at h
  split at h
  next hrequest =>
    constructor
    · intro _
      cases hcheck : Policy.checkSuperGlobals r.policy with
      | ok u => rfl
      | error e =>
        rw [hcheck] at h
        cases h
    · intro hconst
      rw [hconst] at hrequest
      exact absurd hrequest (by decide)
  next hrequest =>
    constructor
    · intro h
      exact absurd h hrequest
    · intro hconst
      rw [hconst] at h
      cases hcheck : Policy.checkConstants r.policy with
      | ok u => rfl
      | error e =>
        simp only [hcheck] at h
        cases h

theorem Modifier.allowed_of_apply {name value code : String} {args : List String}
    (hnamed : r.check .modifier name = .ok ())
    (h : (applyModifier r name value args).Yields plugins code plugins') :
    Modifier.Allowed r name := by
  refine ⟨hnamed, fun hdefault hescape hplugin => ?_⟩
  rw [applyModifier, if_neg hdefault, if_neg hescape, hplugin, if_neg Bool.false_ne_true] at h
  obtain ⟨_, _, hhost, _⟩ := Step.yields_bind.1 h
  exact (Step.yields_ofExcept.1 hhost).1

theorem Expr.granted_code (text : String) : Expr.Granted r (.code text) := by
  intro part h
  cases h
  trivial

theorem Expr.granted_special {name : String} {member : Option String}
    (h : Special.Allowed r name) : Expr.Granted r (.special name member) := by
  intro part hp
  cases hp
  exact h

theorem Expr.granted_static {className member : String}
    (h : r.check .staticClass className = .ok ()) :
    Expr.Granted r (.static className member) := by
  intro part hp
  cases hp
  exact h

theorem Expr.granted_call {function : String} {args : List Expr}
    (h : r.check .hostFunction function = .ok ()) (hargs : ∀ a ∈ args, a.Granted r) :
    Expr.Granted r (.call function args) := by
  intro part hp
  cases hp with
  | self => exact h
  | argument ha hp => exact hargs _ ha part hp

theorem Expr.granted_modified {value : Expr} {modifiers : List Modifier} (h : value.Granted r)
    (hmodifiers : ∀ m ∈ modifiers, Modifier.Allowed r m.name ∧ ∀ a ∈ m.args, a.Granted r) :
    Expr.Granted r (.modified value modifiers) := by
  intro part hp
  cases hp with
  | self => exact fun m hm => (hmodifiers m hm).1
  | value hp => exact h part hp
  | modifierArgument hm ha hp => exact (hmodifiers _ hm).2 _ ha part hp

mutual

theorem Expr.granted_of_compile {code : String} {plugins plugins' : Plugins} : (e : Expr) →
    (e.compile r).Yields plugins code plugins' → e.Granted r
  | .code text, _ => Expr.granted_code text
  | .special name member, h => by
    rw [Expr.compile, Step.yields_ofExcept] at h
    exact Expr.granted_special (Special.allowed_of_compile h.1)
  | .call function args, h => by
    rw [Expr.compile] at h
    simp only [Step.yields_bind, Step.yields_ofExcept] at h
    obtain ⟨_, _, ⟨hcheck, _⟩, codes, _, hargs, _⟩ := h
    exact Expr.granted_call hcheck (Expr.granted_of_compileAll args hargs)
  | .static className member, h => by
    rw [Expr.compile] at h
    simp only [Step.yields_bind, Step.yields_ofExcept] at h
    obtain ⟨_, _, ⟨hcheck, _⟩, _⟩ := h
    exact Expr.granted_static hcheck
  | .modified value modifiers, h => by
    rw [Expr.compile, Step.yields_bind] at h
    obtain ⟨code, _, hvalue, hmodifiers⟩ := h
    exact Expr.granted_modified (Expr.granted_of_compile value hvalue)
      (Modifier.granted_of_compileAll modifiers hmodifiers)

theorem Expr.granted_of_compileAll {codes : List String} {plugins plugins' : Plugins} :
    (es : List Expr) → (Expr.compileAll r es).Yields plugins codes plugins' →
    ∀ e ∈ es, e.Granted r
  | [], _ => nofun
  | e :: es, h => by
    rw [Expr.compileAll] at h
    simp only [Step.yields_bind] at h
    obtain ⟨code, _, he, codes, _, hes, _⟩ := h
    rw [List.forall_mem_cons]
    exact ⟨Expr.granted_of_compile e he, Expr.granted_of_compileAll es hes⟩

theorem Modifier.granted_of_compile {value code : String} {plugins plugins' : Plugins} :
    (m : Modifier) → (m.compile r value).Yields plugins code plugins' →
    Modifier.Allowed r m.name ∧ ∀ a ∈ m.args, a.Granted r
  | ⟨name, args⟩, h => by
    rw [Modifier.compile] at h
    simp only [Step.yields_bind, Step.yields_ofExcept] at h
    obtain ⟨_, _, ⟨hnamed, _⟩, codes, _, hargs, happly⟩ := h
    exact ⟨Modifier.allowed_of_apply hnamed happly, Expr.granted_of_compileAll args hargs⟩

theorem Modifier.granted_of_compileAll {value code : String} {plugins plugins' : Plugins} :
    (ms : List Modifier) → (Modifier.compileAll r value ms).Yields plugins code plugins' →
    ∀ m ∈ ms, Modifier.Allowed r m.name ∧ ∀ a ∈ m.args, a.Granted r
  | [], _ => nofun
  | m :: ms, h => by
    rw [Modifier.compileAll, Step.yields_bind] at h
    obtain ⟨code, _, hm, hms⟩ := h
    rw [List.forall_mem_cons]
    exact ⟨Modifier.granted_of_compile m hm, Modifier.granted_of_compileAll ms hms⟩

end

def ArgValue.exprs : ArgValue → List Expr
  | .assign a => [a.value]
  | .assigns as => as.map Assignment.value
  | .flag _ => []
  | .expr e => [e]

def TagArg.exprs : TagArg → List Expr
  | .named _ v | .positional v => v.exprs
  | .flag _ => []

theorem Assignment.granted_of_compile {a : Assignment} {code : CodeAssignment}
    (h : (a.compile r).Yields plugins code plugins') : a.value.Granted r := by
  obtain ⟨value, _, hvalue, -⟩ := Step.yields_bind.1 h
  exact Expr.granted_of_compile a.value hvalue

theorem ArgValue.granted_of_compile {v : ArgValue} {value : AttrValue}
    (h : (v.compile r).Yields plugins value plugins') : ∀ e ∈ v.exprs, e.Granted r := by
  cases v with
  | expr e =>
    obtain ⟨code, _, he, -⟩ := Step.yields_bind.1 h
    simpa [exprs] using Expr.granted_of_compile e he
  | flag b => nofun
  | assign a =>
    obtain ⟨assignment, _, ha, -⟩ := Step.yields_bind.1 h
    simpa [exprs] using Assignment.granted_of_compile ha
  | assigns as =>
    obtain ⟨assignments, _, has, -⟩ := Step.yields_bind.1 h
    simpa [exprs] using Step.forall_of_yields_mapM Assignment.granted_of_compile has

theorem TagArg.granted_of_compile {a : TagArg} {arg : Arg}
    (h : (a.compile r).Yields plugins arg plugins') : ∀ e ∈ a.exprs, e.Granted r := by
  cases a with
  | named name v =>
    obtain ⟨value, _, hv, -⟩ := Step.yields_bind.1 h
    exact ArgValue.granted_of_compile hv
  | flag name => nofun
  | positional v =>
    obtain ⟨value, _, hv, -⟩ := Step.yields_bind.1 h
    exact ArgValue.granted_of_compile hv

def Node.exprs : Node → List Expr
  | .text _ => []
  | .print value _ => [value]
  | .tag t => t.args.flatMap TagArg.exprs

/-- The tag of a special variable names it by the code of an argument, which does not depend on the
plugins known before. -/
def Tag.Names (r : Rules) (t : Tag) (name : String) : Prop :=
  ∃ args attrs var, (∀ plugins, ∃ plugins',
      (t.args.mapM (TagArg.compile r)).Yields plugins args plugins') ∧
    Attributes.resolve Special.contract args = .ok attrs ∧
    attrs.requireCode "var" = .ok var ∧ name = (Text.unquote var).getD var

structure Tag.Allowed (r : Rules) (t : Tag) : Prop where
  named : r.check .tag (dispatchName t.name) = .ok ()
  special : dispatchName t.name = "private_special_variable" →
    ∃ name, t.Names r name ∧ Special.Allowed r name

structure Node.Granted (r : Rules) (n : Node) : Prop where
  tags : ∀ t, n = .tag t → t.Allowed r
  exprs : ∀ e ∈ n.exprs, e.Granted r

end TagTemplate
