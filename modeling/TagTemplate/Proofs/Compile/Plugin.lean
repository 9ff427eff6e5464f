import TagTemplate.Proofs.Compile.Gathering
import TagTemplate.Proofs.Policy.Grant

namespace TagTemplate

variable {r : Rules} {plugins plugins' : Plugins}

/-! Modifiers that call plugins -/

def Escape.types : List String := ["html", "htmlall", "url", "urlpathinfo", "quotes", "javascript"]

theorem Escape.fixed?_eq_none {config : Config} {type value charset double : String} :
    fixed? config type value charset double = none ↔ type ∉ types := by
  unfold fixed?
  split <;> simp_all [types]
  split <;> simp

def Escape.Unknown (codes : List String) : Prop :=
  ∃ code ∈ codes.head?, ∀ type ∈ Text.unquote code, type ∉ types

theorem Escape.compile?_eq_none {config : Config} {value : String} {codes : List String} :
    compile? config value codes = none ↔ Unknown codes := by
  rw [compile?, Option.bind_eq_none_iff]
  simp only [fixed?_eq_none]
  cases codes with
  | nil => simp [type?, Unknown, types]
  | cons code codes => simp [type?, Unknown]

def AppliesPlugin (r : Rules) (name : String) (codes : List String) : Prop :=
  (name ≠ "default" ∧ name ≠ "escape" ∧ r.config.isPlugin name = true) ∨
    (name = "escape" ∧ Escape.Unknown codes)

def Plugin.modifier (name : String) : Plugin := ⟨"modifier", pluginFunction name⟩

theorem yields_callPlugin {name value code : String} {codes : List String} :
    (callPlugin name value codes).Yields plugins code plugins' ↔
      code = Code.call (pluginFunction name) (value :: codes) ∧
        plugins' = plugins.insertNew name (.modifier name) := by
  rw [callPlugin, Step.yields_modify_bind, Step.yields_pure]
  rfl

theorem applyModifier_cases {name value code : String} {codes : List String}
    (h : (applyModifier r name value codes).Yields plugins code plugins') :
    (AppliesPlugin r name codes ∧ code = Code.call (pluginFunction name) (value :: codes) ∧
      plugins' = plugins.insertNew name (.modifier name)) ∨
    (¬ AppliesPlugin r name codes ∧ plugins' = plugins) := by
  unfold applyModifier at h
  split at h
  next hdefault =>
    subst hdefault
    exact .inr ⟨by simp [AppliesPlugin], (Step.yields_pure.1 h).2⟩
  next hdefault =>
    split at h
    next hescape =>
      subst hescape
      cases hfixed : Escape.compile? r.config value codes with
      | some fixed =>
        simp only [hfixed] at h
        have hknown : ¬ Escape.Unknown codes := by
          intro hunknown
          rw [Escape.compile?_eq_none.2 hunknown] at hfixed
          cases hfixed
        exact .inr ⟨by simp [AppliesPlugin, hknown], (Step.yields_pure.1 h).2⟩
      | none =>
        simp only [hfixed] at h
        exact .inl ⟨.inr ⟨rfl, Escape.compile?_eq_none.1 hfixed⟩, yields_callPlugin.1 h⟩
    next hescape =>
      split at h
      next hplugin => exact .inl ⟨.inl ⟨hdefault, hescape, hplugin⟩, yields_callPlugin.1 h⟩
      next hplugin =>
        simp only [Step.yields_bind, Step.yields_ofExcept, Step.yields_pure] at h
        obtain ⟨_, _, ⟨-, rfl⟩, -, rfl⟩ := h
        exact .inr ⟨by simp [AppliesPlugin, hescape, hplugin], rfl⟩

theorem applyModifier_eq_callPlugin_iff {name : String} {codes : List String} :
    (∀ value, applyModifier r name value codes = callPlugin name value codes) ↔
      AppliesPlugin r name codes := by
  constructor
  · intro heq
    have hcall : (callPlugin name "" codes).Yields .empty _ _ := yields_callPlugin.2 ⟨rfl, rfl⟩
    rw [← heq] at hcall
    obtain ⟨happlies, -⟩ | ⟨-, hsame⟩ := applyModifier_cases hcall
    · exact happlies
    · cases hsame
  · rintro (⟨hdefault, hescape, hplugin⟩ | ⟨rfl, hunknown⟩) value
    · rw [applyModifier, if_neg hdefault, if_neg hescape, if_pos hplugin]
    · rw [applyModifier, if_neg (by decide), if_pos rfl, Escape.compile?_eq_none.2 hunknown]

/-! The code of an expression does not depend on the plugins known before. -/

def Expr.CompilesTo (r : Rules) (e : Expr) (code : String) : Prop :=
  ∀ plugins, ∃ plugins', (e.compile r).Yields plugins code plugins'

def Expr.AllCompileTo (r : Rules) (es : List Expr) (codes : List String) : Prop :=
  ∀ plugins, ∃ plugins', (Expr.compileAll r es).Yields plugins codes plugins'

theorem Expr.compilesTo_of_yields {e : Expr} {code : String}
    (h : (e.compile r).Yields plugins code plugins') : e.CompilesTo r code := by
  intro other
  have hstep := e.lockstep_compile (.refl r) Plugins.stable_true
  obtain ⟨_, other', hother, rfl, -⟩ := hstep.yields (trivial : True) h
  exact ⟨other', hother⟩

theorem Expr.allCompileTo_of_yields {es : List Expr} {codes : List String}
    (h : (Expr.compileAll r es).Yields plugins codes plugins') : AllCompileTo r es codes := by
  intro other
  have hstep := Expr.lockstep_compileAll (.refl r) Plugins.stable_true es
  obtain ⟨_, other', hother, rfl, -⟩ := hstep.yields (trivial : True) h
  exact ⟨other', hother⟩

/-! Modifiers that are plugins -/

def Modifier.CallsPlugin (r : Rules) (m : Modifier) : Prop :=
  ∃ codes, Expr.AllCompileTo r m.args codes ∧
    ∀ value, applyModifier r m.name value codes = callPlugin m.name value codes

/-- A modifier is a plugin if the settings list it and it has no code of its own. An escape is one
if it has a first argument that is no literal of a known type. -/
def Modifier.IsPlugin (r : Rules) (m : Modifier) : Prop :=
  (m.name ≠ "default" ∧ m.name ≠ "escape" ∧ r.config.isPlugin m.name = true) ∨
    (m.name = "escape" ∧ ∃ first ∈ m.args.head?, ∃ code, first.CompilesTo r code ∧
      ∀ type ∈ Text.unquote code, type ∉ Escape.types)

def Rules.Tells (r : Rules) (Q : Modifier → Prop) : Prop :=
  ∀ m plugins codes plugins', (Expr.compileAll r m.args).Yields plugins codes plugins' →
    (Q m ↔ AppliesPlugin r m.name codes)

theorem Rules.tells_callsPlugin (r : Rules) : r.Tells (Modifier.CallsPlugin r) := by
  intro m plugins codes plugins' h
  simp only [Modifier.CallsPlugin, applyModifier_eq_callPlugin_iff]
  constructor
  · rintro ⟨codes', hcodes', happlies⟩
    obtain ⟨_, hcodes'⟩ := hcodes' plugins
    rwa [(hcodes'.unique h).1] at happlies
  · exact fun happlies => ⟨codes, Expr.allCompileTo_of_yields h, happlies⟩

theorem Rules.tells_isPlugin (r : Rules) : r.Tells (Modifier.IsPlugin r) := by
  intro m plugins codes plugins' h
  refine or_congr_right (and_congr_right fun _ => ?_)
  cases hargs : m.args with
  | nil =>
    rw [hargs, Expr.compileAll] at h
    rw [(Step.yields_pure.1 h).1]
    simp [Escape.Unknown]
  | cons first rest =>
    rw [hargs, Expr.compileAll] at h
    simp only [Step.yields_bind, Step.yields_pure] at h
    obtain ⟨code, _, hfirst, codes, _, -, rfl, -⟩ := h
    constructor
    · rintro ⟨_, ⟨⟩, code', hcode', htypes⟩
      obtain ⟨_, hcode'⟩ := hcode' plugins
      rw [(hcode'.unique hfirst).1] at htypes
      exact ⟨code, rfl, htypes⟩
    · rintro ⟨_, ⟨⟩, htypes⟩
      exact ⟨first, rfl, code, Expr.compilesTo_of_yields hfirst, htypes⟩

theorem Modifier.CallsPlugin.code_eq {m : Modifier} (hm : m.CallsPlugin r) {value code : String}
    (h : (m.compile r value).Yields plugins code plugins') :
    ∃ codes, code = Code.call (pluginFunction m.name) (value :: codes) := by
  obtain ⟨name, args⟩ := m
  rw [Modifier.compile] at h
  simp only [Step.yields_bind] at h
  obtain ⟨_, _, -, codes, _, hargs, happly⟩ := h
  have happlies := (r.tells_callsPlugin _ _ _ _ hargs).1 hm
  obtain ⟨-, hcode, -⟩ | ⟨hnot, -⟩ := applyModifier_cases happly
  · exact ⟨codes, hcode⟩
  · exact absurd happlies hnot

/-! Expressions -/

def Modifier.In (m : Modifier) (e : Expr) : Prop :=
  ∃ value modifiers, (Expr.modified value modifiers).Within e ∧ m ∈ modifiers

namespace Modifier

variable {m : Modifier}

theorem not_in_code (text : String) : ¬ m.In (.code text) := by
  rintro ⟨value, modifiers, hwithin, -⟩
  cases hwithin

theorem not_in_special (name : String) (member : Option String) :
    ¬ m.In (.special name member) := by
  rintro ⟨value, modifiers, hwithin, -⟩
  cases hwithin

theorem not_in_static (className member : String) : ¬ m.In (.static className member) := by
  rintro ⟨value, modifiers, hwithin, -⟩
  cases hwithin

theorem in_call {function : String} {args : List Expr} :
    m.In (.call function args) ↔ ∃ a ∈ args, m.In a := by
  constructor
  · rintro ⟨value, modifiers, hwithin, hm⟩
    cases hwithin with
    | argument ha hwithin => exact ⟨_, ha, value, modifiers, hwithin, hm⟩
  · rintro ⟨a, ha, value, modifiers, hwithin, hm⟩
    exact ⟨value, modifiers, .argument ha hwithin, hm⟩

theorem in_modified {value : Expr} {modifiers : List Modifier} :
    m.In (.modified value modifiers) ↔
      m.In value ∨ ∃ n ∈ modifiers, m = n ∨ ∃ a ∈ n.args, m.In a := by
  constructor
  · rintro ⟨value', modifiers', hwithin, hm⟩
    cases hwithin with
    | self => exact .inr ⟨m, hm, .inl rfl⟩
    | value hwithin => exact .inl ⟨value', modifiers', hwithin, hm⟩
    | modifierArgument hn ha hwithin =>
      exact .inr ⟨_, hn, .inr ⟨_, ha, value', modifiers', hwithin, hm⟩⟩
  · rintro (⟨value', modifiers', hwithin, hm⟩ | ⟨n, hn, rfl | ⟨a, ha, hargument⟩⟩)
    · exact ⟨value', modifiers', .value hwithin, hm⟩
    · exact ⟨value, modifiers, .self, hn⟩
    · obtain ⟨value', modifiers', hwithin, hm⟩ := hargument
      exact ⟨value', modifiers', .modifierArgument hn ha hwithin, hm⟩

end Modifier

def Expr.Requires (Q : Modifier → Prop) (e : Expr) (name : String) (p : Plugin) : Prop :=
  ∃ m : Modifier, m.In e ∧ Q m ∧ name = m.name ∧ p = .modifier m.name

def Modifier.Requires (Q : Modifier → Prop) (m : Modifier) (name : String) (p : Plugin) : Prop :=
  (∃ a ∈ m.args, a.Requires Q name p) ∨ Q m ∧ name = m.name ∧ p = .modifier m.name

variable {Q : Modifier → Prop}

theorem Expr.requires_call {function : String} {args : List Expr} {name : String} {p : Plugin} :
    (Expr.call function args).Requires Q name p ↔ ∃ a ∈ args, a.Requires Q name p := by
  simp only [Requires, Modifier.in_call]
  grind

theorem Expr.requires_modified {value : Expr} {modifiers : List Modifier} {name : String}
    {p : Plugin} : (Expr.modified value modifiers).Requires Q name p ↔
      value.Requires Q name p ∨ ∃ m ∈ modifiers, m.Requires Q name p := by
  simp only [Requires, Modifier.Requires, Modifier.in_modified]
  grind

theorem gains_applyModifier {name value code : String} {codes : List String}
    (h : (applyModifier r name value codes).Yields plugins code plugins') :
    plugins.Gains (fun n p => AppliesPlugin r name codes ∧ n = name ∧ p = .modifier name)
      plugins' := by
  obtain ⟨hcalls, -, rfl⟩ | ⟨hnot, rfl⟩ := applyModifier_cases h
  · exact (Table.Gains.insertNew _ _ _).congr (by simp [hcalls])
  · exact (Table.Gains.refl _).congr (by simp [hnot])

mutual

theorem Expr.gains_compile (hQ : r.Tells Q) {code : String} {plugins plugins' : Plugins} :
    (e : Expr) → (e.compile r).Yields plugins code plugins' → plugins.Gains (e.Requires Q) plugins'
  | .code text, h => by
    rw [Expr.compile] at h
    rw [(Step.yields_pure.1 h).2]
    exact (Table.Gains.refl _).congr (by simp [Expr.Requires, Modifier.not_in_code])
  | .special name member, h => by
    rw [Expr.compile] at h
    rw [(Step.yields_ofExcept.1 h).2]
    exact (Table.Gains.refl _).congr (by simp [Expr.Requires, Modifier.not_in_special])
  | .call function args, h => by
    rw [Expr.compile] at h
    simp only [Step.yields_bind, Step.yields_ofExcept, Step.yields_pure] at h
    obtain ⟨_, _, ⟨-, rfl⟩, codes, _, hargs, -, rfl⟩ := h
    exact (Expr.gains_compileAll hQ args hargs).congr fun _ _ => Expr.requires_call.symm
  | .static className member, h => by
    rw [Expr.compile] at h
    simp only [Step.yields_bind, Step.yields_ofExcept, Step.yields_pure] at h
    obtain ⟨_, _, ⟨-, rfl⟩, -, rfl⟩ := h
    exact (Table.Gains.refl _).congr (by simp [Expr.Requires, Modifier.not_in_static])
  | .modified value modifiers, h => by
    rw [Expr.compile, Step.yields_bind] at h
    obtain ⟨code, _, hvalue, hmodifiers⟩ := h
    exact ((Expr.gains_compile hQ value hvalue).trans
      (Modifier.gains_compileAll hQ modifiers hmodifiers)).congr fun _ _ =>
        Expr.requires_modified.symm

theorem Expr.gains_compileAll (hQ : r.Tells Q) {codes : List String} {plugins plugins' : Plugins} :
    (es : List Expr) → (Expr.compileAll r es).Yields plugins codes plugins' →
    plugins.Gains (fun name p => ∃ e ∈ es, e.Requires Q name p) plugins'
  | [], h => by
    rw [Expr.compileAll] at h
    rw [(Step.yields_pure.1 h).2]
    exact (Table.Gains.refl _).congr (by simp)
  | e :: es, h => by
    rw [Expr.compileAll] at h
    simp only [Step.yields_bind, Step.yields_pure] at h
    obtain ⟨code, _, he, codes, _, hes, -, rfl⟩ := h
    exact ((Expr.gains_compile hQ e he).trans (Expr.gains_compileAll hQ es hes)).congr (by simp)

theorem Modifier.gains_compile (hQ : r.Tells Q) {value code : String} {plugins plugins' : Plugins} :
    (m : Modifier) → (m.compile r value).Yields plugins code plugins' →
    plugins.Gains (m.Requires Q) plugins'
  | ⟨name, args⟩, h => by
    rw [Modifier.compile] at h
    simp only [Step.yields_bind, Step.yields_ofExcept] at h
    obtain ⟨_, _, ⟨-, rfl⟩, codes, _, hargs, happly⟩ := h
    refine ((Expr.gains_compileAll hQ args hargs).trans (gains_applyModifier happly)).congr
      fun n p => ?_
    rw [Modifier.Requires, hQ _ _ _ _ hargs]

theorem Modifier.gains_compileAll (hQ : r.Tells Q) {value code : String}
    {plugins plugins' : Plugins} :
    (ms : List Modifier) → (Modifier.compileAll r value ms).Yields plugins code plugins' →
    plugins.Gains (fun name p => ∃ m ∈ ms, m.Requires Q name p) plugins'
  | [], h => by
    rw [Modifier.compileAll] at h
    rw [(Step.yields_pure.1 h).2]
    exact (Table.Gains.refl _).congr (by simp)
  | m :: ms, h => by
    rw [Modifier.compileAll, Step.yields_bind] at h
    obtain ⟨code, _, hm, hms⟩ := h
    have hgains := (Modifier.gains_compile hQ m hm).trans (Modifier.gains_compileAll hQ ms hms)
    exact hgains.congr (by simp)

end

/-! Arguments of tags and nodes -/

theorem Step.gains_mapM {κ α β γ : Type} [DecidableEq κ] {f : β → Step (Table κ α) γ}
    {new : β → κ → α → Prop}
    (hf : ∀ {b t c t'}, (f b).Yields t c t' → t.Gains (new b) t') {bs : List β}
    {t t' : Table κ α} {cs : List γ} (h : (bs.mapM f).Yields t cs t') :
    t.Gains (fun k a => ∃ b ∈ bs, new b k a) t' := by
  induction bs generalizing t cs with
  | nil =>
    rw [(Step.yields_mapM_nil.1 h).2]
    exact (Table.Gains.refl t).congr (by simp)
  | cons b bs ih =>
    obtain ⟨c, t₁, cs, hb, hbs, -⟩ := Step.yields_mapM_cons.1 h
    exact ((hf hb).trans (ih hbs)).congr (by simp)

def RequiredBy (Q : Modifier → Prop) (es : List Expr) (name : String) (p : Plugin) : Prop :=
  ∃ e ∈ es, e.Requires Q name p

theorem Assignment.gains_compile (hQ : r.Tells Q) {a : Assignment} {code : CodeAssignment}
    (h : (a.compile r).Yields plugins code plugins') :
    plugins.Gains (a.value.Requires Q) plugins' := by
  obtain ⟨value, _, hvalue, hpure⟩ := Step.yields_bind.1 h
  rw [(Step.yields_pure.1 hpure).2]
  exact Expr.gains_compile hQ a.value hvalue

theorem ArgValue.gains_compile (hQ : r.Tells Q) {v : ArgValue} {value : AttrValue}
    (h : (v.compile r).Yields plugins value plugins') :
    plugins.Gains (RequiredBy Q v.exprs) plugins' := by
  cases v with
  | expr e =>
    obtain ⟨code, _, he, hpure⟩ := Step.yields_bind.1 h
    rw [(Step.yields_pure.1 hpure).2]
    exact (Expr.gains_compile hQ e he).congr (by simp [RequiredBy, exprs])
  | flag b =>
    rw [(Step.yields_pure.1 h).2]
    exact (Table.Gains.refl _).congr (by simp [RequiredBy, exprs])
  | assign a =>
    obtain ⟨assignment, _, ha, hpure⟩ := Step.yields_bind.1 h
    rw [(Step.yields_pure.1 hpure).2]
    exact (Assignment.gains_compile hQ ha).congr (by simp [RequiredBy, exprs])
  | assigns as =>
    obtain ⟨assignments, _, has, hpure⟩ := Step.yields_bind.1 h
    rw [(Step.yields_pure.1 hpure).2]
    exact (Step.gains_mapM (Assignment.gains_compile hQ) has).congr (by simp [RequiredBy, exprs])

theorem TagArg.gains_compile (hQ : r.Tells Q) {a : TagArg} {arg : Arg}
    (h : (a.compile r).Yields plugins arg plugins') :
    plugins.Gains (RequiredBy Q a.exprs) plugins' := by
  cases a with
  | named name v =>
    obtain ⟨value, _, hv, hpure⟩ := Step.yields_bind.1 h
    rw [(Step.yields_pure.1 hpure).2]
    exact ArgValue.gains_compile hQ hv
  | flag name =>
    rw [(Step.yields_pure.1 h).2]
    exact (Table.Gains.refl _).congr (by simp [RequiredBy, exprs])
  | positional v =>
    obtain ⟨value, _, hv, hpure⟩ := Step.yields_bind.1 h
    rw [(Step.yields_pure.1 hpure).2]
    exact ArgValue.gains_compile hQ hv

variable {env : Environment}

theorem Tag.Prepared.gains (hQ : env.rules.Tells Q) {t : Tag} {spec : TagSpec} {attrs : Attributes}
    (h : t.Prepared env spec attrs plugins plugins') :
    plugins.Gains (RequiredBy Q (Node.tag t).exprs) plugins' := by
  obtain ⟨args, hargs, -⟩ := h.resolved
  refine (Step.gains_mapM (TagArg.gains_compile hQ) hargs).congr fun name p => ?_
  simp only [RequiredBy, Node.exprs, List.mem_flatMap]
  grind

def Gathering.pluginTable (htags : env.tags = Registry.builtin) (hQ : env.rules.Tells Q) :
    Gathering env String Plugin where
  table := Draft.plugins
  source _ _ _ := False
  node n := RequiredBy Q n.exprs
  gains_start s inBlock := by
    unfold Draft.start
    cases s.recompiled <;> exact Table.Gains.refl _
  gains_node {n w piece w'} h := by
    cases n with
    | text content =>
      rw [(Node.yields_compile_text.1 h).2]
      exact (Table.Gains.refl _).congr (by simp [RequiredBy, Node.exprs])
    | print value line =>
      obtain ⟨code, d, hd, -, rfl⟩ := Node.yields_compile_print.1 h
      obtain ⟨fragment, plugins, -, hvalue, -, rfl⟩ := Expr.yields_compilePrint.1 hd
      exact (Expr.gains_compile hQ value hvalue).congr (by simp [RequiredBy, Node.exprs])
    | tag t =>
      obtain ⟨code, ht, -⟩ := Node.yields_compile_tag.1 h
      obtain ⟨spec, attrs, plugins, hprepared, htables⟩ := Tag.tables_compile htags ht
      have hplugins : w'.draft.plugins = plugins := congrArg Prod.snd htables
      rw [hplugins]
      exact hprepared.gains hQ
  gains_merge m d pieces p new h := (m.prepared.gains hQ).trans (Plugins.gains_merge m.plugins h)

/-! Artifacts -/

def Environment.samplePlugins : Environment := { Environment.sample none with
  rules := { config := { mergeIncludes := true, pluginModifiers := ["upper"] } }
  parse := fun s => .ok (
    if s.name = "main" then [
      .print (.modified (.code "$x") [⟨"upper", []⟩]) 1,
      .tag { name := "include", args := [.positional (.expr (.code "'part'"))] }]
    else [.print (.modified (.code "$y") [⟨"escape", [.code "$type"]⟩]) 1]) }

def Source.Uses (env : Environment) (s : Source) (m : Modifier) : Prop :=
  ∃ nodes, env.parse s = .ok nodes ∧ ∃ n ∈ nodes, ∃ e ∈ n.exprs, m.In e

variable {name : String} {inBlock : Bool} {trust trust' : TrustIndex} {a : Artifact}

theorem Compilation.gains_plugins (c : Compilation env name inBlock trust a)
    (htags : env.tags = Registry.builtin) (hQ : env.rules.Tells Q) :
    Table.empty.Gains (fun plugin p => ∃ s m, c.Involves s ∧ s.Uses env m ∧ Q m ∧
      plugin = m.name ∧ p = .modifier m.name) a.plugins := by
  obtain ⟨d, pieces, hresult, hgains⟩ := c.gains (Gathering.pluginTable htags hQ)
  have hplugins : a.plugins = d.plugins := by
    rw [c.artifact, Artifact.ofCompiled, hresult]
    rfl
  rw [hplugins]
  refine hgains.congr fun plugin p => ?_
  simp only [Gathering.Brings, Gathering.pluginTable, false_or, RequiredBy, Expr.Requires,
    Source.Uses]
  grind

theorem Compilation.mem_plugins (c : Compilation env name inBlock trust a)
    (htags : env.tags = Registry.builtin) (hQ : env.rules.Tells Q) {plugin : String} :
    plugin ∈ a.plugins.keys ↔ ∃ s m, c.Involves s ∧ s.Uses env m ∧ Q m ∧ m.name = plugin := by
  rw [(c.gains_plugins htags hQ).mem_keys]
  constructor
  · rintro (hempty | ⟨p, s, m, hs, huses, hm, rfl, -⟩)
    · cases hempty
    · exact ⟨s, m, hs, huses, hm, rfl⟩
  · rintro ⟨s, m, hs, huses, hm, rfl⟩
    exact .inr ⟨_, s, m, hs, huses, hm, rfl, rfl⟩

/-- The plugins of an artifact are those that the modifiers of its template and of the merged
templates call, each under its name. These are the modifiers that the settings list as plugins and
the escapes of no known type. -/
theorem compileArtifact_plugins (htags : env.tags = Registry.builtin)
    (h : (compileArtifact env name inBlock).Yields trust a trust') :
    ∃ c : Compilation env name inBlock trust a,
      a.plugins.keys.Nodup ∧
      (∀ plugin, plugin ∈ a.plugins.keys ↔
        ∃ s m, c.Involves s ∧ s.Uses env m ∧ m.CallsPlugin env.rules ∧ m.name = plugin) ∧
      (∀ plugin, plugin ∈ a.plugins.keys ↔
        ∃ s m, c.Involves s ∧ s.Uses env m ∧ m.IsPlugin env.rules ∧ m.name = plugin) ∧
      (∀ plugin p, a.plugins.find? plugin = some p →
        p = ⟨"modifier", "tpl_modifier_" ++ plugin⟩) ∧
      ∀ s m, c.Involves s → s.Uses env m → m.CallsPlugin env.rules →
        ∃ p, a.plugins.find? m.name = some p ∧
          ∀ value plugins code plugins', (m.compile env.rules value).Yields plugins code plugins' →
            ∃ args, code = Code.call p.function (value :: args) := by
  obtain ⟨c, -⟩ := exists_compilation h
  have hcalls := env.rules.tells_callsPlugin
  have hgains := c.gains_plugins htags hcalls
  have hentry (plugin : String) (p : Plugin) (hp : a.plugins.find? plugin = some p) :
      p = .modifier plugin := by
    obtain ⟨s, m, -, -, -, rfl, rfl⟩ := (hgains.find? hp).resolve_left nofun
    rfl
  refine ⟨c, hgains.nodup List.nodup_nil, fun plugin => c.mem_plugins htags hcalls,
    fun plugin => c.mem_plugins htags env.rules.tells_isPlugin, hentry, ?_⟩
  intro s m hs huses hm
  obtain ⟨p, hp⟩ := Table.mem_keys_iff.1 ((c.mem_plugins htags hcalls).2 ⟨s, m, hs, huses, hm, rfl⟩)
  refine ⟨p, hp, fun value plugins code plugins' hcode => ?_⟩
  rw [hentry m.name p hp]
  exact hm.code_eq hcode

theorem compileArtifact_plugins_sample :
    ∃ a trust', (compileArtifact .samplePlugins "main" false).Yields {} a trust' ∧
      a.plugins.keys = ["upper", "escape"] ∧ ∃ c : Compilation .samplePlugins "main" false {} a,
        ∀ plugin, plugin ∈ a.plugins.keys ↔ ∃ s m, c.Involves s ∧ s.Uses .samplePlugins m ∧
          m.IsPlugin Environment.samplePlugins.rules ∧ m.name = plugin := by
  obtain ⟨a, trust', h, hkeys⟩ : ∃ a trust',
      (compileArtifact .samplePlugins "main" false).Yields {} a trust' ∧
      decide (a.plugins.keys = ["upper", "escape"]) = true :=
    Step.exists_yields (by decide +kernel)
  obtain ⟨c, -, -, hplugins, -⟩ := compileArtifact_plugins rfl h
  exact ⟨a, trust', h, of_decide_eq_true hkeys, c, hplugins⟩

end TagTemplate
