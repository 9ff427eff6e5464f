import TagTemplate.Proofs.Attributes.Order
import TagTemplate.Proofs.Compile.Invariant
import TagTemplate.Proofs.Compile.Run

namespace TagTemplate

open Attributes

def AttrValue.code? : AttrValue → Option String
  | .code text => some text
  | _ => none

def AttrValue.misses (names : List String) (name : String) (v : AttrValue) : Bool :=
  names.contains name && v.code?.isNone

def Arg.misses (names : List String) : Arg → Bool
  | .named name v => v.misses names name
  | _ => false

def Attributes.without (names : List String) (a : Attributes) : Attributes :=
  { a with values := ⟨a.values.entries.filter fun x => !x.2.misses names x.1⟩ }

/-- The name is of an attribute that arguments may leave out, and give under its name only. -/
structure Contract.Leaves (c : Contract) (name : String) : Prop where
  declared : c.declares name = true
  unflagged : c.isFlag name = false
  optional : name ∉ c.required
  named : name ∉ c.shorthand

instance (c : Contract) (name : String) : Decidable (c.Leaves name) :=
  decidable_of_iff
    (c.declares name = true ∧ c.isFlag name = false ∧ name ∉ c.required ∧ name ∉ c.shorthand)
    ⟨fun h => ⟨h.1, h.2.1, h.2.2.1, h.2.2.2⟩,
      fun h => ⟨h.declared, h.unflagged, h.optional, h.named⟩⟩

/-! Resolution without the arguments that miss -/

section

variable {c : Contract} {names : List String} {args : List Arg} {a : Attributes}

theorem Arg.misses_toAttribute (hnames : ∀ name ∈ names, c.Leaves name) {arg : Arg}
    (hflag : ∀ name, arg = .flag name → c.isFlag name = true) (i : Nat) :
    ((arg.toAttribute c i).own &&
      (arg.toAttribute c i).value.misses names (arg.toAttribute c i).name) = arg.misses names := by
  cases arg with
  | positional v =>
    by_cases hi : i < c.shorthand.length
    · have hname : c.shorthand[i] ∉ names := fun h => (hnames _ h).named (List.getElem_mem hi)
      simp [toAttribute, target, name?, misses, AttrValue.misses, hi, hname]
    · simp [toAttribute, isOwn, misses, hi]
  | named name v =>
    by_cases hname : name ∈ names
    · have hleaves := hnames name hname
      simp [toAttribute, target, name?, isOwn, value, misses, hleaves.declared, hleaves.unflagged]
    · simp [toAttribute, target, name?, misses, AttrValue.misses, hname]
  | flag name =>
    have hname : name ∉ names := fun h => by simpa [(hnames name h).unflagged] using hflag name rfl
    simp [toAttribute, target, name?, misses, AttrValue.misses, hname]

theorem Arg.not_positional_of_misses {arg : Arg} (h : arg.misses names = true) :
    arg.isPositional = false := by
  cases arg with
  | positional v => cases h
  | named name v => rfl
  | flag name => rfl

theorem Contract.attributesFrom_filter (hnames : ∀ name ∈ names, c.Leaves name)
    (hflags : ∀ name, .flag name ∈ args → c.isFlag name = true) (i : Nat) :
    c.attributesFrom i (args.filter fun arg => !arg.misses names) =
      (c.attributesFrom i args).filter fun x => !(x.own && x.value.misses names x.name) := by
  induction args generalizing i with
  | nil => rfl
  | cons arg args ih =>
    have hrest := ih (fun name h => hflags name (List.mem_cons_of_mem arg h)) (arg.next i)
    have hflag : ∀ name, arg = .flag name → c.isFlag name = true := fun name heq =>
      hflags name (heq ▸ List.mem_cons_self)
    rw [attributesFrom, List.filter_cons, List.filter_cons, Arg.misses_toAttribute hnames hflag,
      ← hrest]
    cases hmisses : arg.misses names with
    | false => rfl
    | true =>
      -- only named arguments are left out, so that no positional one changes its place
      rw [Arg.next_of_not_positional (Arg.not_positional_of_misses hmisses)]
      rfl

theorem Attributes.collect_filter (names : List String) (xs : List Attribute) :
    collect (xs.filter fun x => !(x.own && x.value.misses names x.name)) =
      (collect xs).without names := by
  have hown : (xs.filter fun x => !(x.own && x.value.misses names x.name)).filter Attribute.own =
      (xs.filter Attribute.own).filter fun x => !x.value.misses names x.name := by
    rw [List.filter_filter, List.filter_filter]
    congr 1
    funext x
    cases x.own <;> simp
  have hextra : (xs.filter fun x => !(x.own && x.value.misses names x.name)).filter (!·.own) =
      xs.filter (!·.own) := by
    rw [List.filter_filter]
    congr 1
    funext x
    cases x.own <;> simp
  rw [collect, hown, hextra, without, collect, List.filter_map]
  rfl

theorem Attributes.find?_without (ha : a.values.keys.Nodup) (name : String) :
    (a.without names).values.find? name =
      if name ∈ names then (a.code? name).map .code else a.values.find? name := by
  change (Table.mk (a.values.entries.filter _)).find? name = _
  rw [Table.find?_filter ha, code?]
  by_cases hname : name ∈ names
  · rw [if_pos hname]
    rcases a.values.find? name with _ | _ | _ | _ | _ <;>
      simp [AttrValue.misses, AttrValue.code?, hname]
  · rw [if_neg hname]
    cases a.values.find? name <;> simp [AttrValue.misses, hname]

theorem Contract.Fits.filter (h : c.Fits args) (hnames : ∀ name ∈ names, c.Leaves name) :
    c.Fits (args.filter fun arg => !arg.misses names) where
  positionals := h.positionals.imp_left (Nat.le_trans List.filter_sublist.countP_le)
  flags name hmem := h.flags name (List.mem_of_mem_filter hmem)
  named name v hmem := h.named name v (List.mem_of_mem_filter hmem)
  distinct := by
    rw [targets, attributes, attributesFrom_filter hnames h.flags]
    exact (List.filter_sublist.map Attribute.name).nodup h.distinct

theorem Attributes.resolve_filter (hnames : ∀ name ∈ names, c.Leaves name)
    (h : resolve c args = .ok a) :
    resolve c (args.filter fun arg => !arg.misses names) = .ok (a.without names) := by
  obtain ⟨hfits, hrequired, rfl⟩ := resolve_eq_ok.1 h
  have hattributes : collect (c.attributes (args.filter fun arg => !arg.misses names)) =
      (collect (c.attributes args)).without names := by
    rw [← collect_filter, Contract.attributes,
      Contract.attributesFrom_filter hnames hfits.flags]
    rfl
  refine resolve_eq_ok.2 ⟨hfits.filter hnames, fun name hname => ?_, hattributes.symm⟩
  have hkept : name ∉ names := fun h => (hnames name h).optional hname
  rw [hattributes, Table.mem_keys_iff, find?_without (nodup_values hfits), if_neg hkept,
    ← Table.mem_keys_iff]
  exact hrequired name hname

end

/-! Tags -/

structure Attributes.Agree (names : List String) (a a' : Attributes) : Prop where
  code : ∀ name, a.code? name = a'.code? name
  value : ∀ name, name ∉ names → a.values.find? name = a'.values.find? name
  extra : a.extra = a'.extra

namespace Attributes.Agree

variable {names : List String} {a a' : Attributes} {name : String}

theorem requireCode (h : Agree names a a') (hname : name ∉ names) :
    a.requireCode name = a'.requireCode name := by
  rw [Attributes.requireCode, Attributes.requireCode, h.value name hname]

theorem requireAssign (h : Agree names a a') (hname : name ∉ names) :
    a.requireAssign name = a'.requireAssign name := by
  rw [Attributes.requireAssign, Attributes.requireAssign, h.value name hname]

theorem requireAssigns (h : Agree names a a') (hname : name ∉ names) :
    a.requireAssigns name = a'.requireAssigns name := by
  rw [Attributes.requireAssigns, Attributes.requireAssigns, h.value name hname]

theorem flag (h : Agree names a a') (hname : name ∉ names) : a.flag name = a'.flag name := by
  rw [Attributes.flag, Attributes.flag, h.value name hname]

end Attributes.Agree

theorem Attributes.agree_without {a : Attributes} (ha : a.values.keys.Nodup)
    (names : List String) : Agree names a (a.without names) where
  code name := by
    rw [code?, code?, find?_without ha]
    by_cases hname : name ∈ names
    · rw [if_pos hname, code?]
      rcases a.values.find? name with _ | _ | _ | _ | _ <;> rfl
    · rw [if_neg hname]
  value name hname := by rw [find?_without ha, if_neg hname]
  extra := rfl

def Include.codeNames : List String :=
  ["assign", "scope", "compile_id", "cache_id", "cache_lifetime"]

def Range.codeNames : List String := ["step", "max"]

def Builtin.codeNames : Builtin → UInt8 → List String
  | .include, _ => Include.codeNames
  | .loop, variant => if variant = 0 then Range.codeNames else []
  | _, _ => []

variable {env : Environment} {merge : Option Include.Merger} {u : TagUse} {a a' : Attributes}

theorem Include.target_congr (h : Agree codeNames a a') (file : String) :
    target env merge u a file = target env merge u a' file := by
  have hinline : a.flag "inline" = a'.flag "inline" := h.flag (by decide)
  rw [target, target, h.code]
  simp only [isRequested, hinline]

theorem Include.arguments_congr (h : Agree codeNames a a') (file vars : String) (scope : Scope) :
    arguments a file vars scope = arguments a' file vars scope := by
  have hcaching : a.flag "caching" = a'.flag "caching" := h.flag (by decide)
  rw [arguments, arguments, h.code, h.code, h.code, hcaching]

theorem Include.compile_congr (h : Agree codeNames a a') :
    compile env merge u a = compile env merge u a' := by
  have hfile : a.requireCode "file" = a'.requireCode "file" := h.requireCode (by decide)
  have hscope : scope u a = scope u a' := by rw [scope, scope, h.code]
  have hlocals (sc : Scope) : locals u a sc = locals u a' sc := by rw [locals, locals, h.extra]
  rw [compile, compile, hfile, hscope]
  simp only [hlocals, target_congr h, arguments_congr h, h.code]

theorem Loop.range_congr (h : Agree Range.codeNames a a') : range u a = range u a' := by
  have hstart : a.requireAssign "start" = a'.requireAssign "start" := h.requireAssign (by decide)
  have hstop : a.requireCode "to" = a'.requireCode "to" := h.requireCode (by decide)
  rw [range, range, hstart, hstop, h.code, h.code]

theorem Loop.general_congr (h : Agree [] a a') : general u a = general u a' := by
  rw [general, general, h.requireAssigns (by decide), h.requireCode (by decide),
    h.requireCode (by decide), h.requireCode (by decide)]

theorem Builtin.compile_congr (b : Builtin) (h : Agree (b.codeNames u.variant) a a') :
    b.compile env merge u a = b.compile env merge u a' := by
  cases b with
  | «include» => exact Include.compile_congr h
  | loop =>
    have hhead : Loop.head u a = Loop.head u a' := by
      rw [codeNames] at h
      rw [Loop.head, Loop.head]
      by_cases hvariant : u.variant = 0
      · rw [if_pos hvariant] at h
        rw [if_pos hvariant, if_pos hvariant, Loop.range_congr h]
      · rw [if_neg hvariant] at h
        rw [if_neg hvariant, if_neg hvariant, Loop.general_congr h]
    rw [compile, compile, Loop.openLoop, Loop.openLoop, hhead]
  | special =>
    have hvar : a.requireCode "var" = a'.requireCode "var" := h.requireCode List.not_mem_nil
    rw [compile, compile, Special.compileTag, Special.compileTag, hvar, h.code]
  | fallback => rfl
  | endLoop => rfl
  | leftDelimiter => rfl
  | rightDelimiter => rfl

theorem Builtin.leaves (b : Builtin) (variant : UInt8) :
    ∀ name ∈ b.codeNames variant, (b.contract variant).Leaves name := by
  cases b with
  | «include» =>
    change ∀ name ∈ Include.codeNames, Include.contract.Leaves name
    decide
  | loop =>
    rw [codeNames, contract, Loop.contract]
    by_cases hvariant : variant = 0
    · rw [if_pos hvariant, if_pos hvariant]
      decide
    · rw [if_neg hvariant]
      exact nofun
  | fallback => exact nofun
  | endLoop => exact nofun
  | leftDelimiter => exact nofun
  | rightDelimiter => exact nofun
  | special => exact nofun

/-- What an include makes of a scope and a compile identity that are given as code: it compiles
under no other scope, and is merged under no other identity. -/
def Include.Heeds (a : Attributes) (code : String) (p : Pass) : Prop :=
  ∃ file vars sc t, code = codeFor a file vars sc t ∧
    (∀ text, a.code? "scope" = some text → Scope.ofCode? text = some sc) ∧
    ∀ target, t = some target →
      Serves p (key file (a.code? "compile_id")) target.function ∧
      ∀ id, a.code? "compile_id" = some id → Text.isLiteral id = true ∧ id ≠ defaultCompileId

theorem Include.ofCode?_of_scope {sc : Scope} (h : scope u a = .ok sc) {text : String}
    (htext : a.code? "scope" = some text) : Scope.ofCode? text = some sc := by
  rw [scope, htext] at h
  cases hnamed : Scope.ofCode? text with
  | none => simp [hnamed, TagUse.require] at h
  | some named =>
    simp only [hnamed, Except.ok.injEq] at h
    rw [h]

theorem Include.heeds_of_compile {w w' : Work} {code : String}
    (h : (compile env merge u a).Yields w code w') : Heeds a code w'.pass := by
  obtain ⟨file, vars, sc, t, w₁, hreads, ht, rfl, rfl⟩ := yields_compile.1 h
  refine ⟨file, vars, sc, t, rfl, fun text => ofCode?_of_scope hreads.scope, ?_⟩
  rintro target rfl
  obtain ⟨hliteral, hserves⟩ := serves_of_target ht
  refine ⟨hserves, fun id hid => ?_⟩
  rw [hid] at hliteral
  refine ⟨isLiteral_of_obstacle hliteral, ?_⟩
  rintro rfl
  exact absurd (isLiteral_of_obstacle hliteral) (by decide)

/-- A built-in tag compiles as it does without the optional attributes that it reads as code and
that are not given so. Of those that are, an include heeds the scope and the compile identity. -/
theorem Builtin.compile_optional (b : Builtin) (env : Environment) (merge : Option Include.Merger)
    (u : TagUse) (args : List Arg) (a : Attributes)
    (h : resolve (b.contract u.variant) args = .ok a) :
    (∃ a', resolve (b.contract u.variant)
        (args.filter fun arg => !arg.misses (b.codeNames u.variant)) = .ok a' ∧
      (∀ name ∈ b.codeNames u.variant, a'.values.find? name = (a.code? name).map .code) ∧
      b.compile env merge u a = b.compile env merge u a') ∧
    (b = .include → ∀ w code w', (b.compile env merge u a).Yields w code w' →
      Include.Heeds a code w'.pass) := by
  have hleaves := b.leaves u.variant
  have hnodup : a.values.keys.Nodup := by
    obtain ⟨hfits, -, rfl⟩ := resolve_eq_ok.1 h
    exact nodup_values hfits
  refine ⟨⟨_, resolve_filter hleaves h, fun name hname => ?_,
    b.compile_congr (agree_without hnodup _)⟩, ?_⟩
  · rw [find?_without hnodup, if_pos hname]
  · rintro rfl w code w' hcode
    exact Include.heeds_of_compile hcode

def sampleMissed : List Arg := [
  .positional (.code "'part'"), .named "scope" (.flag true), .named "compile_id" (.flag true)]

def Include.sampleCompile (a : Attributes) : Except CompileError String :=
  let env := Environment.sample none
  ((compile env (mergerAt env 0) ⟨env.rules, "include", 1, 0⟩ a).run
    ⟨Draft.start .sample false, { trust := {} }⟩).1

theorem Builtin.compile_optional_include : ∃ a a', resolve Include.contract sampleMissed = .ok a ∧
    resolve Include.contract [.positional (.code "'part'")] = .ok a' ∧
    Include.sampleCompile a = Include.sampleCompile a' := by
  have ha : resolve Include.contract sampleMissed =
      .ok (collect (Include.contract.attributes sampleMissed)) := by decide +kernel
  let env := Environment.sample none
  obtain ⟨⟨a', ha', -, heq⟩, -⟩ := compile_optional .include env (mergerAt env 0)
    ⟨env.rules, "include", 1, 0⟩ sampleMissed _ ha
  refine ⟨_, a', ha, ha', ?_⟩
  exact congrArg (fun step : Step Work String =>
    (step.run ⟨Draft.start .sample false, { trust := {} }⟩).1) heq

/-- An include with a scope that is none of the four is merged, and under the default identity
although a compile identity is supplied. A loop of at most `true` iterations has no limit. -/
theorem Builtin.compile_optional_flags :
    (∃ a, resolve Include.contract sampleMissed = .ok a ∧
      a.values.find? "scope" = some (.flag true) ∧
      a.values.find? "compile_id" = some (.flag true) ∧
      Include.sampleCompile a = .ok (Include.callCode
        ⟨"part", (Include.key "'part'" none).function⟩
        (Include.arguments {} "'part'" "array()" .local) none)) ∧
    ∃ a, resolve Loop.rangeContract
        [.named "start" (.assign ⟨"i", "1"⟩), .named "to" (.code "9"), .named "max" (.flag true)] =
          .ok a ∧
      a.values.find? "max" = some (.flag true) ∧
      Loop.range ⟨{}, "for", 1, 0⟩ a = .ok (Loop.rangeHead ⟨"i", "1"⟩ "9" "1" none) := by
  refine ⟨⟨_, rfl, ?_⟩, _, rfl, ?_⟩
  · decide +kernel
  · decide +kernel

end TagTemplate
