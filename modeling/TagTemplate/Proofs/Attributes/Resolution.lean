import TagTemplate.Proofs.Table
import TagTemplate.Tags.Include

/-!
What arguments resolve to. A positional argument is for the shorthand name at its position, or
beyond the shorthand for the position itself; any other is for the name that it gives. Arguments
resolve exactly where each of them is accepted, no two are for the same name and no required
attribute is missing. Otherwise the first argument that offends decides the error.
-/

namespace TagTemplate

def AttrValue.bool? : AttrValue → Option Bool
  | .flag b => some b
  | .code text => Attributes.flagOfCode text
  | _ => none

def AttrValue.asFlag (v : AttrValue) : AttrValue :=
  match v.bool? with
  | some b => .flag b
  | none => v

structure Attribute where
  name : String
  value : AttrValue
  own : Bool
  deriving Repr, DecidableEq

def Attribute.pair (x : Attribute) : String × AttrValue := (x.name, x.value)

namespace Arg

def isPositional : Arg → Bool
  | .positional _ => true
  | _ => false

section

variable (c : Contract) (i : Nat)

def name? : Arg → Option String
  | .positional _ => c.shorthand[i]?
  | .named name _ => some name
  | .flag name => some name

def target (arg : Arg) : String := (arg.name? c i).getD (toString i)

def isOwn : Arg → Bool
  | .positional _ => i < c.shorthand.length
  | .named name _ => c.isFlag name || c.declares name
  | .flag _ => true

def value : Arg → AttrValue
  | .positional v => v
  | .named name v => if c.isFlag name then v.asFlag else v
  | .flag _ => .flag true

def toAttribute (arg : Arg) : Attribute := ⟨arg.target c i, arg.value c, arg.isOwn c i⟩

def Accepted : Arg → Prop
  | .positional _ => i < c.shorthand.length ∨ c.acceptsAny = true
  | .named name v =>
    if c.isFlag name then v.bool?.isSome = true else c.declares name = true ∨ c.acceptsAny = true
  | .flag name => c.isFlag name = true

/-- Why an argument cannot be taken where the names before it are taken. -/
inductive Offends (taken : List String) : Arg → AttributeError → Prop
  | tooMany {v} : c.shorthand.length ≤ i → c.acceptsAny = false →
      Offends taken (.positional v) (.tooMany c.shorthand.length)
  | notFlag {name} : c.isFlag name = false → Offends taken (.flag name) (.unknown name)
  | badValue {name v} : c.isFlag name = true → v.bool? = none →
      Offends taken (.named name v) (.badValue name v.describe)
  | unknown {name v} : c.isFlag name = false → c.declares name = false → c.acceptsAny = false →
      Offends taken (.named name v) (.unknown name)
  | duplicate {arg} : Accepted c i arg → arg.target c i ∈ taken →
      Offends taken arg (.duplicate (arg.target c i))

def next : Arg → Nat
  | .positional _ => i + 1
  | _ => i

end

variable {c : Contract} {i : Nat} {arg : Arg} {taken : List String}

theorem next_add_countP (arg : Arg) (args : List Arg) (i : Nat) :
    arg.next i + args.countP isPositional = i + (arg :: args).countP isPositional := by
  cases arg with
  | positional v => rw [next, List.countP_cons_of_pos rfl, Nat.add_assoc, Nat.add_comm 1]
  | named name v => rfl
  | flag name => rfl

theorem next_of_not_positional (h : arg.isPositional = false) : arg.next i = i := by
  cases arg with
  | positional v => cases h
  | named name v => rfl
  | flag name => rfl

theorem offends_of_not_accepted (h : ¬ arg.Accepted c i) : ∃ e, arg.Offends c i taken e := by
  cases arg with
  | positional v =>
    simp only [Accepted, not_or, Nat.not_lt, Bool.not_eq_true] at h
    exact ⟨_, .tooMany h.1 h.2⟩
  | named name v =>
    rw [Accepted] at h
    split at h
    next hflag =>
      simp only [Bool.not_eq_true, Option.isSome_eq_false_iff, Option.isNone_iff_eq_none] at h
      exact ⟨_, .badValue hflag h⟩
    next hflag =>
      simp only [not_or, Bool.not_eq_true] at h hflag
      exact ⟨_, .unknown hflag h.1 h.2⟩
  | flag name => exact ⟨_, .notFlag (by simpa [Accepted] using h)⟩

end Arg

namespace Contract

section

variable (c : Contract)

def attributesFrom (i : Nat) : List Arg → List Attribute
  | [] => []
  | arg :: rest => arg.toAttribute c i :: attributesFrom (arg.next i) rest

def attributes (args : List Arg) : List Attribute := c.attributesFrom 0 args

def targets (args : List Arg) : List String := (c.attributes args).map Attribute.name

def suppliedFrom (i : Nat) : List Arg → List String
  | [] => []
  | arg :: rest => (arg.name? c i).toList ++ suppliedFrom (arg.next i) rest

def ownNames (args : List Arg) : List String :=
  (c.suppliedFrom 0 args).filter fun name => c.isFlag name || c.declares name

/-- The contract has room for the positional arguments, the flags are option flags, each named
argument is for an option flag and gives it a Boolean, or else is declared or taken by the wildcard,
and no two arguments are for the same name. -/
structure Fits (args : List Arg) : Prop where
  positionals : args.countP Arg.isPositional ≤ c.shorthand.length ∨ c.acceptsAny = true
  flags : ∀ name, .flag name ∈ args → c.isFlag name = true
  named : ∀ name v, .named name v ∈ args →
    if c.isFlag name then v.bool?.isSome = true else c.declares name = true ∨ c.acceptsAny = true
  distinct : (c.targets args).Nodup

end

variable {c : Contract} {args : List Arg} {arg : Arg}

theorem attributesFrom_append (c : Contract) (i : Nat) (args rest : List Arg) :
    c.attributesFrom i (args ++ rest) =
      c.attributesFrom i args ++ c.attributesFrom (i + args.countP Arg.isPositional) rest := by
  induction args generalizing i with
  | nil => rfl
  | cons arg args ih => rw [List.cons_append, attributesFrom, ih, arg.next_add_countP]; rfl

theorem attributes_concat (c : Contract) (args : List Arg) (arg : Arg) :
    c.attributes (args ++ [arg]) =
      c.attributes args ++ [arg.toAttribute c (args.countP Arg.isPositional)] := by
  rw [attributes, attributesFrom_append, Nat.zero_add]
  rfl

theorem names_ownFrom (hc : ∀ name ∈ c.shorthand, c.declares name = true)
    (hflags : ∀ name, .flag name ∈ args → c.isFlag name = true) (i : Nat) :
    ((c.attributesFrom i args).filter Attribute.own).map Attribute.name =
      (c.suppliedFrom i args).filter fun name => c.isFlag name || c.declares name := by
  induction args generalizing i with
  | nil => rfl
  | cons arg args ih =>
    have hrest := ih (fun name h => hflags name (List.mem_cons_of_mem arg h)) (arg.next i)
    rw [attributesFrom, suppliedFrom, List.filter_append, ← hrest]
    cases arg with
    | positional v =>
      cases hname : c.shorthand[i]? with
      | some name =>
        obtain ⟨hi, rfl⟩ := List.getElem?_eq_some_iff.1 hname
        have hdeclared := hc _ (List.getElem_mem hi)
        simp [Arg.toAttribute, Arg.target, Arg.isOwn, Arg.name?, hi, hdeclared]
      | none =>
        have hi : ¬ i < c.shorthand.length := by simpa using hname
        simp [Arg.toAttribute, Arg.isOwn, Arg.name?, hi]
    | named name v =>
      cases hown : (c.isFlag name || c.declares name) with
      | true => simp [Arg.toAttribute, Arg.target, Arg.isOwn, Arg.name?, hown]
      | false => simp [Arg.toAttribute, Arg.isOwn, Arg.name?, hown]
    | flag name =>
      have hflag := hflags name List.mem_cons_self
      simp [Arg.toAttribute, Arg.target, Arg.isOwn, Arg.name?, hflag]

theorem fits_nil (c : Contract) : c.Fits [] := ⟨.inl (Nat.zero_le _), nofun, nofun, List.nodup_nil⟩

theorem fits_concat :
    c.Fits (args ++ [arg]) ↔ c.Fits args ∧ arg.Accepted c (args.countP Arg.isPositional) ∧
      arg.target c (args.countP Arg.isPositional) ∉ c.targets args := by
  have htargets : (c.targets (args ++ [arg])).Nodup ↔ (c.targets args).Nodup ∧
      arg.target c (args.countP Arg.isPositional) ∉ c.targets args := by
    rw [targets, attributes_concat, List.map_append, List.nodup_append]
    simp [targets, Arg.toAttribute]
  constructor
  · rintro ⟨hroom, hflags, hnamed, hdistinct⟩
    obtain ⟨hold, hnew⟩ := htargets.1 hdistinct
    rw [List.countP_append] at hroom
    refine ⟨⟨hroom.imp_left fun h => by omega, fun name h => hflags name ?_,
      fun name v h => hnamed name v ?_, hold⟩, ?_, hnew⟩
    · exact List.mem_append_left _ h
    · exact List.mem_append_left _ h
    · cases arg with
      | positional v => exact hroom.imp_left Nat.lt_of_succ_le
      | named name v => exact hnamed name v (by simp)
      | flag name => exact hflags name (by simp)
  · rintro ⟨⟨hroom, hflags, hnamed, hold⟩, haccepted, hnew⟩
    refine ⟨?_, fun name h => ?_, fun name v h => ?_, htargets.2 ⟨hold, hnew⟩⟩
    · rw [List.countP_append]
      cases arg with
      | positional v => exact haccepted
      | named name v => exact hroom
      | flag name => exact hroom
    · rcases List.mem_append.1 h with h | h
      · exact hflags name h
      · cases List.mem_singleton.1 h
        exact haccepted
    · rcases List.mem_append.1 h with h | h
      · exact hnamed name v h
      · cases List.mem_singleton.1 h
        exact haccepted

theorem exists_offends (h : ¬ c.Fits args) : ∃ before arg after e, args = before ++ arg :: after ∧
    c.Fits before ∧ arg.Offends c (before.countP Arg.isPositional) (c.targets before) e := by
  induction args using List.reverseRecOn with
  | nil => exact absurd c.fits_nil h
  | append_singleton args arg ih =>
    by_cases hargs : c.Fits args
    · rw [fits_concat, not_and, not_and, not_not] at h
      by_cases haccepted : arg.Accepted c (args.countP Arg.isPositional)
      · exact ⟨args, arg, [], _, rfl, hargs, .duplicate haccepted (h hargs haccepted)⟩
      · obtain ⟨e, he⟩ := Arg.offends_of_not_accepted haccepted
        exact ⟨args, arg, [], e, rfl, hargs, he⟩
    · obtain ⟨before, first, after, e, rfl, hbefore, hfirst⟩ := ih hargs
      exact ⟨before, first, after ++ [arg], e, by simp, hbefore, hfirst⟩

end Contract

namespace Attributes

def collect (xs : List Attribute) : Attributes :=
  ⟨⟨(xs.filter Attribute.own).map Attribute.pair⟩,
    ⟨(xs.filter fun x => !x.own).map Attribute.pair⟩⟩

variable {c : Contract} {i : Nat} {a : Attributes} {arg : Arg} {args rest : List Arg}
  {xs : List Attribute} {name : String} {v : AttrValue} {e : AttributeError}

theorem isTaken_collect : (collect xs).isTaken name = true ↔ name ∈ xs.map Attribute.name := by
  rw [isTaken, Bool.or_eq_true, Table.contains_eq_true, Table.contains_eq_true]
  simp only [collect, Table.keys, List.map_map, List.mem_map, List.mem_filter, Function.comp_apply,
    Attribute.pair]
  constructor
  · rintro (⟨x, hx, rfl⟩ | ⟨x, hx, rfl⟩)
    · exact ⟨x, hx.1, rfl⟩
    · exact ⟨x, hx.1, rfl⟩
  · rintro ⟨x, hx, rfl⟩
    cases h : x.own with
    | true => exact .inl ⟨x, ⟨hx, h⟩, rfl⟩
    | false => exact .inr ⟨x, ⟨hx, by simp [h]⟩, rfl⟩

theorem addValue_collect :
    (collect xs).addValue name v =
      if name ∈ xs.map Attribute.name then .error (.duplicate name)
      else .ok (collect (xs ++ [⟨name, v, true⟩])) := by
  by_cases h : name ∈ xs.map Attribute.name
  · rw [if_pos h, addValue, if_pos (isTaken_collect.2 h)]
  · have hnew := mt isTaken_collect.1 h
    have hkey : name ∉ (collect xs).values.keys := fun hmem => hnew (by
      rw [isTaken, Table.contains_eq_true.2 hmem, Bool.true_or])
    rw [if_neg h, addValue, if_neg hnew, Table.insert, Table.insertIn_of_notMem hkey]
    simp [collect, Attribute.pair]

theorem addExtra_collect :
    (collect xs).addExtra name v =
      if name ∈ xs.map Attribute.name then .error (.duplicate name)
      else .ok (collect (xs ++ [⟨name, v, false⟩])) := by
  by_cases h : name ∈ xs.map Attribute.name
  · rw [if_pos h, addExtra, if_pos (isTaken_collect.2 h)]
  · have hnew := mt isTaken_collect.1 h
    have hkey : name ∉ (collect xs).extra.keys := fun hmem => hnew (by
      rw [isTaken, Table.contains_eq_true.2 hmem, Bool.or_true])
    rw [if_neg h, addExtra, if_neg hnew, Table.insert, Table.insertIn_of_notMem hkey]
    simp [collect, Attribute.pair]

theorem flagValue_eq (name : String) (v : AttrValue) :
    flagValue name v = match v.bool? with
      | some b => .ok b
      | none => .error (.badValue name v.describe) := by
  cases v with
  | code text =>
    cases h : flagOfCode text with
    | some b => simp [flagValue, AttrValue.bool?, h]
    | none => simp [flagValue, AttrValue.bool?, h]
  | flag b => rfl
  | assign x => rfl
  | assigns xs => rfl

def add (c : Contract) (i : Nat) (a : Attributes) : Arg → Except AttributeError Attributes
  | .positional v => addPositional c i v a
  | .named name v => addNamed c name v a
  | .flag name => addFlag c name a

theorem addAll_cons (c : Contract) (i : Nat) (a : Attributes) (arg : Arg) (rest : List Arg) :
    addAll c i a (arg :: rest) = (add c i a arg).bind fun a => addAll c (arg.next i) a rest := by
  cases arg <;> rfl

theorem addAll_append (c : Contract) (i : Nat) (a : Attributes) (args rest : List Arg) :
    addAll c i a (args ++ rest) =
      (addAll c i a args).bind fun a => addAll c (i + args.countP Arg.isPositional) a rest := by
  induction args generalizing i a with
  | nil => rfl
  | cons arg args ih =>
    rw [List.cons_append, addAll_cons, addAll_cons, ← arg.next_add_countP]
    cases add c i a arg with
    | ok a => exact ih (arg.next i) a
    | error e => rfl

theorem add_of_accepted (h : arg.Accepted c i) :
    add c i (collect xs) arg =
      if arg.target c i ∈ xs.map Attribute.name then .error (.duplicate (arg.target c i))
      else .ok (collect (xs ++ [arg.toAttribute c i])) := by
  cases arg with
  | positional v =>
    rw [add, addPositional, Arg.toAttribute, Arg.target, Arg.name?, Arg.isOwn]
    cases hname : c.shorthand[i]? with
    | some name =>
      have hi : i < c.shorthand.length := (List.getElem?_eq_some_iff.1 hname).1
      simp only [addValue_collect, hi, decide_true]
      rfl
    | none =>
      have hi : ¬ i < c.shorthand.length := by simpa using hname
      simp only [h.resolve_left hi, if_true, addExtra_collect, hi, decide_false]
      rfl
  | named name v =>
    rw [add, addNamed, Arg.toAttribute, Arg.value, Arg.isOwn]
    rw [Arg.Accepted] at h
    cases hflag : c.isFlag name with
    | true =>
      rw [hflag, if_pos rfl] at h
      obtain ⟨b, hb⟩ := Option.isSome_iff_exists.1 h
      simp only [if_true, flagValue_eq, AttrValue.asFlag, hb, Except.bind, addValue_collect]
      rfl
    | false =>
      simp only [hflag, Bool.false_eq_true, if_false] at h ⊢
      cases hdeclared : c.declares name with
      | true => exact addValue_collect
      | false =>
        simp only [h.resolve_left (by simp [hdeclared]), Bool.false_eq_true, if_false, if_true]
        exact addExtra_collect
  | flag name =>
    change c.isFlag name = true at h
    rw [add, addFlag, if_pos h]
    exact addValue_collect

theorem add_of_offends (h : arg.Offends c i (xs.map Attribute.name) e) :
    add c i (collect xs) arg = .error e := by
  cases h with
  | tooMany hi hany =>
    rw [add, addPositional, List.getElem?_eq_none hi]
    simp [hany]
  | notFlag hflag => simp [add, addFlag, hflag]
  | badValue hflag hv => simp [add, addNamed, hflag, flagValue_eq, hv, Except.bind]
  | unknown hflag hdeclared hany => simp [add, addNamed, hflag, hdeclared, hany]
  | duplicate haccepted htaken => rw [add_of_accepted haccepted, if_pos htaken]

theorem addAll_of_fits (h : c.Fits args) :
    addAll c 0 {} args = .ok (collect (c.attributes args)) := by
  induction args using List.reverseRecOn with
  | nil => rfl
  | append_singleton args arg ih =>
    obtain ⟨hargs, haccepted, hnew⟩ := Contract.fits_concat.1 h
    rw [addAll_append, ih hargs, Contract.attributes_concat, Nat.zero_add]
    change addAll c _ _ [arg] = _
    rw [addAll_cons, add_of_accepted haccepted, if_neg (by exact hnew)]
    rfl

theorem addAll_of_offends {before after : List Arg} (hbefore : c.Fits before)
    (h : arg.Offends c (before.countP Arg.isPositional) (c.targets before) e) :
    addAll c 0 {} (before ++ arg :: after) = .error e := by
  rw [addAll_append, addAll_of_fits hbefore, Nat.zero_add]
  change addAll c _ _ (arg :: after) = _
  rw [addAll_cons, add_of_offends h]
  rfl

theorem checkRequired_eq_ok {names : List String} {b : Attributes} :
    checkRequired a names = .ok b ↔ (∀ name ∈ names, name ∈ a.values.keys) ∧ b = a := by
  induction names with
  | nil => simp [checkRequired, eq_comm]
  | cons name names ih =>
    rw [checkRequired, contains, List.forall_mem_cons, ← Table.contains_eq_true]
    cases a.values.contains name with
    | true => simp [ih]
    | false => simp

theorem checkRequired_eq_error {names : List String} :
    checkRequired a names = .error e ↔ ∃ before name after, names = before ++ name :: after ∧
      (∀ name ∈ before, name ∈ a.values.keys) ∧ name ∉ a.values.keys ∧ e = .missing name := by
  induction names with
  | nil => simp [checkRequired]
  | cons first names ih =>
    rw [checkRequired, contains]
    by_cases h : first ∈ a.values.keys
    · rw [if_pos (Table.contains_eq_true.2 h), ih]
      constructor
      · rintro ⟨before, name, after, rfl, hbefore, hname⟩
        exact ⟨first :: before, name, after, rfl, List.forall_mem_cons.2 ⟨h, hbefore⟩, hname⟩
      · rintro ⟨before, name, after, hnames, hbefore, hname, rfl⟩
        cases before with
        | nil =>
          cases hnames
          exact absurd h hname
        | cons _ before =>
          cases hnames
          exact ⟨before, name, after, rfl, (List.forall_mem_cons.1 hbefore).2, hname, rfl⟩
    · rw [if_neg (mt Table.contains_eq_true.1 h)]
      constructor
      · rintro ⟨rfl⟩
        exact ⟨[], first, names, rfl, nofun, h, rfl⟩
      · rintro ⟨before, name, after, hnames, hbefore, hname, rfl⟩
        cases before with
        | nil =>
          cases hnames
          rfl
        | cons _ before =>
          cases hnames
          exact absurd (hbefore first List.mem_cons_self) h

theorem resolve_of_fits (h : c.Fits args) :
    resolve c args = checkRequired (collect (c.attributes args)) c.required := by
  rw [resolve, addAll_of_fits h]
  rfl

theorem resolve_of_offends {before after : List Arg} (hbefore : c.Fits before)
    (h : arg.Offends c (before.countP Arg.isPositional) (c.targets before) e) :
    resolve c (before ++ arg :: after) = .error e := by
  rw [resolve, addAll_of_offends hbefore h]
  rfl

theorem resolve_eq_ok : resolve c args = .ok a ↔
    c.Fits args ∧ (∀ name ∈ c.required, name ∈ (collect (c.attributes args)).values.keys) ∧
      a = collect (c.attributes args) := by
  by_cases h : c.Fits args
  · rw [resolve_of_fits h, checkRequired_eq_ok, and_iff_right h]
  · obtain ⟨before, arg, after, e, rfl, hbefore, harg⟩ := Contract.exists_offends h
    rw [resolve_of_offends hbefore harg]
    exact ⟨nofun, fun hok => absurd hok.1 h⟩

end Attributes

open Attributes

inductive Contract.Rejects (c : Contract) (args : List Arg) : AttributeError → Prop
  | argument {before arg after e} : args = before ++ arg :: after → c.Fits before →
      arg.Offends c (before.countP Arg.isPositional) (c.targets before) e → Rejects c args e
  | missing {before name after} : c.Fits args → c.required = before ++ name :: after →
      (∀ name ∈ before, name ∈ c.ownNames args) → name ∉ c.ownNames args →
      Rejects c args (.missing name)

theorem Contract.Fits.keys_values {c : Contract} {args : List Arg} (h : c.Fits args)
    (hc : ∀ name ∈ c.shorthand, c.declares name = true) :
    (collect (c.attributes args)).values.keys = c.ownNames args := by
  rw [ownNames, ← names_ownFrom hc h.flags 0]
  exact List.map_map

namespace Attributes

variable {c : Contract} {args : List Arg} {a : Attributes} {e : AttributeError}

theorem exists_resolve_iff (hc : ∀ name ∈ c.shorthand, c.declares name = true) :
    (∃ a, resolve c args = .ok a) ↔
      c.Fits args ∧ ∀ name ∈ c.required, name ∈ c.ownNames args := by
  constructor
  · rintro ⟨a, ha⟩
    obtain ⟨hfits, hrequired, -⟩ := resolve_eq_ok.1 ha
    rw [hfits.keys_values hc] at hrequired
    exact ⟨hfits, hrequired⟩
  · rintro ⟨hfits, hrequired⟩
    rw [← hfits.keys_values hc] at hrequired
    exact ⟨_, resolve_eq_ok.2 ⟨hfits, hrequired, rfl⟩⟩

theorem perm_of_resolve (h : resolve c args = .ok a) :
    (a.values.entries ++ a.extra.entries).Perm ((c.attributes args).map Attribute.pair) := by
  obtain ⟨-, -, rfl⟩ := resolve_eq_ok.1 h
  have hparts := List.filter_append_perm Attribute.own (c.attributes args)
  have hpairs := hparts.map Attribute.pair
  rwa [List.map_append] at hpairs

theorem resolve_eq_error_iff (hc : ∀ name ∈ c.shorthand, c.declares name = true) :
    resolve c args = .error e ↔ c.Rejects args e := by
  constructor
  · intro he
    by_cases h : c.Fits args
    · rw [resolve_of_fits h, checkRequired_eq_error, h.keys_values hc] at he
      obtain ⟨before, name, after, hnames, hbefore, hname, rfl⟩ := he
      exact .missing h hnames hbefore hname
    · obtain ⟨before, arg, after, e', rfl, hbefore, harg⟩ := Contract.exists_offends h
      rw [resolve_of_offends hbefore harg] at he
      cases he
      exact .argument rfl hbefore harg
  · intro he
    cases he with
    | argument hargs hbefore harg => rw [hargs, resolve_of_offends hbefore harg]
    | missing h hnames hbefore hname =>
      rw [resolve_of_fits h, checkRequired_eq_error, h.keys_values hc]
      exact ⟨_, _, _, hnames, hbefore, hname, rfl⟩

/-- Where the shorthand names are declared, arguments resolve exactly if they fit the contract and
supply each required name. Each argument is then held once under what it is for: under the supplied
names that are declared or flags, and the rest apart in supply order. Otherwise the first argument
that offends is reported, or else the first required name that is missing. -/
theorem resolve_exact (c : Contract) (hc : ∀ name ∈ c.shorthand, c.declares name = true)
    (args : List Arg) :
    ((∃ a, resolve c args = .ok a) ↔
      c.Fits args ∧ ∀ name ∈ c.required, name ∈ c.ownNames args) ∧
    (∀ a, resolve c args = .ok a →
      (a.values.entries ++ a.extra.entries).Perm ((c.attributes args).map Attribute.pair) ∧
      a.values.keys = c.ownNames args ∧
      a.extra.entries = ((c.attributes args).filter fun x => !x.own).map Attribute.pair) ∧
    ∀ e, resolve c args = .error e ↔ c.Rejects args e := by
  refine ⟨exists_resolve_iff hc, fun a ha => ⟨perm_of_resolve ha, ?_⟩,
    fun e => resolve_eq_error_iff hc⟩
  obtain ⟨hfits, -, rfl⟩ := resolve_eq_ok.1 ha
  exact ⟨hfits.keys_values hc, rfl⟩

def sampleArgs : List Arg := [
  .positional (.code "'a.tpl'"), .named "title" (.code "'A'"), .flag "inline",
  .positional (.flag true), .named "caching" (.code "'off'")]

def sampleDuplicate : List Arg := sampleArgs ++ [.named "1" (.code "2")]

theorem resolve_exact_include :
    (∀ name ∈ Include.contract.shorthand, Include.contract.declares name = true) ∧
    Include.contract.Fits sampleArgs ∧
    (∃ a, resolve Include.contract sampleArgs = .ok a ∧
      a.values.keys = ["file", "inline", "caching"] ∧
      a.extra.entries = [("title", .code "'A'"), ("1", .flag true)]) ∧
    resolve Include.contract sampleDuplicate = .error (.duplicate "1") := by
  have hc : ∀ name ∈ Include.contract.shorthand, Include.contract.declares name = true := by decide
  obtain ⟨hfits, hheld, -⟩ := resolve_exact Include.contract hc sampleArgs
  have hsample : resolve Include.contract sampleArgs =
      .ok (collect (Include.contract.attributes sampleArgs)) := by decide +kernel
  have hfits := (hfits.1 ⟨_, hsample⟩).1
  obtain ⟨-, hvalues, hextra⟩ := hheld _ hsample
  obtain ⟨-, -, hrejects⟩ := resolve_exact Include.contract hc sampleDuplicate
  refine ⟨hc, hfits, ⟨_, hsample, hvalues.trans (by decide), hextra.trans (by decide +kernel)⟩, ?_⟩
  have htaken : "1" ∈ Include.contract.targets sampleArgs := by decide
  exact (hrejects _).2 (.argument rfl hfits (.duplicate (.inr rfl) htaken))

end Attributes

end TagTemplate
