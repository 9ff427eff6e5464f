import TagTemplate.Artifact
import TagTemplate.Proofs.Policy.Place
import TagTemplate.Source.Library

namespace TagTemplate

theorem Text.eq_of_splitFirstChars {sep : Char} {s a b : List Char}
    (h : splitFirstChars sep s = some (a, b)) : s = a ++ sep :: b := by
  induction s generalizing a with
  | nil => cases h
  | cons c r ih =>
    rw [splitFirstChars] at h
    split at h
    next heq =>
      cases h
      rw [heq, List.nil_append]
    next =>
      obtain ⟨⟨a', b'⟩, hr, heq⟩ := Option.map_eq_some_iff.1 h
      cases heq
      rw [ih hr, List.cons_append]

theorem eq_of_splitScheme {name scheme rest : String} (h : splitScheme name = some (scheme, rest)) :
    name = scheme ++ ":" ++ rest := by
  obtain ⟨hsplit, -⟩ := Option.filter_eq_some_iff.1 h
  obtain ⟨⟨a, b⟩, hchars, heq⟩ := Option.map_eq_some_iff.1 hsplit
  cases heq
  rw [← String.toList_inj]
  simpa using Text.eq_of_splitFirstChars hchars

theorem Source.inline_cases {name : String} {s : Source} (h : inline? name = some s) :
    ∃ content, (name = "string:" ++ content ∧ s = .string name content) ∨
      (name = "eval:" ++ content ∧ s = .eval name content) := by
  unfold inline? at h
  split at h
  next content hsplit => exact ⟨content, .inl ⟨eq_of_splitScheme hsplit, (Option.some.inj h).symm⟩⟩
  next content hsplit => exact ⟨content, .inr ⟨eq_of_splitScheme hsplit, (Option.some.inj h).symm⟩⟩
  next => cases h

namespace Library

variable (library : Library)

/-- The text whose digest is the identity of a source. -/
def identity (name : String) : String :=
  match Source.inline? name with
  | some _ => name
  | none => (if library.contains (key name) then "memory:" else "file:") ++ key name

variable {library} in
theorem identity_of_inline_eq_none {name : String} (h : Source.inline? name = none) :
    library.identity name =
      (if library.contains (key name) then "memory:" else "file:") ++ key name := by
  rw [identity, h]

variable {library} in
theorem identity_of_inline_eq_some {name : String} {s : Source}
    (h : Source.inline? name = some s) : library.identity name = name := by
  rw [identity, h]

theorem uid_source (name : String) :
    (library.source name).uid = digest (library.identity name) := by
  unfold source identity
  cases hinline : Source.inline? name with
  | some s =>
    obtain ⟨content, ⟨hname, rfl⟩ | ⟨hname, rfl⟩⟩ := Source.inline_cases hinline
    · exact congrArg digest hname.symm
    · exact congrArg digest hname.symm
  | none =>
    cases hfind : library.find? (key name) with
    | none => simp [Table.contains, hfind, Source.missing]
    | some item => simp [Table.contains, hfind]

theorem source_eq_of_key {name name' : String} (h : Source.inline? name = none)
    (h' : Source.inline? name' = none) (hkey : key name = key name') :
    library.source name = library.source name' := by
  rw [source, source, h, h', hkey]

theorem inline_ne_identity {name name' : String} {s : Source} (h : Source.inline? name = some s)
    (h' : Source.inline? name' = none) : name ≠ library.identity name' := by
  intro heq
  rw [identity_of_inline_eq_none h'] at heq
  have htext := congrArg String.toList heq
  obtain ⟨content, ⟨rfl, -⟩ | ⟨rfl, -⟩⟩ := Source.inline_cases h <;>
    cases hknown : library.contains (key name') <;> simp [hknown] at htext

theorem source_eq_of_identity {name name' : String}
    (h : library.identity name = library.identity name') :
    library.source name = library.source name' := by
  cases hinline : Source.inline? name with
  | some s =>
    rw [identity_of_inline_eq_some hinline] at h
    cases hinline' : Source.inline? name' with
    | some s' => rw [h, identity_of_inline_eq_some hinline']
    | none => exact absurd h (library.inline_ne_identity hinline hinline')
  | none =>
    cases hinline' : Source.inline? name' with
    | some s' =>
      rw [identity_of_inline_eq_some hinline'] at h
      exact absurd h.symm (library.inline_ne_identity hinline' hinline)
    | none =>
      apply library.source_eq_of_key hinline hinline'
      rw [identity_of_inline_eq_none hinline, identity_of_inline_eq_none hinline'] at h
      have htext := congrArg String.toList h
      rw [← String.toList_inj]
      cases hknown : library.contains (key name) with
      | false =>
        cases hknown' : library.contains (key name') with
        | false => simpa [hknown, hknown'] using htext
        | true => simp [hknown, hknown'] at htext
      | true =>
        cases hknown' : library.contains (key name') with
        | false => simp [hknown, hknown'] at htext
        | true => simpa [hknown, hknown'] using htext

@[simp] theorem path_source (name : String) : (library.source name).path = none := by
  unfold source
  cases hinline : Source.inline? name with
  | some s => obtain ⟨content, ⟨-, rfl⟩ | ⟨-, rfl⟩⟩ := Source.inline_cases hinline <;> rfl
  | none => cases library.find? (key name) <;> rfl

end Library

def Environment.over (env : Environment) (library : Library) : Environment :=
  { env with loader := library.loader }

variable {env : Environment} {library : Library} {name : String} {s : Source}
  {index index' : TrustIndex}

theorem Environment.yields_checkPlace_over :
    ((env.over library).checkPlace (library.source name)).Yields index () index' ↔
      index' = index := by
  rw [checkPlace_of_none (.inr (library.path_source name)), Step.yields_pure]
  exact and_iff_right rfl

theorem Environment.yields_resolve_over :
    ((env.over library).loader.resolve name).Yields index s index' ↔
      s = library.source name ∧ index' = index :=
  Step.yields_pure

theorem Environment.yields_locate_over :
    ((env.over library).locate name).Yields index s index' ↔
      s = library.source name ∧ index' = index := by
  simp only [locate, Step.yields_bind, yields_resolve_over, Step.yields_pure]
  constructor
  · rintro ⟨_, _, ⟨rfl, rfl⟩, ⟨⟩, _, hplace, rfl, rfl⟩
    exact ⟨rfl, yields_checkPlace_over.1 hplace⟩
  · rintro ⟨rfl, rfl⟩
    exact ⟨_, _, ⟨rfl, rfl⟩, (), _, yields_checkPlace_over.2 rfl, rfl, rfl⟩

theorem yields_resolveEntry_over :
    (resolveEntry (env.over library) name).Yields index s index' ↔
      (library.source name).found = true ∧ s = library.source name ∧ index' = index := by
  simp only [resolveEntry, Step.yields_bind, Environment.yields_resolve_over]
  constructor
  · rintro ⟨_, _, ⟨rfl, rfl⟩, h⟩
    cases hfound : (library.source name).found with
    | false => simp [hfound] at h
    | true =>
      simp only [hfound, Bool.not_true, Bool.false_eq_true, if_false, Step.yields_bind,
        Step.yields_pure] at h
      obtain ⟨⟨⟩, _, hplace, rfl, rfl⟩ := h
      exact ⟨rfl, rfl, Environment.yields_checkPlace_over.1 hplace⟩
  · rintro ⟨hfound, rfl, rfl⟩
    refine ⟨_, _, ⟨rfl, rfl⟩, ?_⟩
    simp only [hfound, Bool.not_true, Bool.false_eq_true, if_false, Step.yields_bind,
      Step.yields_pure]
    exact ⟨(), _, Environment.yields_checkPlace_over.2 rfl, trivial, rfl⟩

def Library.sample : Library :=
  ⟨[("main", { content := "" }), ("part", { content := "", timestamp := 5 })]⟩

end TagTemplate
