import TagTemplate.Proofs.Compile.Run
import TagTemplate.Proofs.Policy.Trust
import TagTemplate.Source.Directory
import TagTemplate.Source.Library

namespace TagTemplate

variable {canonical : String → Location} {held : Holdings} {index index' : TrustIndex}

namespace Environment

variable {env : Environment} {s : Source}

def roots (env : Environment) (p : Policy) : Roots := {
  templates := env.config.templateDirs
  configs := env.config.configDirs
  secure := p.secureDirs }

structure Agrees (held : Holdings) (env : Environment) : Prop where
  templates : env.config.templateDirs.Agrees held
  configs : env.config.configDirs.Agrees held
  secure : ∀ p ∈ env.policy, p.secureDirs.Agrees held

theorem Agrees.roots (h : env.Agrees held) {p : Policy} (hp : env.policy = some p) :
    (env.roots p).Agrees held :=
  ⟨h.templates, h.configs, h.secure p hp⟩

def Trusts (env : Environment) (s : Source) : Prop :=
  ∀ p ∈ env.policy, ∀ path ∈ s.path, (env.roots p).Cover env.canonical (env.canonical path)

theorem checkPlace_of_policy {p : Policy} {path : String} (hp : env.policy = some p)
    (hs : s.path = some path) :
    env.checkPlace s = TrustIndex.checkFile env.canonical (env.roots p) (env.canonical path) := by
  simp only [checkPlace, hp, hs]
  rfl

theorem checkPlace_of_none (h : env.policy = none ∨ s.path = none) :
    env.checkPlace s = pure () := by
  unfold checkPlace
  split
  next hp hs => simp [hp, hs] at h
  next => rfl

theorem keeps_checkPlace (henv : env.Agrees held) (s : Source) :
    (env.checkPlace s).Keeps fun index => index.Valid env.canonical held := by
  cases hp : env.policy with
  | none =>
    rw [checkPlace_of_none (.inl hp)]
    exact Step.keeps_pure ()
  | some p =>
    cases hs : s.path with
    | none =>
      rw [checkPlace_of_none (.inr hs)]
      exact Step.keeps_pure ()
    | some path =>
      rw [checkPlace_of_policy hp hs]
      exact fun index h => h.checkFile (henv.roots hp) (env.canonical path)

theorem checkPlace_cases (henv : env.Agrees held) (h : index.Valid env.canonical held)
    (s : Source) :
    env.Trusts s ∧ ((env.checkPlace s).run index).1 = .ok () ∨
    ¬ env.Trusts s ∧ ∃ name,
      ((env.checkPlace s).run index).1 = .error (Fault.policy .directory name) := by
  cases hp : env.policy with
  | none =>
    rw [checkPlace_of_none (.inl hp)]
    exact .inl ⟨by simp [Trusts, hp], rfl⟩
  | some p =>
    cases hs : s.path with
    | none =>
      rw [checkPlace_of_none (.inr hs)]
      exact .inl ⟨by simp [Trusts, hs], rfl⟩
    | some path =>
      have hanswer := h.checkFile_fst (henv.roots hp) (env.canonical path)
      rw [checkPlace_of_policy hp hs]
      by_cases hcover : (env.roots p).Cover env.canonical (env.canonical path)
      · rw [if_pos hcover] at hanswer
        exact .inl ⟨by simpa [Trusts, hp, hs] using hcover, hanswer⟩
      · rw [if_neg hcover] at hanswer
        exact .inr ⟨by simpa [Trusts, hp, hs] using hcover, _, hanswer⟩

theorem yields_checkPlace (henv : env.Agrees held) (h : index.Valid env.canonical held)
    (hs : (env.checkPlace s).Yields index () index') :
    env.Trusts s ∧ index'.Valid env.canonical held := by
  refine ⟨?_, (keeps_checkPlace henv s).yields h hs⟩
  obtain ⟨htrusts, -⟩ | ⟨-, name, herror⟩ := checkPlace_cases henv h s
  · exact htrusts
  · rw [hs] at herror
    cases herror

end Environment

def Loader.Keeps (canonical : String → Location) (held : Holdings) (l : Loader) : Prop :=
  ∀ name, (l.resolve name).Keeps fun index => index.Valid canonical held

theorem Library.keeps_loader (library : Library) : library.loader.Keeps canonical held :=
  fun name => Step.keeps_pure (library.source name)

namespace DirectoryLoader

structure Agrees (held : Holdings) (d : DirectoryLoader) : Prop where
  templates : d.templateDirs.Agrees held
  configs : d.configDirs.Agrees held
  secure : ∀ p ∈ d.policy, p.secureDirs.Agrees held

variable {d : DirectoryLoader}

theorem keeps_checkPath (h : d.Agrees held) (path : String) :
    (d.checkPath path).Keeps fun index => index.Valid d.files.canonical held := by
  unfold checkPath
  split
  next p hp =>
    exact fun index hv =>
      hv.checkFile ⟨h.templates, h.configs, h.secure p hp⟩ (d.files.canonical path)
  next => exact Step.keeps_pure ()

theorem keeps_fileSource (h : d.Agrees held) (name : String) :
    (d.fileSource name).Keeps fun index => index.Valid d.files.canonical held := by
  unfold fileSource
  split
  next => exact Step.keeps_pure _
  next path _ =>
    refine Step.keeps_bind (keeps_checkPath h path) fun _ => ?_
    split
    next => exact Step.keeps_fail _
    next => exact Step.keeps_pure _

theorem keeps_loader (h : d.Agrees held) : d.loader.Keeps d.files.canonical held := by
  intro name
  change (d.resolve name).Keeps _
  unfold resolve
  split
  next s _ => exact Step.keeps_pure s
  next =>
    split
    next rest _ => exact keeps_fileSource h rest
    next scheme _ _ =>
      refine Step.keeps_bind (Step.keeps_ofExcept _) fun _ => ?_
      exact Step.keeps_fail _
    next => exact keeps_fileSource h name

end DirectoryLoader

theorem Environment.yields_locate {env : Environment} {name : String} {s : Source}
    (henv : env.Agrees held) (hl : env.loader.Keeps env.canonical held)
    (h : index.Valid env.canonical held) (hs : (env.locate name).Yields index s index') :
    env.Trusts s ∧ index'.Valid env.canonical held := by
  simp only [locate, Step.yields_bind, Step.yields_pure] at hs
  obtain ⟨s', _, hresolve, _, _, hcheck, rfl, rfl⟩ := hs
  exact yields_checkPlace henv ((hl name).yields h hresolve) hcheck

theorem Environment.yields_resolveEntry {env : Environment} {name : String} {s : Source}
    (henv : env.Agrees held) (hl : env.loader.Keeps env.canonical held)
    (h : index.Valid env.canonical held) (hs : (resolveEntry env name).Yields index s index') :
    env.Trusts s ∧ index'.Valid env.canonical held := by
  simp only [resolveEntry, Step.yields_bind] at hs
  obtain ⟨s', _, hresolve, hs⟩ := hs
  have hvalid := (hl name).yields h hresolve
  split at hs
  · simp at hs
  · simp only [Step.yields_bind, Step.yields_pure] at hs
    obtain ⟨_, _, hcheck, rfl, rfl⟩ := hs
    exact yields_checkPlace henv hvalid hcheck

def sampleHoldings : Holdings := fun token => if token = 1 then ["t"] else []

theorem Environment.agrees_sample {policy : Option Policy}
    (h : ∀ p ∈ policy, p.secureDirs = {}) : (sample policy).Agrees sampleHoldings where
  templates := rfl
  configs := rfl
  secure p hp := by
    rw [h p hp]
    rfl

theorem Environment.keeps_loader_sample (policy : Option Policy) :
    (sample policy).loader.Keeps canonical held :=
  fun _ => Step.keeps_pure _

end TagTemplate
