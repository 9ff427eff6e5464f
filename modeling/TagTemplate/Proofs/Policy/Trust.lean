import Mathlib.Data.List.Infix
import TagTemplate.Policy.Trust

/-!
The index of trusted directories does not show in the answers of a policy: after any history of
checks, replaced lists and copies a file is trusted exactly when one of the current roots lies above
it. Lists of directories count as values behind their tokens, so lists with one token hold the same
directories.
-/

namespace TagTemplate

abbrev Holdings := Nat → List String

def DirList.Agrees (held : Holdings) (a : DirList) : Prop := a.dirs = held a.token

namespace Roots

structure Agrees (held : Holdings) (r : Roots) : Prop where
  templates : r.templates.Agrees held
  configs : r.configs.Agrees held
  secure : r.secure.Agrees held

/-- A root lies above the file. The file itself does not count. -/
def Cover (canonical : String → Location) (r : Roots) (file : Location) : Prop :=
  ∃ dir ∈ r.dirs, canonical dir <+: file ∧ canonical dir ≠ file

instance (canonical : String → Location) (r : Roots) (file : Location) :
    Decidable (r.Cover canonical file) :=
  inferInstanceAs (Decidable (∃ dir ∈ r.dirs, canonical dir <+: file ∧ canonical dir ≠ file))

theorem dirs_eq_of_sameAs {held : Holdings} {a b : Roots} (ha : a.Agrees held) (hb : b.Agrees held)
    (h : a.sameAs b) : a.dirs = b.dirs := by
  simp only [sameAs, DirList.sameAs, Bool.and_eq_true, beq_iff_eq] at h
  obtain ⟨⟨ht, hc⟩, hs⟩ := h
  rw [dirs, dirs, ha.templates, ha.configs, ha.secure, hb.templates, hb.configs, hb.secure,
    ht, hc, hs]

end Roots

namespace Location

theorem mem_above {l dir : Location} : dir ∈ l.above ↔ dir <+: l ∧ dir ≠ l := by
  simp only [above, List.mem_map, List.mem_reverse, List.mem_range]
  constructor
  · rintro ⟨n, hn, rfl⟩
    refine ⟨List.take_prefix n l, fun h => ?_⟩
    have := congrArg List.length h
    rw [List.length_take] at this
    omega
  · rintro ⟨hp, hne⟩
    refine ⟨dir.length, ?_, (List.prefix_iff_eq_take.1 hp).symm⟩
    exact lt_of_le_of_ne hp.length_le fun h => hne (hp.eq_of_length h)

theorem pairwise_above (l : Location) : l.above.Pairwise fun near far => far <+: near := by
  rw [above, List.pairwise_map, List.pairwise_reverse]
  exact List.pairwise_lt_range.imp fun h => List.take_prefix_take_left h.le

end Location

namespace TrustIndex

variable {canonical : String → Location} {held : Holdings} {index : TrustIndex} {roots : Roots}

/-- What the index of some roots may remember: the roots themselves and directories below them. -/
structure Valid (canonical : String → Location) (held : Holdings) (index : TrustIndex) : Prop where
  agrees : ∀ r ∈ index.roots, r.Agrees held
  complete : ∀ r ∈ index.roots, ∀ dir ∈ r.dirs, canonical dir ∈ index.trusted
  sound : ∀ place ∈ index.trusted, ∃ r ∈ index.roots, ∃ dir ∈ r.dirs, canonical dir <+: place

theorem valid_empty : Valid canonical held {} := ⟨by simp, by simp, by simp⟩

theorem valid_build (h : roots.Agrees held) : Valid canonical held (build canonical roots) := by
  constructor
  · simpa [build] using h
  · simpa [build] using fun dir hdir => ⟨dir, hdir, rfl⟩
  · simpa [build] using fun dir hdir => ⟨dir, hdir, List.prefix_rfl⟩

theorem Valid.refresh (h : index.Valid canonical held) (hr : roots.Agrees held) :
    (index.refresh canonical roots).Valid canonical held := by
  unfold TrustIndex.refresh
  split
  · exact h
  · exact valid_build hr

theorem Valid.roots_refresh (h : index.Valid canonical held) (hr : roots.Agrees held) :
    ∃ r, (index.refresh canonical roots).roots = some r ∧ r.dirs = roots.dirs := by
  unfold TrustIndex.refresh
  split
  next hc =>
    cases hi : index.roots with
    | none => simp [isCurrent, hi] at hc
    | some r =>
      refine ⟨r, rfl, Roots.dirs_eq_of_sameAs (h.agrees r hi) hr ?_⟩
      simpa [isCurrent, hi] using hc
  next => exact ⟨roots, rfl, rfl⟩

theorem mem_beforeTrusted {trusted dirs before : List Location}
    (h : beforeTrusted trusted dirs = some before) :
    ∃ dir after, dirs = before ++ dir :: after ∧ dir ∈ trusted := by
  induction dirs generalizing before with
  | nil => cases h
  | cons d ds ih =>
    rw [beforeTrusted] at h
    split at h
    next hd =>
      cases h
      exact ⟨d, ds, rfl, by simpa using hd⟩
    next =>
      obtain ⟨rest, hrest, rfl⟩ := Option.map_eq_some_iff.1 h
      obtain ⟨dir, after, rfl, hdir⟩ := ih hrest
      exact ⟨dir, after, rfl, hdir⟩

theorem beforeTrusted_eq_none {trusted dirs : List Location} :
    beforeTrusted trusted dirs = none ↔ ∀ dir ∈ dirs, dir ∉ trusted := by
  induction dirs with
  | nil => simp [beforeTrusted]
  | cons d ds ih =>
    rw [beforeTrusted]
    split
    next hd => simp_all
    next hd => simp_all

theorem Valid.meets_iff_cover (h : index.Valid canonical held) {r : Roots}
    (hr : index.roots = some r) (file : Location) :
    (∃ dir ∈ file.above, dir ∈ index.trusted) ↔ r.Cover canonical file := by
  constructor
  · rintro ⟨dir, hdir, htrusted⟩
    obtain ⟨r', hr', root, hroot, hbelow⟩ := h.sound dir htrusted
    cases hr.symm.trans hr'
    have habove := Location.mem_above.1 hdir
    refine ⟨root, hroot, hbelow.trans habove.1, fun heq => habove.2 ?_⟩
    exact habove.1.eq_of_length_le (heq ▸ hbelow).length_le
  · rintro ⟨root, hroot, habove⟩
    exact ⟨canonical root, Location.mem_above.2 habove, h.complete r hr root hroot⟩

theorem checkFile_of_trusted {file : Location} {before : List Location}
    (h : beforeTrusted (index.refresh canonical roots).trusted file.above = some before) :
    checkFile canonical roots file index =
      (.ok (), { index.refresh canonical roots with
        trusted := (index.refresh canonical roots).trusted ++ before }) := by
  simp only [checkFile, h]

theorem checkFile_of_untrusted {file : Location}
    (h : beforeTrusted (index.refresh canonical roots).trusted file.above = none) :
    checkFile canonical roots file index =
      (.error (Fault.policy .directory file.text), index.refresh canonical roots) := by
  simp only [checkFile, h]

theorem Valid.checkFile_fst (h : index.Valid canonical held) (hr : roots.Agrees held)
    (file : Location) :
    (checkFile canonical roots file index).1 =
      if roots.Cover canonical file then .ok ()
      else .error (Fault.policy .directory file.text) := by
  obtain ⟨r, hroots, hdirs⟩ := h.roots_refresh hr
  have hcover : r.Cover canonical file ↔ roots.Cover canonical file := by
    rw [Roots.Cover, Roots.Cover, hdirs]
  have hmeets := ((h.refresh hr).meets_iff_cover hroots file).trans hcover
  cases hb : beforeTrusted (index.refresh canonical roots).trusted file.above with
  | none =>
    have hnone : ¬ roots.Cover canonical file := fun hc => by
      obtain ⟨dir, hdir, htrusted⟩ := hmeets.2 hc
      exact beforeTrusted_eq_none.1 hb dir hdir htrusted
    rw [checkFile_of_untrusted hb, if_neg hnone]
  | some before =>
    obtain ⟨dir, after, hsplit, htrusted⟩ := mem_beforeTrusted hb
    rw [checkFile_of_trusted hb, if_pos (hmeets.1 ⟨dir, by simp [hsplit], htrusted⟩)]

theorem Valid.checkFile (h : index.Valid canonical held) (hr : roots.Agrees held)
    (file : Location) : (checkFile canonical roots file index).2.Valid canonical held := by
  have hv := h.refresh hr
  cases hb : beforeTrusted (index.refresh canonical roots).trusted file.above with
  | none => rwa [checkFile_of_untrusted hb]
  | some before =>
    obtain ⟨dir, after, hsplit, htrusted⟩ := mem_beforeTrusted hb
    have hordered := file.pairwise_above
    rw [hsplit, List.pairwise_append] at hordered
    rw [checkFile_of_trusted hb]
    refine ⟨hv.agrees, fun r hr dir hdir => ?_, fun place hplace => ?_⟩
    · exact List.mem_append_left _ (hv.complete r hr dir hdir)
    · rcases List.mem_append.1 hplace with hplace | hplace
      · exact hv.sound place hplace
      · -- what is added lies between the file and `dir`, which is trusted
        obtain ⟨r, hr, root, hroot, hbelow⟩ := hv.sound dir htrusted
        have hnear := hordered.2.2 place hplace dir List.mem_cons_self
        exact ⟨r, hr, root, hroot, hbelow.trans hnear⟩

end TrustIndex

structure LivePolicy where
  policy : Policy
  index : TrustIndex := {}

namespace LivePolicy

variable {canonical : String → Location} {held : Holdings}

def roots (l : LivePolicy) (templates configs : DirList) : Roots :=
  { templates, configs, secure := l.policy.secureDirs }

def check (canonical : String → Location) (templates configs : DirList) (path : String)
    (l : LivePolicy) : Except CompileError Unit × LivePolicy :=
  let (r, index) :=
    TrustIndex.checkFile canonical (l.roots templates configs) (canonical path) l.index
  (r, { l with index })

def replaceSecure (dirs : DirList) (l : LivePolicy) : LivePolicy :=
  { l with policy.secureDirs := dirs }

def copy (l : LivePolicy) : LivePolicy := { policy := l.policy }

inductive Act where
  | check (policy : Nat) (templates configs : DirList) (path : String)
  | replaceSecure (policy : Nat) (dirs : DirList)
  | copy (policy : Nat)

def Act.Agrees (held : Holdings) : Act → Prop
  | .check _ templates configs _ => templates.Agrees held ∧ configs.Agrees held
  | .replaceSecure _ dirs => dirs.Agrees held
  | .copy _ => True

def Act.apply (canonical : String → Location) (ls : List LivePolicy) : Act → List LivePolicy
  | .check i templates configs path =>
    ls.modify i fun l => (l.check canonical templates configs path).2
  | .replaceSecure i dirs => ls.modify i fun l => l.replaceSecure dirs
  | .copy i => ls ++ (ls[i]?.map fun l => l.copy).toList

def run (canonical : String → Location) (ls : List LivePolicy) (acts : List Act) :
    List LivePolicy :=
  acts.foldl (Act.apply canonical) ls

structure Valid (canonical : String → Location) (held : Holdings) (l : LivePolicy) : Prop where
  agrees : l.policy.secureDirs.Agrees held
  index : l.index.Valid canonical held

theorem Valid.roots {l : LivePolicy} (h : l.Valid canonical held) {templates configs : DirList}
    (ht : templates.Agrees held) (hc : configs.Agrees held) :
    (l.roots templates configs).Agrees held :=
  ⟨ht, hc, h.agrees⟩

theorem Valid.check {l : LivePolicy} (h : l.Valid canonical held) {templates configs : DirList}
    (ht : templates.Agrees held) (hc : configs.Agrees held) (path : String) :
    (l.check canonical templates configs path).2.Valid canonical held :=
  ⟨h.agrees, h.index.checkFile (h.roots ht hc) (canonical path)⟩

theorem Valid.copy {l : LivePolicy} (h : l.Valid canonical held) : l.copy.Valid canonical held :=
  ⟨h.agrees, TrustIndex.valid_empty⟩

theorem forall_mem_modify {α : Type} {P : α → Prop} {f : α → α} {xs : List α} (i : Nat)
    (h : ∀ x ∈ xs, P x) (hf : ∀ x, P x → P (f x)) : ∀ x ∈ xs.modify i f, P x := by
  intro x hx
  obtain ⟨j, hj⟩ := List.mem_iff_getElem?.1 hx
  rw [List.getElem?_modify] at hj
  obtain ⟨y, hy, rfl⟩ := Option.map_eq_some_iff.1 hj
  have hPy := h y (List.mem_of_getElem? hy)
  split
  · exact hf y hPy
  · exact hPy

theorem valid_apply {ls : List LivePolicy} (h : ∀ l ∈ ls, l.Valid canonical held) {act : Act}
    (hact : act.Agrees held) : ∀ l ∈ act.apply canonical ls, l.Valid canonical held := by
  cases act with
  | check i templates configs path =>
    exact forall_mem_modify i h fun l hl => hl.check hact.1 hact.2 path
  | replaceSecure i dirs =>
    exact forall_mem_modify i h fun l hl => ⟨hact, hl.index⟩
  | copy i =>
    intro l hl
    rcases List.mem_append.1 hl with hl | hl
    · exact h l hl
    · obtain ⟨l', hl', rfl⟩ := Option.map_eq_some_iff.1 (Option.mem_toList.1 hl)
      exact (h l' (List.mem_of_getElem? hl')).copy

theorem valid_run {ls : List LivePolicy} (h : ∀ l ∈ ls, l.Valid canonical held) {acts : List Act}
    (hacts : ∀ act ∈ acts, act.Agrees held) :
    ∀ l ∈ run canonical ls acts, l.Valid canonical held := by
  induction acts generalizing ls with
  | nil => exact h
  | cons act acts ih =>
    exact ih (valid_apply h (hacts act List.mem_cons_self))
      fun act' hact' => hacts act' (List.mem_cons_of_mem _ hact')

/-- After any history of policies that began with empty indices, a check answers as a fresh copy
does: by whether a current root lies above the file. All that an index remembers is equal to a root
of the lists it was built from or lies below one. -/
theorem check_after_run {start : List LivePolicy} {acts : List Act} {l : LivePolicy}
    {templates configs : DirList}
    (hstart : ∀ l ∈ start, l.index = {} ∧ l.policy.secureDirs.Agrees held)
    (hacts : ∀ act ∈ acts, act.Agrees held) (hl : l ∈ run canonical start acts)
    (ht : templates.Agrees held) (hc : configs.Agrees held) (path : String) :
    ((l.check canonical templates configs path).1 = .ok () ↔
      (l.roots templates configs).Cover canonical (canonical path)) ∧
    (¬ (l.roots templates configs).Cover canonical (canonical path) →
      (l.check canonical templates configs path).1 =
        .error (Fault.policy .directory (canonical path).text)) ∧
    (l.check canonical templates configs path).1 =
      (l.copy.check canonical templates configs path).1 ∧
    ∀ place ∈ l.index.trusted, ∃ r ∈ l.index.roots, ∃ dir ∈ r.dirs, canonical dir <+: place := by
  have hv : l.Valid canonical held := by
    refine valid_run (fun l hl => ⟨(hstart l hl).2, ?_⟩) hacts l hl
    rw [(hstart l hl).1]
    exact TrustIndex.valid_empty
  have hroots := hv.roots ht hc
  have hanswer := hv.index.checkFile_fst hroots (canonical path)
  have hfresh := hv.copy.index.checkFile_fst hroots (canonical path)
  change (l.check canonical templates configs path).1 = _ at hanswer
  change (l.copy.check canonical templates configs path).1 = _ at hfresh
  refine ⟨?_, fun hn => by rw [hanswer, if_neg hn], by rw [hanswer, hfresh], hv.index.sound⟩
  rw [hanswer]
  split <;> simp_all

def samplePlaces (path : String) : Location :=
  if path = "/x" then ["x"] else if path = "/w" then ["w"]
  else if path = "/x/y/a" then ["x", "y", "a"] else ["w", "b"]

theorem check_after_replaced_secure :
    let held : Holdings := fun token =>
      if token = 1 then ["/x"] else if token = 2 then ["/w"] else []
    let start : List LivePolicy := [{ policy := { secureDirs := ⟨1, ["/x"]⟩ } }]
    let acts := [Act.check 0 {} {} "/x/y/a", .replaceSecure 0 ⟨2, ["/w"]⟩]
    let l : LivePolicy := {
      policy := { secureDirs := ⟨2, ["/w"]⟩ }
      index := { roots := some ⟨{}, {}, ⟨1, ["/x"]⟩⟩, trusted := [["x"], ["x", "y"]] } }
    (∀ l ∈ start, l.index = {} ∧ l.policy.secureDirs.Agrees held) ∧
    (∀ act ∈ acts, act.Agrees held) ∧ l ∈ run samplePlaces start acts ∧
    (l.check samplePlaces {} {} "/x/y/a").1 =
        .error (Fault.policy .directory "/x/y/a") ∧
    (l.check samplePlaces {} {} "/w/b").1 = .ok () := by
  intro held start acts l
  have hstart : ∀ l ∈ start, l.index = {} ∧ l.policy.secureDirs.Agrees held := by
    simp [start, held, DirList.Agrees]
  have hacts : ∀ act ∈ acts, act.Agrees held := by
    simp [acts, held, Act.Agrees, DirList.Agrees]
  have hl : l ∈ run samplePlaces start acts := List.Mem.head _
  have hempty : ({} : DirList).Agrees held := rfl
  have hx := check_after_run hstart hacts hl hempty hempty "/x/y/a"
  have hw := check_after_run hstart hacts hl hempty hempty "/w/b"
  exact ⟨hstart, hacts, hl, hx.2.1 (by decide), hw.1.2 (by decide)⟩

end LivePolicy

end TagTemplate
