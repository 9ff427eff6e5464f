import TagTemplate.Policy.Document
import TagTemplate.Proofs.Document.RoundTrip
import TagTemplate.Proofs.Json.Record
import TagTemplate.Proofs.Policy.Trust

namespace TagTemplate

theorem Json.list?_texts (xs : List String) : Json.list? Json.text? (.texts xs) = some xs :=
  Json.list?_array_map (g := .text) (fun _ => rfl) xs

theorem DirList.ofJson?_toJson (token : Nat) (a : DirList) :
    DirList.ofJson? token a.toJson = some ⟨token, a.dirs⟩ := by
  rw [ofJson?, toJson, Json.list?_texts]
  rfl

theorem NameList.ofJson?_toJson (list : NameList) : NameList.ofJson? list.toJson = some list := by
  cases list with
  | none => rfl
  | some names =>
    have hnames : NameList.ofJson? (.texts names) =
        (Json.list? Json.text? (.texts names)).map some := rfl
    rw [toJson, Option.elim_some, hnames, Json.list?_texts, Option.map_some]

theorem UriPattern.ofString?_text (u : UriPattern) : UriPattern.ofString? u.text = some u := by
  obtain ⟨text, pattern, parsed⟩ := u
  unfold ofString?
  split
  next pattern' h =>
    obtain rfl := Option.some.inj (parsed.symm.trans h)
    rfl
  next h => exact absurd (parsed.symm.trans h) nofun

theorem UriPattern.list?_texts (us : List UriPattern) :
    Json.list? UriPattern.ofJson? (.texts (us.map text)) = some us := by
  rw [Json.texts, List.map_map]
  exact Json.list?_array_map UriPattern.ofString?_text us

theorem Lookups.ofJson?_word (l : Lookups) : Lookups.ofJson? (.text l.word) = some l := by
  cases l <;> decide

theorem DirList.legible_toJson (a : DirList) : a.toJson.Legible 1 :=
  Json.legible_texts 0 a.dirs

theorem NameList.legible_toJson (list : NameList) : Json.Legible 1 list.toJson := by
  cases list with
  | none => exact .null
  | some names => exact Json.legible_texts 0 names

namespace Policy

def renewed (token : Nat) (p : Policy) : Policy :=
  { p with secureDirs := ⟨token, p.secureDirs.dirs⟩ }

theorem legible_toJson (p : Policy) : p.toJson.Legible 2 := by
  refine .object ?_
  simp only [List.forall_mem_cons]
  exact ⟨p.secureDirs.legible_toJson, Json.legible_texts 0 _, p.staticClasses.legible_toJson,
    p.hostFunctions.legible_toJson, p.hostModifiers.legible_toJson, Json.legible_texts 0 _,
    Json.legible_texts 0 _, Json.legible_texts 0 _, Json.legible_texts 0 _,
    p.streams.legible_toJson, .bool, .bool, nofun⟩

theorem read_render (token : Nat) (p : Policy) :
    read token p.toJson.render = .ok (p.renewed token) := by
  refine Json.readRecord_render p.legible_toJson (by decide) rfl (by decide) ?_
  simp [ofFields?, Json.recordField, List.lookup_cons, DirList.ofJson?_toJson,
    NameList.ofJson?_toJson, UriPattern.list?_texts, Json.list?_texts, Json.bool?, renewed]

theorem check_renewed (token : Nat) (p : Policy) (kind : Privilege) (name : String) :
    check (some (p.renewed token)) kind name = check (some p) kind name := by
  cases kind <;> rfl

end Policy

namespace LivePolicy

variable {canonical : String → Location} {held : Holdings} {p : Policy} {l l' : LivePolicy}
  {templates configs : DirList}

structure InUse (canonical : String → Location) (held : Holdings) (p : Policy) (l : LivePolicy) :
    Prop where
  agrees : p.secureDirs.Agrees held
  history : ∃ acts : List Act, (∀ act ∈ acts, act.Agrees held) ∧
    l ∈ run canonical [{ policy := p }] acts
  policy : l.policy = p

theorem InUse.valid (h : l.InUse canonical held p) : l.Valid canonical held := by
  obtain ⟨acts, hacts, hl⟩ := h.history
  refine valid_run (fun start hstart => ?_) hacts l hl
  obtain rfl := List.mem_singleton.1 hstart
  exact ⟨h.agrees, TrustIndex.valid_empty⟩

/-- The answers depend on what the lists of directories hold, not on their identities or the
index. -/
theorem Valid.check_congr (h : l.Valid canonical held) (h' : l'.Valid canonical held)
    (hdirs : l'.policy.secureDirs.dirs = l.policy.secureDirs.dirs)
    (ht : templates.Agrees held) (hc : configs.Agrees held) (path : String) :
    (l'.check canonical templates configs path).1 =
      (l.check canonical templates configs path).1 := by
  have hanswer := h.index.checkFile_fst (h.roots ht hc) (canonical path)
  have hanswer' := h'.index.checkFile_fst (h'.roots ht hc) (canonical path)
  have hcover : (l'.roots templates configs).Cover canonical (canonical path) ↔
      (l.roots templates configs).Cover canonical (canonical path) := by
    rw [Roots.Cover, Roots.Cover, Roots.dirs, Roots.dirs, LivePolicy.roots, LivePolicy.roots, hdirs]
  exact hanswer'.trans ((if_congr hcover rfl rfl).trans hanswer.symm)

end LivePolicy

namespace Config

def renewed (token : Nat) (c : Config) : Config :=
  { c with
    templateDirs := ⟨token, c.templateDirs.dirs⟩, configDirs := ⟨token + 1, c.configDirs.dirs⟩ }

theorem legible_toJson (c : Config) : c.toJson.Legible 2 := by
  refine .object ?_
  simp only [List.forall_mem_cons]
  exact ⟨.text, .text, .bool, .bool, .text, Json.legible_texts 0 _, .bool, Json.legible_texts 0 _,
    .text, .bool, .nat c.maxInlineDepth.toNat_lt, c.templateDirs.legible_toJson,
    c.configDirs.legible_toJson, .text, nofun⟩

theorem read_render (token : Nat) (c : Config) :
    read token c.toJson.render = .ok (c.renewed token) := by
  refine Json.readRecord_render c.legible_toJson (by decide) rfl (by decide) ?_
  simp [ofFields?, Json.recordField, List.lookup_cons, DirList.ofJson?_toJson, Lookups.ofJson?_word,
    Json.list?_texts, Json.bool?, Json.text?, Json.word?_nat, renewed]

end Config

/-- A policy is read back from its document with every field as it was, the identity of its list of
secure directories apart. It then answers every name and URI as before and every path too, whatever
either policy has been used for. Settings are read back in the same way. -/
theorem documents_read_back :
    (∀ (token : Nat) (p : Policy), ∃ q, Policy.read token p.toJson.render = .ok q ∧
      q = p.renewed token ∧
      (∀ kind name, Policy.check (some q) kind name = Policy.check (some p) kind name) ∧
      ∀ {canonical : String → Location} {held : Holdings} {l l' : LivePolicy}
        {templates configs : DirList}, l.InUse canonical held p →
        l'.InUse canonical held q → templates.Agrees held → configs.Agrees held →
        ∀ path, (l'.check canonical templates configs path).1 =
          (l.check canonical templates configs path).1) ∧
    ∀ (token : Nat) (c : Config), Config.read token c.toJson.render = .ok (c.renewed token) := by
  refine ⟨fun token p => ⟨_, p.read_render token, rfl, p.check_renewed token, ?_⟩,
    fun token c => c.read_render token⟩
  intro canonical held l l' templates configs h h' ht hc path
  refine h.valid.check_congr h'.valid ?_ ht hc path
  rw [h.policy, h'.policy, Policy.renewed]

theorem documents_read_back_sample :
    let held : Holdings := fun token => if token = 1 ∨ token = 2 then ["/x"] else []
    let p : Policy := { secureDirs := ⟨1, ["/x"]⟩, hostFunctions := none, streams := some [] }
    let l : LivePolicy := {
      policy := p
      index := { roots := some ⟨{}, {}, ⟨1, ["/x"]⟩⟩, trusted := [["x"], ["x", "y"]] } }
    l.InUse LivePolicy.samplePlaces held p ∧ ∃ q, Policy.read 2 p.toJson.render = .ok q ∧
      LivePolicy.InUse LivePolicy.samplePlaces held q { policy := q } ∧
      ∀ path, (LivePolicy.check LivePolicy.samplePlaces {} {} path { policy := q }).1 =
        (l.check LivePolicy.samplePlaces {} {} path).1 := by
  intro held p l
  have hempty : ({} : DirList).Agrees held := rfl
  have hl : l.InUse LivePolicy.samplePlaces held p := by
    refine ⟨rfl, ⟨[.check 0 {} {} "/x/y/a"], fun act hact => ?_, List.Mem.head _⟩, rfl⟩
    obtain rfl := List.mem_singleton.1 hact
    exact ⟨hempty, hempty⟩
  obtain ⟨q, hread, rfl, -, hpaths⟩ := documents_read_back.1 2 p
  have hq : LivePolicy.InUse LivePolicy.samplePlaces held (p.renewed 2) { policy := p.renewed 2 } :=
    ⟨rfl, ⟨[], nofun, List.mem_singleton.2 rfl⟩, rfl⟩
  exact ⟨hl, _, hread, hq, hpaths hl hq hempty hempty⟩

end TagTemplate
