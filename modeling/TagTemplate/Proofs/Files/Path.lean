import Mathlib.Logic.Relation
import TagTemplate.Files.System
import TagTemplate.Proofs.Policy.Trust

namespace TagTemplate

/-! Pieces of a text -/

namespace Text

variable {sep : Char}

theorem splitChars_ne_nil (s : List Char) : splitChars sep s ≠ [] := by
  fun_cases splitChars sep s <;> simp

theorem splitChars_append_cons (a b : List Char) :
    splitChars sep (a ++ sep :: b) = splitChars sep a ++ splitChars sep b := by
  induction a with
  | nil => simp [splitChars]
  | cons c a ih =>
    rw [List.cons_append, splitChars, splitChars, ih]
    split
    next => rfl
    next =>
      cases h : splitChars sep a with
      | nil => exact absurd h (splitChars_ne_nil a)
      | cons piece pieces => rfl

theorem splitChars_of_notMem {s : List Char} (h : sep ∉ s) : splitChars sep s = [s] := by
  induction s with
  | nil => rfl
  | cons c s ih =>
    rw [List.mem_cons, not_or] at h
    rw [splitChars, if_neg (Ne.symm h.1), ih h.2]

theorem notMem_of_mem_splitChars {s piece : List Char} (h : piece ∈ splitChars sep s) :
    sep ∉ piece := by
  induction s generalizing piece with
  | nil => simp_all [splitChars]
  | cons c s ih =>
    rw [splitChars] at h
    split at h
    next =>
      rcases List.mem_cons.1 h with rfl | hmem
      · exact List.not_mem_nil
      · exact ih hmem
    next hc =>
      cases hs : splitChars sep s with
      | nil => exact absurd hs (splitChars_ne_nil s)
      | cons first rest =>
        rw [hs] at h ih
        rcases List.mem_cons.1 h with rfl | hmem
        · simpa [Ne.symm hc] using ih List.mem_cons_self
        · exact ih (List.mem_cons_of_mem _ hmem)

end Text

namespace Path

structure Ordinary (name : String) : Prop where
  ne_empty : name ≠ ""
  ne_here : name ≠ "."
  ne_up : name ≠ ".."
  slash_notMem : '/' ∉ name.toList

/-- Where the names of a path lead from the root, the last name taken last. `..` takes away the name
that was kept last, and leads nowhere from the root. -/
inductive Leads : List String → Location → Prop
  | root : Leads [] []
  | stay {names l name} : Leads names l → name = "" ∨ name = "." → Leads (names ++ [name]) l
  | down {names l name} : Leads names l → Ordinary name → Leads (names ++ [name]) (l ++ [name])
  | up {names l name} : Leads names (l ++ [name]) → Leads (names ++ [".."]) l
  | top {names} : Leads names [] → Leads (names ++ [".."]) []

def Joint (a b : String) : Prop :=
  a.toList.getLast? = some '/' ∨ b = "" ∨ b.toList.head? = some '/'

instance (a b : String) : Decidable (Joint a b) := inferInstanceAs (Decidable (_ ∨ _ ∨ _))

/-- Texts that lead nowhere: a separator, `.`, and an ordinary name with `..` after it, also with
more separators around them. -/
inductive Detour : String → Prop
  | slash : Detour "/"
  | here : Detour "."
  | back {name} : Ordinary name → Detour (name ++ "/..")
  | before {s} : Detour s → Detour ("/" ++ s)
  | behind {s} : Detour s → Detour (s ++ "/")

/-- The second path is the first with a detour put in where a name ends, behind its start. -/
inductive Detours : String → String → Prop
  | insert {a s b} : a ≠ "" → Joint a b → Detour s → Joint a s → Joint s b →
      Detours (a ++ b) (a ++ s ++ b)

def walk (l : Location) (p : String) : Location := (names p).foldl Location.step l

theorem lexical_eq (workDir : Location) (p : String) :
    lexical workDir p = walk (base workDir p) p := rfl

/-! Names -/

theorem slash_notMem_of_mem_names {p name : String} (h : name ∈ names p) : '/' ∉ name.toList := by
  obtain ⟨piece, hpiece, rfl⟩ := List.mem_map.1 h
  rw [String.toList_ofList]
  exact Text.notMem_of_mem_splitChars hpiece

theorem names_append_slash (a b : String) : names (a ++ "/" ++ b) = names a ++ names b := by
  have hchars : (a ++ "/" ++ b).toList = a.toList ++ '/' :: b.toList := by simp
  rw [names, hchars, Text.splitChars_append_cons, List.map_append, names, names]

theorem names_of_notMem {name : String} (h : '/' ∉ name.toList) : names name = [name] := by
  rw [names, Text.splitChars_of_notMem h, List.map_singleton, String.ofList_toList]

theorem names_intercalate {l : List String} (hl : l ≠ []) (h : ∀ name ∈ l, '/' ∉ name.toList) :
    names ("/".intercalate l) = l := by
  induction l with
  | nil => exact absurd rfl hl
  | cons name l ih =>
    rw [List.forall_mem_cons] at h
    cases l with
    | nil => rw [String.intercalate_singleton, names_of_notMem h.1]
    | cons next l =>
      rw [String.intercalate_cons_cons, names_append_slash, names_of_notMem h.1,
        ih (List.cons_ne_nil _ _) h.2, List.singleton_append]

/-! Walks -/

theorem walk_slash (l : Location) (a b : String) : walk l (a ++ "/" ++ b) = walk (walk l a) b := by
  rw [walk, names_append_slash, List.foldl_append, walk, walk]

theorem walk_empty (l : Location) : walk l "" = l := by
  rw [walk, names_of_notMem (by simp), List.foldl_cons, List.foldl_nil, Location.step,
    if_pos (.inl rfl)]

theorem walk_append {a b : String} (h : Joint a b) (l : Location) :
    walk l (a ++ b) = walk (walk l a) b := by
  rcases h with hlast | rfl | hhead
  · obtain ⟨cs, hcs⟩ := List.getLast?_eq_some_iff.1 hlast
    have ha : a = String.ofList cs ++ "/" := by
      simp [← String.toList_inj, hcs]
    have hself : walk l a = walk l (String.ofList cs) := by
      rw [ha, ← String.append_empty (s := _ ++ "/"), walk_slash, walk_empty]
    rw [hself, ha, walk_slash]
  · rw [String.append_empty, walk_empty]
  · obtain ⟨cs, hcs⟩ := List.head?_eq_some_iff.1 hhead
    have hb : b = "/" ++ String.ofList cs := by
      simp [← String.toList_inj, hcs]
    have hself : walk (walk l a) b = walk (walk l a) (String.ofList cs) := by
      rw [hb, ← String.empty_append (s := "/"), walk_slash, walk_empty]
    rw [hself, hb, ← String.append_assoc, walk_slash]

theorem step_ordinary {name : String} (h : Ordinary name) (l : Location) :
    l.step name = l ++ [name] := by
  rw [Location.step, if_neg (not_or.2 ⟨h.ne_empty, h.ne_here⟩), if_neg h.ne_up]

theorem foldl_ordinary {l : List String} (h : ∀ name ∈ l, Ordinary name) (start : Location) :
    l.foldl Location.step start = start ++ l := by
  induction l generalizing start with
  | nil => exact (List.append_nil start).symm
  | cons name l ih =>
    rw [List.forall_mem_cons] at h
    rw [List.foldl_cons, step_ordinary h.1, ih h.2, List.append_assoc, List.singleton_append]

theorem step_up (l : Location) : l.step ".." = l.dropLast := rfl

theorem mem_step_ordinary {l : Location} (hl : ∀ name ∈ l, Ordinary name) {name : String}
    (hname : '/' ∉ name.toList) : ∀ other ∈ l.step name, Ordinary other := by
  rw [Location.step]
  split
  next => exact hl
  next hstay =>
    rw [not_or] at hstay
    split
    next => exact fun other hother => hl other (List.mem_of_mem_dropLast hother)
    next hup =>
      intro other hother
      rcases List.mem_append.1 hother with hmem | hmem
      · exact hl other hmem
      · rw [List.mem_singleton.1 hmem]
        exact ⟨hstay.1, hstay.2, hup, hname⟩

theorem mem_foldl_ordinary {names : List String} (hnames : ∀ name ∈ names, '/' ∉ name.toList)
    {start : Location} (hstart : ∀ name ∈ start, Ordinary name) :
    ∀ name ∈ names.foldl Location.step start, Ordinary name := by
  induction names generalizing start with
  | nil => exact hstart
  | cons name names ih =>
    rw [List.forall_mem_cons] at hnames
    exact ih hnames.2 (mem_step_ordinary hstart hnames.1)

theorem Leads.foldl {names : List String} {l : Location} (h : Leads names l) :
    names.foldl Location.step [] = l := by
  induction h with
  | root => rfl
  | stay _ hname ih =>
    rw [List.foldl_concat, ih]
    exact if_pos hname
  | down _ hname ih => rw [List.foldl_concat, ih, step_ordinary hname]
  | up _ ih => rw [List.foldl_concat, ih, step_up, List.dropLast_concat]
  | top _ ih => rw [List.foldl_concat, ih, step_up, List.dropLast_nil]

theorem leads_foldl {names : List String} (h : ∀ name ∈ names, '/' ∉ name.toList) :
    Leads names (names.foldl Location.step []) := by
  induction names using List.reverseRecOn with
  | nil => exact .root
  | append_singleton names name ih =>
    have hleads := ih fun other hother => h other (List.mem_append_left _ hother)
    rw [List.foldl_concat, Location.step]
    split
    next hstay => exact .stay hleads hstay
    next hstay =>
      rw [not_or] at hstay
      split
      next hup =>
        rw [hup]
        -- `..` takes away the name that was kept last, if one was
        rcases List.eq_nil_or_concat (names.foldl Location.step []) with hl | ⟨l, last, hl⟩
        · rw [hl] at hleads ⊢
          exact .top hleads
        · rw [List.concat_eq_append] at hl
          rw [hl] at hleads ⊢
          rw [List.dropLast_concat]
          exact .up hleads
      next hup =>
        have hslash := h name (List.mem_append_right _ List.mem_cons_self)
        exact .down hleads ⟨hstay.1, hstay.2, hup, hslash⟩

theorem leads_iff {names : List String} (h : ∀ name ∈ names, '/' ∉ name.toList) {l : Location} :
    Leads names l ↔ names.foldl Location.step [] = l :=
  ⟨Leads.foldl, fun hl => hl ▸ leads_foldl h⟩

/-! Detours -/

theorem walk_detour {s : String} (h : Detour s) (l : Location) : walk l s = l := by
  induction h generalizing l with
  | slash => exact (walk_slash l "" "").trans (by rw [walk_empty, walk_empty])
  | here => rfl
  | @back name hname =>
    have hdown : walk l name = l ++ [name] := by
      rw [walk, names_of_notMem hname.slash_notMem]
      exact step_ordinary hname l
    have hup : walk (l ++ [name]) ".." = l := List.dropLast_concat
    have htext : name ++ "/.." = name ++ "/" ++ ".." := by rw [String.append_assoc]; rfl
    rw [htext, walk_slash, hdown, hup]
  | @before s _ ih => rw [← String.empty_append (s := "/"), walk_slash, walk_empty, ih]
  | @behind s _ ih => rw [← String.append_empty (s := s ++ "/"), walk_slash, ih, walk_empty]

theorem isAbsolute_append {a : String} (h : a ≠ "") (b : String) :
    isAbsolute (a ++ b) = isAbsolute a := by
  have hchars : a.toList ≠ [] := by simpa using h
  rw [isAbsolute, String.toList_append, List.head?_append_of_ne_nil _ hchars, isAbsolute]

theorem base_append {a : String} (h : a ≠ "") (workDir : Location) (b : String) :
    base workDir (a ++ b) = base workDir a := by
  rw [base, isAbsolute_append h, base]

theorem lexical_append {a b : String} (h : a ≠ "") (hjoint : Joint a b) (workDir : Location) :
    lexical workDir (a ++ b) = walk (lexical workDir a) b := by
  rw [lexical_eq, base_append h, walk_append hjoint, lexical_eq]

theorem Joint.append_left {s b : String} (h : Joint s b) (a : String) : Joint (a ++ s) b := by
  refine h.imp_left fun hlast => ?_
  rw [String.toList_append, List.getLast?_append, hlast, Option.some_or]

theorem Detours.lexical {p q : String} (h : Detours p q) (workDir : Location) :
    lexical workDir q = lexical workDir p := by
  cases h with
  | @insert a s b ha hab hs has hsb =>
    have hne : a ++ s ≠ "" := by simp [ha]
    rw [lexical_append hne (hsb.append_left a), lexical_append ha has, walk_detour hs,
      lexical_append ha hab]

theorem lexical_eq_of_eqvGen {p q : String} (h : Relation.EqvGen Detours p q)
    (workDir : Location) : lexical workDir q = lexical workDir p := by
  induction h with
  | rel _ _ h => exact h.lexical workDir
  | refl => rfl
  | symm _ _ _ ih => exact ih.symm
  | trans _ _ _ _ _ ih ih' => exact ih'.trans ih

/-! Texts of locations -/

def IsNormal (p : String) : Prop :=
  isAbsolute p ∧ (p = "/" ∨ ∀ name ∈ (names p).tail, Ordinary name)

theorem isAbsolute_text (l : Location) : isAbsolute l.text := by
  simp [Location.text, isAbsolute]

theorem names_text {l : Location} (hl : l ≠ []) (h : ∀ name ∈ l, Ordinary name) :
    names l.text = "" :: l := by
  have htext : l.text = "" ++ "/" ++ "/".intercalate l := by rw [String.empty_append]; rfl
  rw [htext, names_append_slash, names_intercalate hl fun name hname => (h name hname).slash_notMem,
    names_of_notMem (by simp), List.singleton_append]

theorem isNormal_text {l : Location} (h : ∀ name ∈ l, Ordinary name) : IsNormal l.text := by
  refine ⟨isAbsolute_text l, ?_⟩
  by_cases hl : l = []
  · left
    rw [hl]
    rfl
  · right
    rwa [names_text hl h, List.tail_cons]

theorem lexical_text {l : Location} (h : ∀ name ∈ l, Ordinary name) (workDir : Location) :
    lexical workDir l.text = l := by
  rw [lexical_eq, base, if_pos (isAbsolute_text l)]
  by_cases hl : l = []
  · rw [hl]
    rfl
  · rw [walk, names_text hl h, List.foldl_cons]
    exact foldl_ordinary h []

theorem lexical_ordinary {workDir : Location} (h : ∀ name ∈ workDir, Ordinary name) (p : String) :
    ∀ name ∈ lexical workDir p, Ordinary name := by
  refine mem_foldl_ordinary (fun name hname => slash_notMem_of_mem_names hname) ?_
  rw [base]
  split
  · exact List.forall_mem_nil _
  · exact h

theorem isAbsolute_join {w : String} (hw : isAbsolute w) (p : String) : isAbsolute (join w p) := by
  have hne : w ≠ "" := by
    rintro rfl
    cases hw
  rw [join]
  split
  · assumption
  · split
    · rwa [isAbsolute_append hne]
    · rwa [String.append_assoc, isAbsolute_append hne]

theorem walk_join (dir p : String) : walk [] (join dir p) = walk (base (walk [] dir) p) p := by
  rw [join, base]
  by_cases hp : isAbsolute p
  · rw [if_pos hp, if_pos hp]
  · rw [if_neg hp, if_neg hp]
    split
    next hend =>
      rw [Bool.or_eq_true, String.isEmpty_iff, beq_iff_eq] at hend
      rcases hend with rfl | hlast
      · rw [String.empty_append, walk_empty]
      · exact walk_append (.inl hlast) []
    next => exact walk_slash [] dir p

theorem lexical_root (p : String) : lexical [] p = walk [] p := by
  rw [lexical_eq, base, ite_self]

end Path

namespace FileSystem

open TagTemplate.Path

def Unresolved (fs : FileSystem) (p : String) : Prop := ∃ e, fs.locate p = .error e

theorem canonical_of_unresolved {fs : FileSystem} {p : String} (h : fs.Unresolved p) :
    fs.canonical p = lexical fs.workDir p := by
  obtain ⟨e, he⟩ := h
  rw [canonical, he]

/-- The canonical form of a path that leads to nothing is a normal path, where the names of the path
made absolute lead, and its own canonical form. Detours do not change it, nor which directories lie
above it, nor therefore whether a policy trusts the file. -/
theorem canonical_normal {fs : FileSystem} {w p : String} (hw : isAbsolute w)
    (hwork : fs.workDir = lexical [] w) (hp : fs.Unresolved p) :
    IsNormal (fs.canonical p).text ∧ (∀ name ∈ fs.canonical p, Ordinary name) ∧
    isAbsolute (join w p) ∧ (∀ l, Leads (names (join w p)) l ↔ l = fs.canonical p) ∧
    (fs.Unresolved (fs.canonical p).text → fs.canonical (fs.canonical p).text = fs.canonical p) ∧
    ∀ q, Relation.EqvGen Detours p q → fs.Unresolved q →
      fs.canonical q = fs.canonical p ∧
      (∀ dir, dir ∈ (fs.canonical q).above ↔ dir ∈ (fs.canonical p).above) ∧
      ∀ (l : LivePolicy) (templates configs : DirList),
        l.check fs.canonical templates configs q = l.check fs.canonical templates configs p := by
  have hcanonical := canonical_of_unresolved hp
  have hworkDir : ∀ name ∈ lexical [] w, Ordinary name := lexical_ordinary (List.forall_mem_nil _) w
  have hordinary : ∀ name ∈ fs.canonical p, Ordinary name := by
    rw [hcanonical, hwork]
    exact lexical_ordinary hworkDir p
  refine ⟨isNormal_text hordinary, hordinary, isAbsolute_join hw p, fun l => ?_, fun htext => ?_,
    fun q hq hq' => ?_⟩
  · rw [leads_iff fun name => slash_notMem_of_mem_names, ← walk, walk_join, ← lexical_root, ← hwork,
      ← lexical_eq, ← hcanonical, eq_comm]
  · rw [canonical_of_unresolved htext, lexical_text hordinary]
  · have heq : fs.canonical q = fs.canonical p := by
      rw [canonical_of_unresolved hq', lexical_eq_of_eqvGen hq, hcanonical]
    refine ⟨heq, fun dir => by rw [heq], fun l templates configs => ?_⟩
    rw [LivePolicy.check, heq, LivePolicy.check]

def sampleSystem : FileSystem := { workDir := ["w"], entries := ⟨[(["w"], .directory)]⟩ }

theorem canonical_normal_sample :
    isAbsolute "/v/../w/" ∧ sampleSystem.workDir = lexical [] "/v/../w/" ∧
    sampleSystem.Unresolved "a/../../../b//./c" ∧
    Relation.EqvGen Detours "a/../../../b//./c" "a/x/../../../../b//./c/" ∧
    sampleSystem.Unresolved "a/x/../../../../b//./c/" ∧ sampleSystem.Unresolved "/b/c" ∧
    IsNormal (sampleSystem.canonical "a/../../../b//./c").text ∧
    sampleSystem.canonical "/b/c" = ["b", "c"] ∧
    sampleSystem.canonical "a/x/../../../../b//./c/" = ["b", "c"] := by
  have hw : isAbsolute "/v/../w/" := by decide
  have hwork : sampleSystem.workDir = lexical [] "/v/../w/" := by decide
  have hp : sampleSystem.Unresolved "a/../../../b//./c" := ⟨.notFound, by rfl⟩
  have hq : sampleSystem.Unresolved "a/x/../../../../b//./c/" := ⟨.notFound, by rfl⟩
  have htext : sampleSystem.Unresolved "/b/c" := ⟨.notFound, by rfl⟩
  have hcanonical : sampleSystem.canonical "a/../../../b//./c" = ["b", "c"] := by rfl
  have hx : Ordinary "x" := ⟨by decide, by decide, by decide, by decide⟩
  have hback : Detours "a/../../../b//./c" "a/x/../../../../b//./c" :=
    .insert (a := "a") (s := "/x/..") (b := "/../../../b//./c") (by decide) (by decide)
      (.before (.back hx)) (by decide) (by decide)
  have hslash : Detours "a/x/../../../../b//./c" "a/x/../../../../b//./c/" :=
    .insert (a := "a/x/../../../../b//./c") (s := "/") (b := "") (by decide) (by decide) .slash
      (by decide) (by decide)
  have hdetours := Relation.EqvGen.trans _ _ _ (.rel _ _ hback) (.rel _ _ hslash)
  obtain ⟨hnormal, -, -, -, hself, hsame⟩ := canonical_normal hw hwork hp
  rw [hcanonical] at hself hsame
  exact ⟨hw, hwork, hp, hdetours, hq, htext, hnormal, hself htext, (hsame _ hdetours hq).1⟩

end FileSystem

end TagTemplate
