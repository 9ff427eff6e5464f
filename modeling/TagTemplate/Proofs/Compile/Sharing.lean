import Mathlib.Data.List.Perm.Subperm
import TagTemplate.Proofs.Compile.Naming

namespace TagTemplate

namespace Library

variable {library : Library} {name name' : String}

def Prefixed (name : String) : Prop := ∃ rest, name = "file:" ++ rest

theorem key_append (rest : String) : key ("file:" ++ rest) = rest := by
  simp [key, Text.dropStart?]

theorem key_of_not_prefixed (h : ¬ Prefixed name) : key name = name := by
  rw [key, Text.dropStart?, if_neg, Option.getD_none]
  intro hprefix
  obtain ⟨rest, hrest⟩ := List.isPrefixOf_iff_prefix.1 hprefix
  refine h ⟨String.ofList rest, String.toList_inj.1 ?_⟩
  rw [← hrest]
  simp

theorem not_prefixed_of_inline {s : Source} (h : Source.inline? name = some s) :
    ¬ Prefixed name := by
  rintro ⟨rest, heq⟩
  have htext := congrArg String.toList heq
  obtain ⟨content, ⟨rfl, -⟩ | ⟨rfl, -⟩⟩ := Source.inline_cases h <;> simp at htext

theorem name_source (name : String) : (library.source name).name = key name := by
  unfold source
  cases hinline : Source.inline? name with
  | some s =>
    rw [key_of_not_prefixed (not_prefixed_of_inline hinline)]
    obtain ⟨content, ⟨-, rfl⟩ | ⟨-, rfl⟩⟩ := Source.inline_cases hinline <;> rfl
  | none => cases library.find? (key name) <;> rfl

theorem eq_iff_prefixed (h : (library.source name).name = (library.source name').name) :
    name = name' ↔ (Prefixed name ↔ Prefixed name') := by
  rw [name_source, name_source] at h
  constructor
  · rintro rfl
    rfl
  intro hiff
  by_cases hname : Prefixed name
  · obtain ⟨rest, rfl⟩ := hname
    obtain ⟨rest', rfl⟩ := hiff.1 ⟨rest, rfl⟩
    rw [key_append, key_append] at h
    rw [h]
  · rw [← key_of_not_prefixed hname, h, key_of_not_prefixed (mt hiff.2 hname)]

end Library

variable {env : Environment} {library : Library}

structure MergeKey.Clashes (j k : MergeKey) : Prop where
  texts : j.text ≠ k.text
  digests : shortDigest j.text = shortDigest k.text

theorem MergeKey.eq_iff_prefixed {j k : MergeKey}
    (hname : (library.source j.template).name = (library.source k.template).name)
    (huid : j.uid = k.uid) :
    j = k ↔ (Library.Prefixed j.template ↔ Library.Prefixed k.template) := by
  rw [← Library.eq_iff_prefixed hname]
  constructor
  · exact congrArg template
  · exact fun htemplate => congrArg₂ mk htemplate huid

theorem MergeKey.function_eq_iff {j k : MergeKey}
    (hname : (library.source j.template).name = (library.source k.template).name)
    (huid : j.uid = k.uid) :
    j.function = k.function ↔
      (Library.Prefixed j.template ↔ Library.Prefixed k.template) ∨ j.Clashes k := by
  rw [← eq_iff_prefixed hname huid]
  constructor
  · intro hfunction
    by_cases htext : j.text = k.text
    · rw [text, text, nameText, nameText, huid] at htext
      have htemplate := (String.append_left_inj _).1 ((String.append_left_inj _).1 htext)
      exact .inl (congrArg₂ mk htemplate huid)
    · exact .inr ⟨htext, functionName_inj.1 hfunction⟩
  · intro h
    cases h with
    | inl heq => rw [heq]
    | inr hclash => exact functionName_inj.2 hclash.digests

def Include.named (file : String) : String := (Text.unquote file).getD file

def Pass.Calls (p : Pass) (file : String) (compileId : Option String) (function : String) : Prop :=
  ∃ code, .called file compileId function code ∈ p.trace ∧ Occurs (function ++ "($_tpl);\n") code

theorem Pass.Keyed.function_eq_of_calls {p : Pass} (h : p.Keyed) {file function : String}
    {compileId : Option String} (hcall : p.Calls file compileId function) :
    function = (Include.key file compileId).function := by
  obtain ⟨code, hmem, -⟩ := hcall
  exact (h.calls hmem).2

theorem Pass.Keyed.mem_functions {p : Pass} (h : p.Keyed) (hnodup : p.session.records.keys.Nodup)
    (s : Source) (result : Compiled) {function : String} :
    function ∈ (Artifact.ofCompiled env s result p.session).functions.keys ↔
      ∃ k ∈ p.session.records.keys, function = k.function := by
  have hfunction {k : MergeKey} {r : Merged} (hr : p.record? k = some r) :
      r.function = k.function := h.function_eq (congrArg (Option.map Merged.function) hr)
  rw [Pass.mem_functions hnodup]
  constructor
  · rintro ⟨k, r, hr, rfl⟩
    exact ⟨k, Table.mem_keys_of_find? hr, hfunction hr⟩
  · rintro ⟨k, hk, rfl⟩
    obtain ⟨r, hr⟩ := Table.mem_keys_iff.1 hk
    exact ⟨k, r, hr, hfunction hr⟩

theorem MergeKey.countP_le_two {keys : List MergeKey} (h : keys.Nodup) (name uid : String) :
    keys.countP (fun k => (library.source k.template).name = name ∧ k.uid = uid) ≤ 2 := by
  rw [List.countP_eq_length_filter]
  have hsub : keys.filter (fun k => (library.source k.template).name = name ∧ k.uid = uid) ⊆
      [⟨name, uid⟩, ⟨"file:" ++ name, uid⟩] := by
    intro k hk
    obtain ⟨hname, rfl⟩ := of_decide_eq_true (List.mem_filter.1 hk).2
    rw [Library.name_source] at hname
    -- a name has the scheme or is the name of the source itself, there is no third spelling
    by_cases hprefixed : Library.Prefixed k.template
    · obtain ⟨rest, hrest⟩ := hprefixed
      rw [hrest, Library.key_append] at hname
      rw [← hname, ← hrest]
      simp
    · rw [Library.key_of_not_prefixed hprefixed] at hname
      rw [← hname]
      simp
  exact ((h.filter _).subperm hsub).length_le

/-- Whatever the outcome of a compilation, includes whose files are sources of one name and whose
compile identities are the same call one function if they write the name alike, and else only by
chance. So an artifact has two functions at most for such a source. -/
theorem compileTemplate_shared (env : Environment) (library : Library) (s : Source)
    (inBlock : Bool) (trust : TrustIndex) :
    let p := ((compileTemplate (env.over library) s inBlock).run { trust }).2
    (∀ file file' compileId function function', p.Calls file compileId function →
      p.Calls file' compileId function' →
      (library.source (Include.named file)).name = (library.source (Include.named file')).name →
      (function = function' ↔
        (Library.Prefixed (Include.named file) ↔ Library.Prefixed (Include.named file')) ∨
          (Include.key file compileId).Clashes (Include.key file' compileId))) ∧
    (∀ result function,
      function ∈ (Artifact.ofCompiled (env.over library) s result p.session).functions.keys ↔
        ∃ k ∈ p.session.records.keys, function = k.function) ∧
    ∀ name uid, p.session.records.keys.countP
      (fun k => (library.source k.template).name = name ∧ k.uid = uid) ≤ 2 := by
  intro p
  have hkeyed : p.Keyed := keyed_compileTemplate s inBlock trust
  have hnodup := nodup_keys_compileTemplate (env.over library) s inBlock trust
  refine ⟨fun file file' compileId function function' hcall hcall' hname => ?_,
    fun result function => hkeyed.mem_functions hnodup s result, MergeKey.countP_le_two hnodup⟩
  rw [hkeyed.function_eq_of_calls hcall, hkeyed.function_eq_of_calls hcall']
  exact MergeKey.function_eq_iff hname rfl

def Environment.sampleSpellings : Environment := { Environment.sample none with
  parse := fun s => .ok (
    if s.name = "main" then
      ["'part'", "\"part\"", "'file:part'"].map fun file =>
        .tag { name := "include", args := [.positional (.expr (.code file))] }
    else [.text "P"]) }

def Event.codes? : Event → Option (String × Option String)
  | .called file compileId _ _ => some (file, compileId)
  | _ => none

theorem Pass.Keyed.exists_calls {p : Pass} (h : p.Keyed) {file : String}
    {compileId : Option String} (hmem : (file, compileId) ∈ p.trace.filterMap Event.codes?) :
    ∃ function, p.Calls file compileId function := by
  obtain ⟨event, hevent, hcodes⟩ := List.mem_filterMap.1 hmem
  cases event with
  | called file compileId function code =>
    cases hcodes
    exact ⟨function, code, hevent, (h.calls hevent).1.occurs⟩
  | _ => cases hcodes

def Pass.SpellsSample (p : Pass) : Prop :=
  p = ((compileTemplate (Environment.sampleSpellings.over .sample) (Library.sample.source "main")
    false).run { trust := {} }).2

theorem exists_spellsSample : ∃ p : Pass, p.SpellsSample ∧ p.Keyed ∧
    p.trace.filterMap Event.codes? = [("'file:part'", none), ("\"part\"", none), ("'part'", none)] ∧
    p.session.merged.map (fun r => (r.function, r.body)) =
      [((Include.key "'part'" none).function, "echo 'P';\n"),
        ((Include.key "'file:part'" none).function, "echo 'P';\n")] ∧
    (Include.key "'part'" none).function ≠ (Include.key "'file:part'" none).function := by
  refine ⟨_, rfl, keyed_compileTemplate _ _ _, ?_⟩
  decide +kernel

theorem compileTemplate_shared_spellings :
    ∃ p : Pass, p.SpellsSample ∧ ∃ function function', p.Calls "'part'" none function ∧
      p.Calls "\"part\"" none function' ∧ function = function' := by
  obtain ⟨p, hp, hkeyed, hcodes, -⟩ := exists_spellsSample
  obtain ⟨function, hcall⟩ : ∃ function, p.Calls "'part'" none function :=
    hkeyed.exists_calls (by rw [hcodes]; decide)
  obtain ⟨function', hcall'⟩ : ∃ function, p.Calls "\"part\"" none function :=
    hkeyed.exists_calls (by rw [hcodes]; decide)
  obtain ⟨hshared, -⟩ := compileTemplate_shared .sampleSpellings .sample
    (Library.sample.source "main") false {}
  rw [← hp] at hshared
  have hnamed : Include.named "\"part\"" = Include.named "'part'" := by decide
  refine ⟨p, hp, function, function', hcall, hcall',
    (hshared _ _ none _ _ hcall hcall' ?_).2 (.inl ?_)⟩
  · rw [hnamed]
  · rw [hnamed]

/-- A template that is named with the scheme for files and without it has two functions. -/
theorem compileTemplate_not_shared :
    (Library.sample.source (Include.named "'part'")).name =
      (Library.sample.source (Include.named "'file:part'")).name ∧
    ∃ p : Pass, p.SpellsSample ∧ ∃ function function', p.Calls "'part'" none function ∧
      p.Calls "'file:part'" none function' ∧ function ≠ function' ∧
      p.session.merged.map (fun r => (r.function, r.body)) =
        [(function, "echo 'P';\n"), (function', "echo 'P';\n")] := by
  obtain ⟨p, hp, hkeyed, hcodes, hmerged, hne⟩ := exists_spellsSample
  obtain ⟨function, hcall⟩ : ∃ function, p.Calls "'part'" none function :=
    hkeyed.exists_calls (by rw [hcodes]; decide)
  obtain ⟨function', hcall'⟩ : ∃ function, p.Calls "'file:part'" none function :=
    hkeyed.exists_calls (by rw [hcodes]; decide)
  refine ⟨by decide, p, hp, function, function', hcall, hcall', ?_⟩
  rw [hkeyed.function_eq_of_calls hcall, hkeyed.function_eq_of_calls hcall']
  exact ⟨hne, hmerged⟩

end TagTemplate
