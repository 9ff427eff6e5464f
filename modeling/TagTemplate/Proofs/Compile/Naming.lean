import TagTemplate.Proofs.Compile.Dependency
import TagTemplate.Proofs.Compile.Invariant
import TagTemplate.Proofs.Text.Literal

namespace TagTemplate

def nameText (template uid : String) : String := template ++ "\x00" ++ uid

def MergeKey.text (k : MergeKey) : String := nameText k.template k.uid

def shortDigest (text : String) : List Char := (digest text).toList.take 16

theorem functionName_inj {template template' uid uid' : String} :
    functionName template uid = functionName template' uid' ↔
      shortDigest (nameText template uid) = shortDigest (nameText template' uid') := by
  simp [functionName, shortDigest, nameText, ← String.toList_inj]

theorem length_digest (text : String) : (digest text).toList.length = 64 := by
  simp [digest, Digest.Hash.toHex, Digest.hexWord]

/-- All digests have one length, so that a template name may hold the separator. -/
theorem nameText_inj {template template' text text' : String}
    (h : nameText template (digest text) = nameText template' (digest text')) :
    template = template' ∧ digest text = digest text' := by
  have htext := congrArg String.toList h
  have hlength : (digest text).toList.length = (digest text').toList.length :=
    (length_digest text).trans (length_digest text').symm
  simp only [nameText, String.toList_append] at htext
  obtain ⟨hstart, hdigest⟩ := List.append_inj' htext hlength
  exact ⟨String.toList_inj.1 (List.append_cancel_right hstart), String.toList_inj.1 hdigest⟩

theorem Include.text_inj {file file' : String} {compileId compileId' : Option String}
    (h : (key file compileId).text = (key file' compileId').text) :
    key file compileId = key file' compileId' := by
  obtain ⟨htemplate, huid⟩ := nameText_inj h
  exact congrArg₂ MergeKey.mk htemplate huid

namespace Library

variable (library : Library) (name : String)

theorem exists_cons_identity : ∃ c r, (library.identity name).toList = c :: r ∧
    Text.isBlank c = false ∧ Text.isQuote c = false ∧ c ≠ '$' := by
  cases hinline : Source.inline? name with
  | some s =>
    rw [identity_of_inline_eq_some hinline]
    obtain ⟨content, ⟨rfl, -⟩ | ⟨rfl, -⟩⟩ := Source.inline_cases hinline
    · exact ⟨'s', _, String.toList_append, rfl, rfl, by decide⟩
    · exact ⟨'e', _, String.toList_append, rfl, rfl, by decide⟩
  | none =>
    rw [identity_of_inline_eq_none hinline]
    cases library.contains (key name) with
    | true => exact ⟨'m', _, String.toList_append, rfl, rfl, by decide⟩
    | false => exact ⟨'f', _, String.toList_append, rfl, rfl, by decide⟩

theorem isLiteral_identity : Text.isLiteral (library.identity name) = false := by
  obtain ⟨c, r, htext, hblank, hquote, -⟩ := library.exists_cons_identity name
  exact Text.isLiteral_eq_false htext hblank hquote

theorem identity_ne_defaultCompileId : library.identity name ≠ Include.defaultCompileId := by
  intro heq
  obtain ⟨c, r, htext, -, -, hc⟩ := library.exists_cons_identity name
  have hdefault : Include.defaultCompileId.toList = '$' :: "_tpl->compileId".toList := by decide
  rw [heq, hdefault] at htext
  exact hc (List.cons.inj htext).1.symm

theorem identity_ne_compileId {file : String} {compileId : Option String}
    (h : Include.obstacle file compileId = none) :
    library.identity name ≠ compileId.getD Include.defaultCompileId := by
  cases compileId with
  | none => exact library.identity_ne_defaultCompileId name
  | some id =>
    rintro rfl
    cases (library.isLiteral_identity name).symm.trans (Include.isLiteral_of_obstacle h)

end Library

namespace Compilation

section

variable {env : Environment} {name : String} {inBlock : Bool} {trust : TrustIndex} {a : Artifact}
  (c : Compilation env name inBlock trust a)

theorem keyed : c.pass.Keyed := by
  have hkeyed := @keyed_compileTemplate env c.source inBlock c.entryTrust
  rw [c.compiled] at hkeyed
  exact hkeyed

theorem keys_records : c.pass.session.records.keys = Event.keys c.pass.trace := by
  obtain ⟨events, hgrows⟩ :=
    @grows_compileTemplate env c.source inBlock { trust := c.entryTrust }
  rw [c.compiled] at hgrows
  rw [hgrows.keys, hgrows.trace]
  change [] ++ Event.keys events = Event.keys (events ++ [])
  rw [List.nil_append, List.append_nil]

theorem exists_include {k : MergeKey} (h : k ∈ c.pass.session.records.keys) :
    ∃ file compileId function code, .called file compileId function code ∈ c.pass.trace ∧
      Include.obstacle file compileId = none ∧ Include.key file compileId = k := by
  obtain ⟨r, hr⟩ := Table.mem_keys_iff.1 h
  obtain ⟨file, compileId, code, hcall, hkey⟩ := (c.finished hr).called
  exact ⟨file, compileId, _, code, hcall, (c.keyed.calls hcall).1.literal, hkey⟩

theorem text_inj {j k : MergeKey} (hj : j ∈ c.pass.session.records.keys)
    (hk : k ∈ c.pass.session.records.keys) (h : j.text = k.text) : j = k := by
  obtain ⟨file, compileId, _, _, -, -, rfl⟩ := c.exists_include hj
  obtain ⟨file', compileId', _, _, -, -, rfl⟩ := c.exists_include hk
  exact Include.text_inj h

theorem map_function_merged : c.pass.session.merged.map Merged.function =
    c.pass.session.records.keys.map MergeKey.function := by
  rw [Session.merged, Table.values, Table.keys, List.map_map, List.map_map]
  apply List.map_congr_left
  intro entry hentry
  exact c.function_eq (Table.find?_of_mem c.nodup_keys hentry)

end

variable {env : Environment} {library : Library} {name : String} {inBlock : Bool}
  {trust : TrustIndex} {a : Artifact} (c : Compilation (env.over library) name inBlock trust a)

/-- The texts whose digests decide the names of functions: those that functions are named after,
that of the source, and the compile identities of the includes that are merged. -/
inductive Hashes : String → Prop
  | source : Hashes (library.identity name)
  | own : Hashes (nameText c.source.name c.source.uid)
  | compileId {file compileId function code} : .called file compileId function code ∈ c.pass.trace →
      Hashes (compileId.getD Include.defaultCompileId)
  | key {k} : k ∈ c.pass.session.records.keys → Hashes k.text

def Unclashing : Prop := ∀ s t, c.Hashes s → c.Hashes t → shortDigest s = shortDigest t → s = t

variable {c}

theorem Unclashing.distinct (h : c.Unclashing) : c.Distinct := by
  intro j hj k hk hfunction
  apply c.text_inj hj hk
  exact h _ _ (.key hj) (.key hk) (functionName_inj.1 hfunction)

theorem Unclashing.function_ne (h : c.Unclashing) {k : MergeKey}
    (hk : k ∈ c.pass.session.records.keys) : a.function ≠ k.function := by
  obtain ⟨file, compileId, function, code, hcall, hliteral, rfl⟩ := c.exists_include hk
  have hown : a.function = functionName c.source.name c.source.uid :=
    congrArg Artifact.function c.artifact
  intro heq
  rw [hown] at heq
  have htext := h _ _ .own (.key hk) (functionName_inj.1 heq)
  -- equal names would give the source and the compile identity one digest
  rw [c.source_eq, library.uid_source] at htext
  have huid := (nameText_inj htext).2
  have hidentity := h _ _ .source (.compileId hcall) (by rw [shortDigest, huid, shortDigest])
  exact library.identity_ne_compileId name hliteral hidentity

theorem Unclashing.nodup_functions (h : c.Unclashing) :
    (c.pass.session.merged.map Merged.function).Nodup := by
  rw [c.map_function_merged]
  exact c.nodup_keys.map_on h.distinct

theorem Unclashing.entries_functions (h : c.Unclashing) :
    a.functions.entries = c.pass.session.merged.map fun r => (r.function, r.body) := by
  rw [c.functions_eq]
  apply Table.entries_ofList
  rw [List.map_map]
  exact h.nodup_functions

end Compilation

/-- The functions of an artifact have different names, so that it has one for each template that is
merged, in the order of merging and with the body of the template. Keys of merged templates differ
also in the texts that their functions are named after. -/
theorem compileArtifact_named {env : Environment} {library : Library} {name : String}
    {inBlock : Bool} {trust trust' : TrustIndex} {a : Artifact}
    (h : (compileArtifact (env.over library) name inBlock).Yields trust a trust') :
    ∃ c : Compilation (env.over library) name inBlock trust a,
      c.pass.session.merged.map Merged.function =
        (Event.keys c.pass.trace).map MergeKey.function ∧
      (∀ j ∈ Event.keys c.pass.trace, ∀ k ∈ Event.keys c.pass.trace, j ≠ k → j.text ≠ k.text) ∧
      (c.Unclashing → (a.function :: a.functions.keys).Nodup ∧
        a.functions.entries = c.pass.session.merged.map fun r => (r.function, r.body)) := by
  obtain ⟨c, -⟩ := exists_compilation h
  refine ⟨c, ?_⟩
  rw [← c.keys_records]
  refine ⟨c.map_function_merged, fun j hj k hk => mt (c.text_inj hj hk), fun hc => ?_⟩
  have hentries := hc.entries_functions
  have hkeys : a.functions.keys = c.pass.session.merged.map Merged.function := by
    rw [Table.keys, hentries, List.map_map]
    rfl
  refine ⟨?_, hentries⟩
  rw [hkeys, List.nodup_cons]
  refine ⟨?_, hc.nodup_functions⟩
  rw [c.map_function_merged]
  intro hmem
  obtain ⟨k, hk, heq⟩ := List.mem_map.1 hmem
  exact hc.function_ne hk heq.symm

def Event.identifiesAs (compileId : Option String) : Event → Bool
  | .called _ id _ _ => id == compileId
  | _ => true

theorem compileArtifact_named_sample :
    ∃ a trust', (compileArtifact ((Environment.sample none).over .sample) "main" false).Yields {} a
        trust' ∧
      a.functions.keys.length = 1 ∧
      ∃ c : Compilation ((Environment.sample none).over .sample) "main" false {} a,
        c.Unclashing ∧ (a.function :: a.functions.keys).Nodup ∧
        a.functions.entries = c.pass.session.merged.map fun r => (r.function, r.body) := by
  obtain ⟨a, trust', h, hlength⟩ : ∃ a trust',
      (compileArtifact ((Environment.sample none).over .sample) "main" false).Yields {} a trust' ∧
      (a.functions.keys.length == 1) = true :=
    Step.exists_yields (by decide +kernel)
  obtain ⟨c, -, -, hfunctions⟩ := compileArtifact_named h
  have hkeys : c.pass.session.records.keys = [Include.key "'part'" none] := by
    rw [c.pass_eq]
    decide +kernel
  have hcalls : c.pass.trace.all (Event.identifiesAs none) = true := by
    rw [c.pass_eq]
    decide +kernel
  let main := Library.sample.source "main"
  let texts := [Library.sample.identity "main", nameText main.name main.uid,
    Include.defaultCompileId, (Include.key "'part'" none).text]
  have htexts (text : String) (htext : c.Hashes text) : text ∈ texts := by
    cases htext with
    | source => exact List.mem_cons_self
    | own =>
      rw [c.source_eq]
      exact List.mem_cons_of_mem _ List.mem_cons_self
    | compileId hcall =>
      cases beq_iff_eq.1 (List.all_eq_true.1 hcalls _ hcall)
      simp [texts]
    | key hk =>
      rw [hkeys] at hk
      cases List.mem_singleton.1 hk
      simp [texts]
  have hdigests : (texts.map shortDigest).Nodup := by decide +kernel
  have hc : c.Unclashing := fun s t hs ht heq =>
    List.inj_on_of_nodup_map hdigests (htexts s hs) (htexts t ht) heq
  exact ⟨a, trust', h, beq_iff_eq.1 hlength, c, hc, hfunctions hc⟩

end TagTemplate
