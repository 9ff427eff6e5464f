import TagTemplate.Proofs.Compile.Run
import TagTemplate.Proofs.Host.Literal

namespace TagTemplate

namespace Text

def resolved (q c : Char) : List Char :=
  if c = '\\' ∨ c = q then [c]
  else if q = '"' ∧ c = 'n' then ['\n']
  else if q = '"' ∧ c = 't' then ['\t']
  else if q = '"' ∧ c = 'r' then ['\r']
  else ['\\', c]

/-- The host resolves a backslash before the characters, and the reader here keeps it. -/
def isForeign : List Char → Bool
  | [] => false
  | c :: r =>
    ['v', 'e', 'f'].contains c || Host.isOctalDigit c || c == 'x' && r.head?.any Host.isHexDigit

def hasForeign : List Char → Bool
  | [] => false
  | '\\' :: c :: r => isForeign (c :: r) || hasForeign r
  | _ :: r => hasForeign r

def Foreign (q : Char) (body : List Char) : Prop := q = '"' ∧ hasForeign body = true

variable {q c : Char} {s body code v : List Char}

theorem unescapeChars_cons (hc : c ≠ '\\') (r : List Char) :
    unescapeChars q (c :: r) = c :: unescapeChars q r := by
  rw [unescapeChars]
  · intro heq
    exact absurd heq hc
  · intro _ _ heq
    exact absurd heq hc

theorem unescapeChars_escaped (q c : Char) (r : List Char) :
    unescapeChars q ('\\' :: c :: r) = resolved q c ++ unescapeChars q r := by
  rw [unescapeChars, resolved]
  split
  · rfl
  split
  · rfl
  split
  · rfl
  split <;> rfl

theorem hasForeign_cons (hc : c ≠ '\\') (r : List Char) : hasForeign (c :: r) = hasForeign r := by
  rw [hasForeign]
  intro _ _ heq
  exact absurd heq hc

/-! Single quotes -/

theorem singleValue_eq_unescapeChars (h : LiteralBody '\'' body) :
    Host.singleValue body = unescapeChars '\'' body := by
  induction h with
  | nil => rfl
  | plain _ hb _ ih => rw [Host.singleValue_cons hb, unescapeChars_cons hb, ih]
  | @escaped c r _ ih =>
    rw [unescapeChars_escaped, ← ih]
    by_cases hslash : c = '\\'
    · rw [hslash, Host.singleValue]
      rfl
    by_cases hquote : c = '\''
    · rw [hquote, Host.singleValue]
      rfl
    have hsingle : Host.singleValue ('\\' :: c :: r) = '\\' :: Host.singleValue (c :: r) := by
      rw [Host.singleValue]
      · rintro _ - ⟨⟩
        exact hslash rfl
      · rintro _ - ⟨⟩
        exact hquote rfl
    rw [hsingle, Host.singleValue_cons hslash]
    simp [resolved, hslash, hquote]

/-! Double quotes -/

theorem forall_mem_take_digits (p : Char → Bool) (n : Nat) (s : List Char) :
    ∀ c ∈ s.take ((s.take n).takeWhile p).length, p c = true := by
  have hprefix : (s.take n).takeWhile p <+: s :=
    (List.takeWhile_prefix p).trans (List.take_prefix n s)
  rw [← List.prefix_iff_eq_take.1 hprefix]
  intro c hc
  exact List.mem_takeWhile_imp hc

theorem notMem_take_digits {p : Char → Bool} (hp : p '\\' = false) (n : Nat) (s : List Char) :
    '\\' ∉ s.take ((s.take n).takeWhile p).length := by
  intro hmem
  cases hp.symm.trans (forall_mem_take_digits p n s _ hmem)

theorem isEmpty_digits {p : Char → Bool} (n : Nat) (s : List Char) :
    (!((s.take (n + 1)).takeWhile p).isEmpty) = s.head?.any p := by
  cases s with
  | nil => rfl
  | cons c s =>
    rw [List.take_succ_cons, List.takeWhile_cons]
    cases hc : p c <;> simp [hc]

inductive Takes (c : Char) (r : List Char) : Prop
  | shared (d : Char) : resolved '"' c = [d] → isForeign (c :: r) = false →
      Host.escape? (c :: r) = some (d.toNat, 1) → d.toNat < 128 → Takes c r
  | kept : c ≠ '\\' → resolved '"' c = ['\\', c] → isForeign (c :: r) = false →
      Host.escape? (c :: r) = none → Takes c r
  | foreign (byte n : Nat) : c ≠ '\\' → resolved '"' c = ['\\', c] → isForeign (c :: r) = true →
      Host.escape? (c :: r) = some (byte, n + 1) → '\\' ∉ r.take n → Takes c r

section Unnamed

variable (h : c ∉ Host.namedEscapes.map Prod.fst)
include h

theorem resolved_of_unnamed : resolved '"' c = ['\\', c] := by
  simp only [Host.namedEscapes, List.map_cons, List.mem_cons, not_or] at h
  obtain ⟨hslash, hquote, hn, ht, hr, -⟩ := h
  simp [resolved, hslash, hquote, hn, ht, hr]

theorem isForeign_of_unnamed (r : List Char) :
    isForeign (c :: r) = (Host.isOctalDigit c || c == 'x' && r.head?.any Host.isHexDigit) := by
  simp only [Host.namedEscapes, List.map_cons, List.mem_cons, not_or] at h
  obtain ⟨-, -, -, -, -, hv, he, hf, -⟩ := h
  simp [isForeign, hv, he, hf]

theorem escape?_of_unnamed (r : List Char) :
    Host.escape? (c :: r) =
      if c = 'x' then Host.numbered 16 1 ((r.take 2).takeWhile Host.isHexDigit)
      else Host.numbered 8 0 (((c :: r).take 3).takeWhile Host.isOctalDigit) := by
  have hlookup : Host.namedEscapes.lookup c = none := by
    rw [List.lookup_eq_none_iff]
    intro p hp
    have hne : c ≠ p.1 := fun heq => h (heq ▸ List.mem_map_of_mem hp)
    exact bne_iff_ne.2 hne
  rw [Host.escape?, hlookup]

theorem takes_of_unnamed (r : List Char) : Takes c r := by
  have hslash : c ≠ '\\' := fun heq => h (heq ▸ List.mem_cons_self)
  have hresolved := resolved_of_unnamed h
  have hforeign := isForeign_of_unnamed h r
  have hescape := escape?_of_unnamed h r
  by_cases hx : c = 'x'
  · rw [if_pos hx] at hescape
    have hdigits : isForeign (c :: r) = !((r.take 2).takeWhile Host.isHexDigit).isEmpty := by
      rw [hforeign, isEmpty_digits, hx]
      rfl
    cases hempty : ((r.take 2).takeWhile Host.isHexDigit).isEmpty with
    | true =>
      rw [Host.numbered, if_pos hempty] at hescape
      exact .kept hslash hresolved (by rw [hdigits, hempty]; rfl) hescape
    | false =>
      rw [Host.numbered, if_neg (by simp [hempty])] at hescape
      exact .foreign _ _ hslash hresolved (by rw [hdigits, hempty]; rfl) hescape
        (notMem_take_digits (by decide) 2 r)
  · rw [if_neg hx, List.take_succ_cons, List.takeWhile_cons] at hescape
    have hdigit : isForeign (c :: r) = Host.isOctalDigit c := by simp [hforeign, hx]
    cases hoctal : Host.isOctalDigit c with
    | true =>
      rw [hoctal, if_pos rfl] at hescape
      exact .foreign _ _ hslash hresolved (hdigit.trans hoctal) hescape
        (notMem_take_digits (by decide) 2 r)
    | false =>
      rw [hoctal, if_neg Bool.false_ne_true] at hescape
      exact .kept hslash hresolved (hdigit.trans hoctal) hescape

end Unnamed

theorem takes (c : Char) (r : List Char) : Takes c r := by
  by_cases h : c ∈ Host.namedEscapes.map Prod.fst
  · simp only [Host.namedEscapes, List.map_cons, List.map_nil, List.mem_cons, List.not_mem_nil,
      or_false] at h
    obtain rfl | rfl | rfl | rfl | rfl | rfl | rfl | rfl := h
    · exact .shared '\\' rfl rfl rfl (by decide)
    · exact .shared '"' rfl rfl rfl (by decide)
    · exact .shared '\n' rfl rfl rfl (by decide)
    · exact .shared '\t' rfl rfl rfl (by decide)
    · exact .shared '\r' rfl rfl rfl (by decide)
    · exact .foreign 0x0B 0 (by decide) rfl rfl rfl List.not_mem_nil
    · exact .foreign 0x1B 0 (by decide) rfl rfl rfl List.not_mem_nil
    · exact .foreign 0x0C 0 (by decide) rfl rfl rfl List.not_mem_nil
  · exact takes_of_unnamed h r

/-! Bodies -/

theorem doubleValue?_skip (n : Nat) (s : List Char) :
    Host.doubleValue? n s = Host.doubleValue? 0 (s.drop n) := by
  induction n generalizing s with
  | zero => rfl
  | succ n ih =>
    cases s with
    | nil => rfl
    | cons c s => rw [Host.doubleValue?, ih, List.drop_succ_cons]

theorem doubleValue?_cons (hc : c ≠ '\\') (s : List Char) :
    Host.doubleValue? 0 (c :: s) = (Host.doubleValue? 0 s).map (c :: ·) := by
  rw [Host.doubleValue?]
  intro heq
  exact absurd heq hc

theorem doubleValue?_append (hs : '\\' ∉ s) (r : List Char) :
    Host.doubleValue? 0 (s ++ r) = (Host.doubleValue? 0 r).map (s ++ ·) := by
  induction s with
  | nil => simp
  | cons c s ih =>
    rw [List.mem_cons, not_or] at hs
    rw [List.cons_append, doubleValue?_cons (Ne.symm hs.1), ih hs.2, Option.map_map]
    rfl

theorem doubleValue?_of_hasForeign (h : LiteralBody '"' body) (hown : hasForeign body = false) :
    Host.doubleValue? 0 body = some (unescapeChars '"' body) := by
  induction h with
  | nil => rfl
  | plain _ hb _ ih =>
    rw [hasForeign_cons hb] at hown
    rw [doubleValue?_cons hb, ih hown, unescapeChars_cons hb, Option.map_some]
  | @escaped c r _ ih =>
    rw [hasForeign, Bool.or_eq_false_iff] at hown
    rw [unescapeChars_escaped, Host.doubleValue?]
    cases takes c r with
    | shared d hresolved _ hescape hascii =>
      rw [hescape, hresolved]
      simp only [hascii, if_true, doubleValue?_skip 1, List.drop_one, List.tail_cons, ih hown.2,
        Char.ofNat_toNat, Option.map_some]
      rfl
    | kept hslash hresolved _ hescape =>
      rw [hescape, hresolved]
      simp only [doubleValue?_cons hslash, ih hown.2, Option.map_some]
      rfl
    | foreign _ _ _ _ hforeign => cases hforeign.symm.trans hown.1

theorem length_doubleValue (h : LiteralBody '"' body) (hv : Host.doubleValue? 0 body = some v) :
    v.length + (hasForeign body).toNat ≤ (unescapeChars '"' body).length := by
  induction h generalizing v with
  | nil =>
    cases hv
    exact Nat.le_refl _
  | plain _ hb _ ih =>
    rw [doubleValue?_cons hb] at hv
    obtain ⟨w, hw, rfl⟩ := Option.map_eq_some_iff.1 hv
    have hle := ih hw
    rw [hasForeign_cons hb, unescapeChars_cons hb, List.length_cons, List.length_cons]
    omega
  | @escaped c r _ ih =>
    rw [unescapeChars_escaped, hasForeign, List.length_append]
    rw [Host.doubleValue?] at hv
    cases takes c r with
    | shared d hresolved hforeign hescape hascii =>
      rw [hescape] at hv
      simp only [hascii, if_true] at hv
      obtain ⟨w, hw, rfl⟩ := Option.map_eq_some_iff.1 hv
      have hle := ih hw
      rw [hresolved, hforeign, Bool.false_or, List.length_cons, List.length_singleton]
      omega
    | kept hslash hresolved hforeign hescape =>
      rw [hescape] at hv
      simp only [doubleValue?_cons hslash, Option.map_map] at hv
      obtain ⟨w, hw, rfl⟩ := Option.map_eq_some_iff.1 hv
      have hle := ih hw
      rw [hresolved, hforeign, Bool.false_or, Function.comp_apply]
      simp only [List.length_cons, List.length_nil]
      omega
    | foreign byte n _ hresolved hforeign hescape hdigits =>
      rw [hescape] at hv
      simp only [Option.ite_none_right_eq_some] at hv
      obtain ⟨-, hv⟩ := hv
      obtain ⟨w, hw, rfl⟩ := Option.map_eq_some_iff.1 hv
      -- the reader here keeps the digits that the host takes into the escape
      have hrest : Host.doubleValue? 0 r = some (r.take n ++ w) := by
        rw [Host.doubleValue?, doubleValue?_skip] at hw
        rw [← List.take_append_drop n r, doubleValue?_append hdigits, hw, List.take_append_drop]
        rfl
      have hle := ih hrest
      rw [List.length_append] at hle
      rw [hresolved, hforeign, Bool.true_or, Bool.toNat_true]
      simp only [List.length_cons, List.length_nil]
      omega

/-! Literals -/

theorem unquoteChars_of_literalWith (h : LiteralWith q body code) :
    unquoteChars code = some (unescapeChars q body) := by
  rw [unquoteChars, if_pos h.isLiteralChars, h.whole]
  exact congrArg (some <| unescapeChars q ·) List.dropLast_concat

theorem value?_of_not_foreign (hq : q = '\'' ∨ q = '"') (h : LiteralBody q body)
    (hown : ¬ Foreign q body) : Host.value? q body = some (unescapeChars q body) := by
  obtain rfl | rfl := hq
  · exact congrArg some (singleValue_eq_unescapeChars h)
  · have hbody : hasForeign body = false := by
      rw [← Bool.not_eq_true]
      exact fun hforeign => hown ⟨rfl, hforeign⟩
    exact doubleValue?_of_hasForeign h hbody

theorem value?_ne_of_foreign (h : LiteralBody q body) (hforeign : Foreign q body) :
    Host.value? q body ≠ some (unescapeChars q body) := by
  obtain ⟨rfl, hbody⟩ := hforeign
  intro hv
  have hle := length_doubleValue h hv
  rw [hbody, Bool.toNat_true] at hle
  omega

end Text

open Text

/-! Includes -/

theorem Include.template_of_target {env : Environment} {merge : Option Merger} {u : TagUse}
    {attrs : Attributes} {file : String} {w w' : Work} {t : Target}
    (h : (target env merge u attrs file).Yields w (some t) w') :
    t.template = (unquote file).getD file := by
  obtain ⟨-, -, hnone, -⟩ | ⟨-, ⟨function, -, hsome, -⟩ | ⟨-, hmerge⟩⟩ := yields_target.1 h
  · cases hnone
  · cases hsome
    rfl
  · obtain ⟨s, trust, -, ⟨-, hnone, -⟩ | ⟨-, merger, c, p, -, -, hsome, -⟩⟩ :=
      yields_mergeNew.1 hmerge
    · cases hnone
    · cases hsome
      rfl

/-- A literal has a value here, and it is the host's value exactly if no escape is foreign. An
include that merges a template whose name is a literal merges the template that the host reads from
the code it is given exactly under the same condition. -/
theorem Text.readLiteral_eq_unquote_iff {code : String} {q : Char} {body : List Char}
    (h : LiteralWith q body (trimChars code.toList)) :
    (∃ value, unquote code = some value ∧
      (Host.readLiteral (trimChars code.toList) = some (value.toList, []) ↔ ¬ Foreign q body)) ∧
    ∀ {env merge u attrs w fragment w'}, attrs.requireCode "file" = .ok code →
      (Include.compile env merge u attrs).Yields w fragment w' →
      ∃ vars scope target, fragment = Include.codeFor attrs code vars scope target ∧
        ∀ t ∈ target, Host.readLiteral (trimChars code.toList) = some (t.template.toList, []) ↔
          ¬ Foreign q body := by
  have hunquote : unquote code = some (String.ofList (unescapeChars q body)) := by
    rw [unquote, unquoteChars_of_literalWith h, Option.map_some]
  have hread : Host.readLiteral (trimChars code.toList) = some (unescapeChars q body, []) ↔
      ¬ Foreign q body := by
    rw [Host.readLiteral_of_literalWith h]
    constructor
    · intro hvalue hforeign
      obtain ⟨v, hv, heq⟩ := Option.map_eq_some_iff.1 hvalue
      cases heq
      exact value?_ne_of_foreign h.inside hforeign hv
    · intro hown
      rw [value?_of_not_foreign h.quote h.inside hown, Option.map_some]
  rw [← String.toList_ofList (l := unescapeChars q body)] at hread
  refine ⟨⟨_, hunquote, hread⟩, ?_⟩
  intro env merge u attrs w fragment w' hfile hcompile
  obtain ⟨file, vars, scope, target, w₁, hreads, htarget, hfragment, -⟩ :=
    Include.yields_compile.1 hcompile
  obtain rfl : file = code :=
    Except.ok.inj ((TagUse.require_eq_ok hreads.file).symm.trans hfile)
  refine ⟨vars, scope, target, hfragment, ?_⟩
  rintro t rfl
  rw [Include.template_of_target htarget, hunquote]
  exact hread

def Text.sampleEscaped : String := "\"pa\\162t\""

def Attributes.sampleEscaped : Attributes := { values := ⟨[("file", .code Text.sampleEscaped)]⟩ }

theorem Text.readLiteral_eq_unquote_iff_escaped :
    Host.readLiteral (trimChars sampleEscaped.toList) = some ("part".toList, []) ∧
    (∃ body, LiteralWith '"' body (trimChars sampleEscaped.toList) ∧ Foreign '"' body) ∧
    (∃ value, unquote sampleEscaped = some value ∧ value ≠ "part") ∧
    ∃ env merge u w fragment w' vars scope t,
      (Include.compile env merge u .sampleEscaped).Yields w fragment w' ∧
      fragment = Include.codeFor .sampleEscaped sampleEscaped vars scope (some t) ∧
      t.template ≠ "part" := by
  have hread : Host.readLiteral (trimChars sampleEscaped.toList) = some ("part".toList, []) := by
    decide +kernel
  have hliteral : LiteralWith '"' "pa\\162t".toList (trimChars sampleEscaped.toList) :=
    ⟨.inr rfl, .plain (by decide) (by decide) <| .plain (by decide) (by decide) <| .escaped <|
      .plain (by decide) (by decide) <| .plain (by decide) (by decide) <|
      .plain (by decide) (by decide) .nil, by decide +kernel, by decide, by decide, by decide⟩
  have hforeign : Foreign '"' "pa\\162t".toList := ⟨rfl, by decide⟩
  obtain ⟨⟨value, hvalue, hiff⟩, hinclude⟩ := readLiteral_eq_unquote_iff hliteral
  have hne {text : String} (htext : Host.readLiteral (trimChars sampleEscaped.toList) =
      some (text.toList, []) ↔ ¬ Foreign '"' "pa\\162t".toList) : text ≠ "part" := by
    rintro rfl
    exact htext.1 hread hforeign
  refine ⟨hread, ⟨_, hliteral, hforeign⟩, ⟨value, hvalue, hne hiff⟩, ?_⟩
  let env := Environment.ofNodes []
  let u : TagUse := ⟨env.rules, "include", 1, 0⟩
  obtain ⟨fragment, w', hyields, hcall⟩ :
      ∃ fragment w', (Include.compile env (mergerAt env 0) u .sampleEscaped).Yields
        ⟨Draft.start .sample false, {}⟩ fragment w' ∧ (fragment.toList.head? == some '/') = true :=
    Step.exists_yields (by decide +kernel)
  obtain ⟨vars, scope, target, rfl, htarget⟩ := hinclude rfl hyields
  cases target with
  | none =>
    have hassign : Attributes.sampleEscaped.code? "assign" = none := rfl
    rw [Include.codeFor, hassign, Include.dispatchCode, Code.print, String.append_assoc,
      String.toList_append] at hcall
    cases hcall
  | some t => exact ⟨_, _, _, _, _, _, vars, scope, t, hyields, rfl, hne (htarget t rfl)⟩

/-- The host reads a vertical tab where the reader here keeps the backslash. -/
theorem Text.readLiteral_ne_unquote :
    IsLiteral (trimChars "\"\\v\"".toList) ∧
    Host.readLiteral (trimChars "\"\\v\"".toList) = some (['\x0b'], []) ∧
    unquote "\"\\v\"" = some "\\v" := by
  refine ⟨⟨'"', ['\\', 'v'], .inr rfl, .escaped .nil, ?_, ?_, ?_, ?_⟩, ?_, ?_⟩
  all_goals decide +kernel

end TagTemplate
