import TagTemplate.Compile.Expr
import TagTemplate.Tags.Include
import TagTemplate.Proofs.Host.Literal

namespace TagTemplate

namespace Text

variable {s : List Char}

theorem count_escapeChars {c : Char} (hc : c ≠ '\\') (s : List Char) :
    (escapeChars s).count c = s.count c := by
  induction s with
  | nil => rfl
  | cons d s ih =>
    unfold escapeChars
    split
    next hd =>
      have hslash : '\\' ≠ c := hc.symm
      simp [List.count_cons, ih, hslash]
    next => simp [List.count_cons, ih]

theorem mem_quoteChars {c : Char} (hslash : c ≠ '\\') (hquote : c ≠ '\'') :
    c ∈ quoteChars s ↔ c ∈ s := by
  have hescape : c ∈ escapeChars s ↔ c ∈ s := by
    rw [← List.count_pos_iff, count_escapeChars hslash, List.count_pos_iff]
  simp [quoteChars, hquote, hescape]

theorem literalBody_escapeChars (s : List Char) : LiteralBody '\'' (escapeChars s) := by
  induction s with
  | nil => exact .nil
  | cons c s ih =>
    rw [escapeChars]
    split
    · exact .escaped ih
    next hc =>
      rw [not_or] at hc
      exact .plain hc.2 hc.1 ih

theorem singleValue_escapeChars (s : List Char) : Host.singleValue (escapeChars s) = s := by
  induction s with
  | nil => rfl
  | cons c s ih =>
    rw [escapeChars]
    split
    next hc =>
      obtain rfl | rfl := hc
      · rw [Host.singleValue, ih]
      · rw [Host.singleValue, ih]
    next hc =>
      rw [not_or] at hc
      rw [Host.singleValue_cons hc.1, ih]

theorem unescapeChars_escapeChars (s : List Char) : unescapeChars '\'' (escapeChars s) = s := by
  induction s with
  | nil => rfl
  | cons c s ih =>
    rw [escapeChars]
    split
    next hc => rw [unescapeChars, if_pos hc, ih]
    next hc =>
      rw [not_or] at hc
      rw [unescapeChars, ih]
      · rintro ⟨⟩
        exact absurd rfl hc.1
      · rintro _ _ ⟨⟩
        exact absurd rfl hc.1

theorem readLiteral_quoteChars (s rest : List Char) :
    Host.readLiteral (quoteChars s ++ rest) = some (s, rest) := by
  have hcode : quoteChars s ++ rest = '\'' :: escapeChars s ++ '\'' :: rest := by
    rw [quoteChars, List.append_assoc]
    rfl
  rw [hcode, Host.readLiteral_append (.inl rfl) (literalBody_escapeChars s), Host.value?,
    if_neg (by decide), singleValue_escapeChars, Option.map_some]

theorem trimChars_quoteChars (s : List Char) : trimChars (quoteChars s) = quoteChars s := by
  have hstart : (quoteChars s).dropWhile isBlank = quoteChars s :=
    List.dropWhile_cons_of_neg (by decide)
  have hend : (quoteChars s).reverse.dropWhile isBlank = (quoteChars s).reverse := by
    rw [quoteChars, List.reverse_append]
    exact List.dropWhile_cons_of_neg (by decide)
  rw [trimChars, stripChars, hstart, hend, List.reverse_reverse]

theorem isLiteralChars_quoteChars :
    isLiteralChars (quoteChars s) = true ↔ '(' ∉ s ∧ '$' ∉ s := by
  constructor
  · intro h
    have hinert := (isLiteralChars_cons.1 h).2.2.2
    exact ⟨fun hs => hinert.noCall ((mem_quoteChars (by decide) (by decide)).2 hs),
      fun hs => hinert.noVariable ((mem_quoteChars (by decide) (by decide)).2 hs)⟩
  · intro ⟨hcall, hvariable⟩
    have hinert : Inert '\'' (quoteChars s) :=
      ⟨mt (mem_quoteChars (by decide) (by decide)).1 hcall,
        mt (mem_quoteChars (by decide) (by decide)).1 hvariable, nofun⟩
    exact LiteralWith.isLiteralChars ⟨.inl rfl, literalBody_escapeChars s, rfl, hinert⟩

theorem unquoteChars_quoteChars (s : List Char) :
    unquoteChars (quoteChars s) = if '(' ∈ s ∨ '$' ∈ s then none else some s := by
  split
  next h =>
    refine if_neg fun hliteral => ?_
    have hinert := isLiteralChars_quoteChars.1 hliteral
    exact h.elim hinert.1 hinert.2
  next h =>
    have hbody : ((quoteChars s).drop 1).dropLast = escapeChars s := List.dropLast_concat
    rw [unquoteChars, if_pos (isLiteralChars_quoteChars.2 (not_or.1 h)), hbody]
    exact congrArg some (unescapeChars_escapeChars s)

end Text

/-- The first literal of the code has the text as its value and the given code after it, whatever
follows. -/
def Host.Embeds (text code after : String) : Prop :=
  ∀ rest, firstLiteral (code.toList ++ rest) = some (text.toList, after.toList ++ rest)

theorem Host.embeds_quote {before : String} (hbefore : '\'' ∉ before.toList) (text after : String) :
    Embeds text (before ++ Text.quote text ++ after) after := by
  intro rest
  have hdrop : (before ++ Text.quote text ++ after).toList ++ rest =
      before.toList ++ (Text.quoteChars text.toList ++ (after.toList ++ rest)) := by
    simp only [String.toList_append, Text.toList_quote, List.append_assoc]
  have hskip : ∀ c ∈ before.toList, decide (c ≠ '\'') = true := by
    intro c hc
    simpa using ne_of_mem_of_not_mem hc hbefore
  rw [firstLiteral, hdrop, List.dropWhile_append_of_pos hskip]
  exact Text.readLiteral_quoteChars _ _

theorem Include.embeds_localCode {u : TagUse} {name code : String} {v : AttrValue}
    (h : localCode u name v = .ok code) : ∃ value, Host.Embeds name code ("=>" ++ value) := by
  have hvalue (value : String) :
      Host.Embeds name (Text.quote name ++ "=>" ++ value) ("=>" ++ value) := by
    rw [String.append_assoc, ← String.empty_append (s := Text.quote name)]
    exact Host.embeds_quote List.not_mem_nil name _
  cases v with
  | code text =>
    cases h
    exact ⟨text, hvalue text⟩
  | flag b =>
    cases h
    exact ⟨boolText b, hvalue (boolText b)⟩
  | assign a => cases h
  | assigns as => cases h

def Special.texts (config : Config) : List (String × String) :=
  [("version", config.version), ("ldelim", config.leftDelimiter), ("rdelim", config.rightDelimiter)]

theorem Special.compile_texts {r : Rules} {name text : String}
    (h : (name, text) ∈ texts r.config) (member : Option String) :
    compile r name member = .ok (Text.quote text) := by
  simp only [texts, List.mem_cons, List.not_mem_nil, or_false, Prod.mk.injEq] at h
  obtain ⟨rfl, rfl⟩ | ⟨rfl, rfl⟩ | ⟨rfl, rfl⟩ := h <;> rfl

/-- The literal of a text is one literal to the host, which reads the text from it and nothing of
what follows. So no text that is printed, be it a delimiter or not, no name of a variable or of an
attribute, no character set and no version ends its literal early. The literal has the same value
here, unless the text holds a parenthesis or a dollar sign, with which it counts as no literal. -/
theorem Text.readLiteral_quote (s : String) :
    (∀ rest, Host.readLiteral ((quote s).toList ++ rest) = some (s.toList, rest)) ∧
    Host.Embeds s (Code.echo s) ";\n" ∧
    Host.Embeds s (Code.var s) "]" ∧
    (∀ u v code, Include.localCode u s v = .ok code →
      ∃ value, Host.Embeds s code ("=>" ++ value)) ∧
    (∀ config : Config, config.charset = s → Host.Embeds s (Escape.charset config []) "") ∧
    (∀ (r : Rules) name member, (name, s) ∈ Special.texts r.config →
      ∃ code, Special.compile r name member = .ok code ∧ Host.Embeds s code "") ∧
    unquote (quote s) = if '(' ∈ s.toList ∨ '$' ∈ s.toList then none else some s := by
  have hquote : Host.Embeds s (quote s) "" := by
    have hembeds := @Host.embeds_quote "" List.not_mem_nil s ""
    rwa [String.empty_append, String.append_empty] at hembeds
  refine ⟨fun rest => ?_, Host.embeds_quote (by decide) s _, Host.embeds_quote (by decide) s _,
    fun u v code h => Include.embeds_localCode h, ?_, ?_, ?_⟩
  · rw [toList_quote, readLiteral_quoteChars]
  · rintro config rfl
    exact hquote
  · intro r name member h
    exact ⟨_, Special.compile_texts h member, hquote⟩
  · rw [unquote, toList_quote, trimChars_quoteChars, unquoteChars_quoteChars]
    split
    · rfl
    · rw [Option.map_some, String.ofList_toList]

theorem Text.readLiteral_quote_backslashes :
    Host.readLiteral ((quote "'a\\").toList ++ "\\';".toList) =
      some ("'a\\".toList, "\\';".toList) ∧
    (∃ u code, Include.localCode u "'a\\" (.flag true) = .ok code ∧
      ∃ value, Host.Embeds "'a\\" code ("=>" ++ value)) ∧
    (∃ config : Config, config.charset = "'a\\" ∧
      Host.Embeds "'a\\" (Escape.charset config []) "") ∧
    ∃ r : Rules, ("version", "'a\\") ∈ Special.texts r.config ∧
      ∃ code, Special.compile r "version" none = .ok code ∧ Host.Embeds "'a\\" code "" := by
  obtain ⟨hread, -, -, hlocal, hcharset, hspecial, -⟩ := readLiteral_quote "'a\\"
  let config : Config := { charset := "'a\\", version := "'a\\" }
  have hversion : ("version", "'a\\") ∈ Special.texts config := List.mem_cons_self
  let u : TagUse := ⟨⟨config, none⟩, "include", 0, 0⟩
  have hcode : Include.localCode u "'a\\" (.flag true) =
      .ok (quote "'a\\" ++ "=>" ++ boolText true) := rfl
  exact ⟨hread _, ⟨u, _, hcode, hlocal u _ _ hcode⟩, ⟨config, rfl, hcharset config rfl⟩,
    u.rules, hversion, hspecial u.rules "version" none hversion⟩

end TagTemplate
