import Mathlib.Data.List.DropRight
import TagTemplate.Text.Quoted

namespace TagTemplate.Text

inductive LiteralBody (q : Char) : List Char → Prop
  | nil : LiteralBody q []
  | plain {c r} : c ≠ q → c ≠ '\\' → LiteralBody q r → LiteralBody q (c :: r)
  | escaped {c r} : LiteralBody q r → LiteralBody q ('\\' :: c :: r)

structure Inert (q : Char) (code : List Char) : Prop where
  noCall : '(' ∉ code
  noVariable : '$' ∉ code
  noBrace : q = '"' → '\x7b' ∉ code

structure LiteralWith (q : Char) (body code : List Char) : Prop where
  quote : q = '\'' ∨ q = '"'
  inside : LiteralBody q body
  whole : code = q :: body ++ [q]
  inert : Inert q code

/-- A literal that is followed by more code, up to an escaped quote at the end. -/
structure OverrunWith (q : Char) (body tail code : List Char) : Prop where
  quote : q = '\'' ∨ q = '"'
  inside : LiteralBody q body
  after : LiteralBody q tail
  whole : code = q :: body ++ q :: tail ++ ['\\', q]
  inert : Inert q code

def IsLiteral (code : List Char) : Prop := ∃ q body, LiteralWith q body code

def Overruns (code : List Char) : Prop := ∃ q body tail, OverrunWith q body tail code

variable {q : Char} {body tail rest code : List Char}

theorem ne_backslash_of_quote (h : q = '\'' ∨ q = '"') : q ≠ '\\' := by
  intro heq
  subst heq
  cases h <;> contradiction

theorem isQuote_eq_true : isQuote q = true ↔ q = '\'' ∨ q = '"' := by
  simp [isQuote]

theorem countUnescaped_cons {c : Char} (h : c ≠ '\\') (r : List Char) :
    countUnescaped q (c :: r) = (if c = q then 1 else 0) + countUnescaped q r := by
  rw [countUnescaped]
  intro _ _ heq
  exact absurd heq h

theorem LiteralBody.countUnescaped_append (h : LiteralBody q body) (rest : List Char) :
    countUnescaped q (body ++ rest) = countUnescaped q rest := by
  induction h with
  | nil => rfl
  | plain hq hb _ ih =>
    rw [List.cons_append, countUnescaped_cons hb, if_neg hq, Nat.zero_add, ih]
  | escaped _ ih => exact ih

theorem exists_body_of_countUnescaped {n : Nat} (h : countUnescaped q code = n + 1) :
    ∃ body rest, LiteralBody q body ∧ code = body ++ q :: rest ∧ countUnescaped q rest = n := by
  fun_induction countUnescaped q code with
  | case1 => cases h
  | case2 c r ih =>
    obtain ⟨body, rest, hbody, heq, hrest⟩ := ih h
    exact ⟨'\\' :: c :: body, rest, .escaped hbody, by rw [heq]; rfl, hrest⟩
  | case3 c r hne ih =>
    by_cases hc : c = q
    · rw [if_pos hc] at h
      exact ⟨[], r, .nil, by rw [hc]; rfl, by omega⟩
    · rw [if_neg hc, Nat.zero_add] at h
      obtain ⟨body, rest, hbody, heq, hrest⟩ := ih h
      have hb : c ≠ '\\' := by
        intro hb
        cases body with
        | nil => exact hne q rest hb heq
        | cons d ds => exact hne d (ds ++ q :: rest) hb heq
      exact ⟨c :: body, rest, .plain hc hb hbody, by rw [heq]; rfl, hrest⟩

theorem exists_escaped_of_countUnescaped (h : countUnescaped q code = 0)
    (hlast : code.getLast? = some q) :
    ∃ tail, LiteralBody q tail ∧ code = tail ++ ['\\', q] := by
  fun_induction countUnescaped q code with
  | case1 => cases hlast
  | case2 c r ih =>
    cases r with
    | nil =>
      have hc : c = q := Option.some.inj hlast
      exact ⟨[], .nil, by rw [hc]; rfl⟩
    | cons d ds =>
      obtain ⟨tail, htail, heq⟩ := ih h hlast
      exact ⟨'\\' :: c :: tail, .escaped htail, by rw [heq]; rfl⟩
  | case3 c r hne ih =>
    by_cases hc : c = q
    · rw [if_pos hc] at h
      omega
    · rw [if_neg hc, Nat.zero_add] at h
      cases r with
      | nil => exact absurd (Option.some.inj hlast) hc
      | cons d ds =>
        have hb : c ≠ '\\' := fun hb => hne d ds hb rfl
        obtain ⟨tail, htail, heq⟩ := ih h hlast
        exact ⟨c :: tail, .plain hc hb htail, by rw [heq]; rfl⟩

theorem LiteralBody.append_inj {body' rest' : List Char} (hq : q ≠ '\\') (h : LiteralBody q body)
    (h' : LiteralBody q body') (heq : body ++ q :: rest = body' ++ q :: rest') :
    body = body' ∧ rest = rest' := by
  induction h generalizing body' with
  | nil =>
    cases h' with
    | nil => exact ⟨rfl, (List.cons.inj heq).2⟩
    | plain hne => exact absurd (List.cons.inj heq).1.symm hne
    | escaped => exact absurd (List.cons.inj heq).1 hq
  | plain hc hb _ ih =>
    cases h' with
    | nil => exact absurd (List.cons.inj heq).1 hc
    | plain _ _ h' =>
      obtain ⟨hhead, htail⟩ := List.cons.inj heq
      obtain ⟨hbody, hrest⟩ := ih h' htail
      exact ⟨by rw [hhead, hbody], hrest⟩
    | escaped => exact absurd (List.cons.inj heq).1 hb
  | escaped _ ih =>
    cases h' with
    | nil => exact absurd (List.cons.inj heq).1.symm hq
    | plain _ hb => exact absurd (List.cons.inj heq).1.symm hb
    | escaped h' =>
      obtain ⟨hhead, htail⟩ := List.cons.inj (List.cons.inj heq).2
      obtain ⟨hbody, hrest⟩ := ih h' htail
      exact ⟨by rw [hhead, hbody], hrest⟩

theorem isLiteralChars_cons {r : List Char} :
    isLiteralChars (q :: r) = true ↔ (q = '\'' ∨ q = '"') ∧ (q :: r).getLast? = some q ∧
      countUnescaped q (q :: r) = 2 ∧ Inert q (q :: r) := by
  simp only [isLiteralChars, Bool.and_eq_true, beq_iff_eq, isQuote_eq_true, Bool.not_eq_true',
    Bool.and_eq_false_imp, List.contains_eq_mem, decide_eq_false_iff_not, and_assoc]
  constructor
  · intro ⟨hquote, hlast, hcount, hcall, hvariable, hbrace⟩
    exact ⟨hquote, hlast, hcount, hcall, hvariable, hbrace⟩
  · intro ⟨hquote, hlast, hcount, hinert⟩
    exact ⟨hquote, hlast, hcount, hinert.noCall, hinert.noVariable, hinert.noBrace⟩

theorem LiteralWith.isLiteralChars (h : LiteralWith q body code) : isLiteralChars code = true := by
  have hinert := h.inert
  have hcount : countUnescaped q (q :: (body ++ [q])) = 2 := by
    have hq := ne_backslash_of_quote h.quote
    rw [countUnescaped_cons hq, if_pos rfl, h.inside.countUnescaped_append, countUnescaped_cons hq,
      if_pos rfl]
    rfl
  have hlast : (q :: body ++ [q]).getLast? = some q := List.getLast?_concat
  rw [h.whole] at hinert ⊢
  exact isLiteralChars_cons.2 ⟨h.quote, hlast, hcount, hinert⟩

theorem OverrunWith.isLiteralChars (h : OverrunWith q body tail code) :
    isLiteralChars code = true := by
  have hinert := h.inert
  have hcount : countUnescaped q (q :: (body ++ q :: (tail ++ ['\\', q]))) = 2 := by
    have hq := ne_backslash_of_quote h.quote
    rw [countUnescaped_cons hq, if_pos rfl, h.inside.countUnescaped_append, countUnescaped_cons hq,
      if_pos rfl, h.after.countUnescaped_append]
    rfl
  have hlast : (q :: (body ++ q :: (tail ++ ['\\', q]))).getLast? = some q := by
    simp [List.getLast?_cons, List.getLast?_append]
  have hwhole : code = q :: (body ++ q :: (tail ++ ['\\', q])) := by
    rw [h.whole, List.append_assoc]
    rfl
  rw [hwhole] at hinert ⊢
  exact isLiteralChars_cons.2 ⟨h.quote, hlast, hcount, hinert⟩

theorem cases_of_isLiteralChars (h : isLiteralChars code = true) :
    IsLiteral code ∨ Overruns code := by
  cases code with
  | nil => cases h
  | cons q r =>
    obtain ⟨hquote, hlast, hcount, hinert⟩ := isLiteralChars_cons.1 h
    have hq := ne_backslash_of_quote hquote
    rw [countUnescaped_cons hq, if_pos rfl] at hcount
    have hone : countUnescaped q r = 0 + 1 := by omega
    obtain ⟨body, rest, hbody, rfl, hrest⟩ := exists_body_of_countUnescaped hone
    cases rest with
    | nil => exact .inl ⟨q, body, hquote, hbody, rfl, hinert⟩
    | cons c cs =>
      have hend : (c :: cs).getLast? = some q := by
        simpa [List.getLast?_cons, List.getLast?_append] using hlast
      obtain ⟨tail, htail, heq⟩ := exists_escaped_of_countUnescaped hrest hend
      refine .inr ⟨q, body, tail, hquote, hbody, htail, ?_, hinert⟩
      rw [heq]
      simp

theorem Overruns.not_isLiteral (h : Overruns code) : ¬ IsLiteral code := by
  intro hliteral
  obtain ⟨q, body, tail, hover⟩ := h
  obtain ⟨q', body', hlit⟩ := hliteral
  have heq : q :: (body ++ q :: (tail ++ ['\\', q])) = q' :: (body' ++ [q']) := by
    have hwhole := hover.whole.symm.trans hlit.whole
    simpa using hwhole
  obtain ⟨rfl, heq⟩ := List.cons.inj heq
  have hq := ne_backslash_of_quote hover.quote
  obtain ⟨-, hrest⟩ := hover.inside.append_inj hq hlit.inside heq
  simp at hrest

theorem isLiteral_eq_false {code : String} {c : Char} {r : List Char}
    (hcode : code.toList = c :: r) (hblank : isBlank c = false) (hquote : isQuote c = false) :
    isLiteral code = false := by
  have hprefix : trimChars code.toList <+: c :: r := by
    rw [hcode, trimChars, stripChars, List.dropWhile_cons_of_neg (by simp [hblank])]
    exact List.rdropWhile_prefix isBlank (c :: r)
  rw [isLiteral]
  cases htrim : trimChars code.toList with
  | nil => rfl
  | cons d ds =>
    rw [htrim] at hprefix
    obtain ⟨rfl, -⟩ := List.cons_prefix_cons.1 hprefix
    simp [isLiteralChars, hquote]

/-- Code counts as a literal if, blanks around it aside, it is one, and also if it is a literal that
overruns: the two never coincide. -/
theorem isLiteral_iff (code : String) :
    (isLiteral code = true ↔
      IsLiteral (trimChars code.toList) ∨ Overruns (trimChars code.toList)) ∧
    ¬ (IsLiteral (trimChars code.toList) ∧ Overruns (trimChars code.toList)) := by
  refine ⟨⟨cases_of_isLiteralChars, ?_⟩, fun h => h.2.not_isLiteral h.1⟩
  intro h
  cases h with
  | inl h =>
    obtain ⟨q, body, h⟩ := h
    exact h.isLiteralChars
  | inr h =>
    obtain ⟨q, body, tail, h⟩ := h
    exact h.isLiteralChars

theorem isLiteral_overrun :
    isLiteral "'a'\\'" = true ∧ ¬ IsLiteral (trimChars "'a'\\'".toList) := by
  have hover : OverrunWith '\'' ['a'] [] (trimChars "'a'\\'".toList) :=
    ⟨.inl rfl, .plain (by decide) (by decide) .nil, .nil, by decide +kernel,
      ⟨by decide +kernel, by decide +kernel, nofun⟩⟩
  exact ⟨hover.isLiteralChars, Overruns.not_isLiteral ⟨_, _, _, hover⟩⟩

end TagTemplate.Text
