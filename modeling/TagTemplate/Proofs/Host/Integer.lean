import TagTemplate.Proofs.Host.Literal

/-!
How the host reads integers. A zero before other digits makes it read them as octal digits, and it
knows fewer blanks than the reader here. The two agree on a literal exactly if it has neither a
foreign blank around it nor such a zero before a number of more than one octal digit.
-/

namespace TagTemplate

def unsigned : List Char → List Char
  | '+' :: s => s
  | '-' :: s => s
  | s => s

def signed (s : List Char) (n : Nat) : Int := if s.head? = some '-' then -n else n

namespace Host

def isBlank (c : Char) : Bool := c == ' ' || c == '\n' || c == '\r' || c == '\t'

def readNat : List Char → Option Nat
  | '0' :: d :: r => if (d :: r).all isOctalDigit then some (ofDigits 8 (d :: r)) else none
  | s => Decimal.readNat s

def readInt (s : List Char) : Option Int := (readNat (unsigned s)).map (signed s)

def intLiteral (code : String) : Option Int := readInt (Text.stripChars isBlank code.toList)

structure ReadsDecimal (code : String) (n : Int) : Prop where
  blanks : Text.stripChars isBlank code.toList = Text.trimChars code.toList
  digits : (unsigned (Text.trimChars code.toList)).head? = some '0' → n.natAbs < 8

end Host

variable {s r : List Char} {c : Char} {n : Nat}

theorem Decimal.readInt_eq (s : List Char) :
    Decimal.readInt s = (Decimal.readNat (unsigned s)).map (signed s) := by
  unfold Decimal.readInt
  split
  · rfl
  · rfl
  next hplus hminus =>
    have hunsigned : unsigned s = s := by
      unfold unsigned
      split
      · exact absurd rfl (hplus _)
      · exact absurd rfl (hminus _)
      · rfl
    have hsigned : signed s = Int.ofNat := by
      funext n
      refine if_neg fun hhead => ?_
      obtain ⟨r, rfl⟩ := List.head?_eq_some_iff.1 hhead
      exact hminus r rfl
    rw [hunsigned, hsigned]

theorem Decimal.readNat_eq_some :
    Decimal.readNat s = some n ↔
      s ≠ [] ∧ s.all Decimal.isDigit = true ∧ Decimal.ofDigits s = n := by
  rw [Decimal.readNat, Option.ite_none_right_eq_some, Option.some_inj, Bool.and_eq_true, and_assoc]
  simp

namespace Host

theorem ofDigits_concat (base : Nat) (s : List Char) (c : Char) :
    ofDigits base (s ++ [c]) = base * ofDigits base s + digitValue c := by
  rw [ofDigits, List.foldl_append]
  rfl

theorem digitValue_of_isDigit (h : Decimal.isDigit c = true) :
    digitValue c = Decimal.digitValue c :=
  if_pos h

theorem ofDigits_ten (h : s.all Decimal.isDigit = true) : ofDigits 10 s = Decimal.ofDigits s := by
  induction s using List.reverseRecOn with
  | nil => rfl
  | append_singleton s c ih =>
    rw [List.all_append, Bool.and_eq_true] at h
    have hc : Decimal.isDigit c = true := by simpa using h.2
    rw [ofDigits_concat, ih h.1, digitValue_of_isDigit hc, Decimal.ofDigits, Decimal.ofDigits,
      List.foldl_append]
    rfl

theorem isOctalDigit_iff (h : Decimal.isDigit c = true) :
    isOctalDigit c = true ↔ digitValue c < 8 := by
  rw [digitValue_of_isDigit h]
  simp only [Decimal.isDigit, isOctalDigit, Bool.and_eq_true, decide_eq_true_eq] at h ⊢
  have hstart : 48 ≤ c.toNat := h.1
  have hend : c ≤ '7' ↔ c.toNat ≤ 55 := Iff.rfl
  have hvalue : Decimal.digitValue c = c.toNat - 48 := rfl
  rw [and_iff_right h.1, hend, hvalue]
  omega

theorem ofDigits_eight_le (s : List Char) : ofDigits 8 s ≤ ofDigits 10 s := by
  induction s using List.reverseRecOn with
  | nil => exact Nat.le_refl _
  | append_singleton s c ih =>
    rw [ofDigits_concat, ofDigits_concat]
    omega

theorem octal_eq_decimal_iff (h : s.all Decimal.isDigit = true) :
    (s.all isOctalDigit = true ∧ ofDigits 8 s = ofDigits 10 s) ↔ ofDigits 10 s < 8 := by
  -- from the right, where what stands before the last digit is multiplied by eight or by ten
  induction s using List.reverseRecOn with
  | nil => decide
  | append_singleton s c ih =>
    rw [List.all_append, Bool.and_eq_true] at h
    have hc : Decimal.isDigit c = true := by simpa using h.2
    have hle := ofDigits_eight_le s
    rw [ofDigits_concat, ofDigits_concat, List.all_append, Bool.and_eq_true, List.all_cons,
      List.all_nil, Bool.and_true, isOctalDigit_iff hc]
    constructor
    · rintro ⟨⟨-, hdigit⟩, heq⟩
      omega
    · intro hlt
      obtain ⟨hoctal, heq⟩ := (ih h.1).2 (by omega)
      exact ⟨⟨hoctal, by omega⟩, by omega⟩

theorem readNat_eq_iff (h : Decimal.readNat s = some n) :
    readNat s = some n ↔ (s.head? = some '0' → n < 8) := by
  obtain ⟨-, hall, rfl⟩ := Decimal.readNat_eq_some.1 h
  unfold readNat
  split
  next d r =>
    rw [List.all_cons, Bool.and_eq_true] at hall
    have hvalue : Decimal.ofDigits ('0' :: d :: r) = ofDigits 10 (d :: r) :=
      (ofDigits_ten hall.2).symm
    rw [hvalue, Option.ite_none_right_eq_some, Option.some_inj, octal_eq_decimal_iff hall.2]
    simp
  next hlong =>
    refine iff_of_true h fun hhead => ?_
    obtain ⟨r, rfl⟩ := List.head?_eq_some_iff.1 hhead
    cases r with
    | nil => decide
    | cons d r => exact absurd rfl (hlong d r)

theorem stripChars_parts (p : Char → Bool) (s : List Char) :
    ∃ a b, s = a ++ Text.stripChars p s ++ b ∧ a.all p = true ∧ b.all p = true := by
  have hstart := List.takeWhile_append_dropWhile (p := p) (l := s)
  have hend := List.takeWhile_append_dropWhile (p := p) (l := (s.dropWhile p).reverse)
  refine ⟨s.takeWhile p, ((s.dropWhile p).reverse.takeWhile p).reverse, ?_, ?_, ?_⟩
  · rw [List.append_assoc, Text.stripChars, ← List.reverse_append, hend, List.reverse_reverse,
      hstart]
  · exact List.all_takeWhile
  · rw [List.all_reverse]
    exact List.all_takeWhile

theorem dropWhile_append {p : Char → Bool} {a m : List Char} (ha : ∀ c ∈ a, p c = true)
    (hm : ∀ c ∈ m, p c = false) (hne : m ≠ []) (b : List Char) :
    (a ++ m ++ b).dropWhile p = m ++ b := by
  rw [List.append_assoc, List.dropWhile_append_of_pos ha]
  cases m with
  | nil => exact absurd rfl hne
  | cons c m => exact List.dropWhile_cons_of_neg (by simp [hm c List.mem_cons_self])

theorem stripChars_eq {p q : Char → Bool} (hpq : ∀ c, p c = true → q c = true)
    (hs : ∀ c ∈ Text.stripChars p s, q c = false) (hne : Text.stripChars p s ≠ []) :
    Text.stripChars q s = Text.stripChars p s := by
  obtain ⟨a, b, heq, ha, hb⟩ := stripChars_parts p s
  rw [List.all_eq_true] at ha hb
  generalize Text.stripChars p s = m at heq hs hne ⊢
  have hstart : s.dropWhile q = m ++ b := by
    rw [heq, dropWhile_append (fun c hc => hpq c (ha c hc)) hs hne]
  have hend : (m ++ b).reverse.dropWhile q = m.reverse := by
    have hdrop := dropWhile_append (p := q) (a := b.reverse) (m := m.reverse)
      (fun c hc => hpq c (hb c (List.mem_reverse.1 hc))) (fun c hc => hs c (List.mem_reverse.1 hc))
      (by simpa using hne) []
    rwa [List.append_nil, List.append_nil, ← List.reverse_append] at hdrop
  rw [Text.stripChars, hstart, hend, List.reverse_reverse]

theorem isBlank_of_isBlank (h : isBlank c = true) : Text.isBlank c = true := by
  simp only [isBlank, Bool.or_eq_true, beq_iff_eq] at h
  obtain ((rfl | rfl) | rfl) | rfl := h <;> rfl

theorem not_isBlank_of_isDigit (h : Decimal.isDigit c = true) : Text.isBlank c = false := by
  simp only [Decimal.isDigit, Bool.and_eq_true, decide_eq_true_eq] at h
  have hstart : 48 ≤ c.toNat := h.1
  have hend : c.toNat ≤ 57 := h.2
  simp only [Text.isBlank, Bool.or_eq_false_iff, Bool.and_eq_false_iff, decide_eq_false_iff_not,
    beq_eq_false_iff_ne]
  omega

theorem isDigit_of_isOctalDigit (h : isOctalDigit c = true) : Decimal.isDigit c = true := by
  simp only [isOctalDigit, Decimal.isDigit, Bool.and_eq_true, decide_eq_true_eq] at h ⊢
  have hend : c.toNat ≤ 55 := h.2
  exact ⟨h.1, hend.trans (by decide)⟩

theorem all_isDigit_of_readNat (h : readNat s = some n) : ∀ c ∈ s, Decimal.isDigit c = true := by
  unfold readNat at h
  split at h
  next d r =>
    rw [Option.ite_none_right_eq_some, List.all_eq_true] at h
    rw [List.forall_mem_cons]
    exact ⟨rfl, fun c hc => isDigit_of_isOctalDigit (h.1 c hc)⟩
  next => exact List.all_eq_true.1 (Decimal.readNat_eq_some.1 h).2.1

theorem mem_unsigned (h : c ∈ s) : c = '+' ∨ c = '-' ∨ c ∈ unsigned s := by
  unfold unsigned
  split
  · rw [List.mem_cons] at h
    exact h.imp_right .inr
  · rw [List.mem_cons] at h
    exact .inr h
  · exact .inr (.inr h)

theorem natAbs_signed (s : List Char) (n : Nat) : (signed s n).natAbs = n := by
  unfold signed
  split <;> omega

theorem not_isBlank_of_readInt {n : Int} (h : readInt s = some n) :
    ∀ c ∈ s, Text.isBlank c = false := by
  obtain ⟨m, hm, -⟩ := Option.map_eq_some_iff.1 h
  intro c hc
  obtain rfl | rfl | hdigit := mem_unsigned hc
  · rfl
  · rfl
  · exact not_isBlank_of_isDigit (all_isDigit_of_readNat hm c hdigit)

theorem readInt_eq_iff (h : Decimal.readNat (unsigned s) = some n) :
    readInt s = some (signed s n) ↔ ((unsigned s).head? = some '0' → n < 8) := by
  rw [← readNat_eq_iff h, readInt, Option.map_eq_some_iff]
  constructor
  · rintro ⟨m, hm, heq⟩
    have habs := congrArg Int.natAbs heq
    rw [natAbs_signed, natAbs_signed] at habs
    rwa [habs] at hm
  · intro hn
    exact ⟨n, hn, rfl⟩

theorem intLiteral_eq_iff {code : String} {n : Int} (h : Decimal.intLiteral code = some n) :
    intLiteral code = some n ↔ ReadsDecimal code n := by
  have hread : Decimal.readInt (Text.trimChars code.toList) = some n :=
    (Option.filter_eq_some_iff.1 h).1
  rw [Decimal.readInt_eq] at hread
  obtain ⟨m, hm, rfl⟩ := Option.map_eq_some_iff.1 hread
  have hiff := readInt_eq_iff hm
  constructor
  · intro hhost
    have hne : Text.stripChars isBlank code.toList ≠ [] := by
      intro hnil
      rw [intLiteral, hnil] at hhost
      cases hhost
    have hblanks :=
      (stripChars_eq (fun _ => isBlank_of_isBlank) (not_isBlank_of_readInt hhost) hne).symm
    rw [intLiteral, hblanks] at hhost
    exact ⟨hblanks, by rw [natAbs_signed]; exact hiff.1 hhost⟩
  · intro hdecimal
    have hdigits := hdecimal.digits
    rw [natAbs_signed] at hdigits
    rw [intLiteral, hdecimal.blanks]
    exact hiff.2 hdigits

end Host
end TagTemplate
