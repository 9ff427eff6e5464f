import Mathlib.Data.List.Infix
import TagTemplate.Text.Comment

namespace TagTemplate.Text

def Closes (s : List Char) : Prop := ['*', '/'] <:+: s

instance (s : List Char) : Decidable (Closes s) := inferInstanceAs (Decidable (_ <:+: s))

variable {c : Char} {s a b : List Char}

@[simp] theorem not_closes_nil : ¬ Closes [] := by
  simp [Closes]

theorem closes_cons : Closes (c :: s) ↔ (c = '*' ∧ s.head? = some '/') ∨ Closes s := by
  rw [Closes, List.infix_cons_iff, List.cons_prefix_cons, eq_comm, ← Closes]
  cases s with
  | nil => simp
  | cons d s => simp [eq_comm]

theorem closes_cons_of_ne (h : c ≠ '*') : Closes (c :: s) ↔ Closes s := by
  rw [closes_cons, or_iff_right fun hc => h hc.1]

theorem closes_append_cons (hstar : c ≠ '*') (hslash : c ≠ '/') :
    Closes (a ++ c :: b) ↔ Closes a ∨ Closes b := by
  induction a with
  | nil => simp [closes_cons_of_ne hstar]
  | cons d a ih =>
    have hhead : (a ++ c :: b).head? = some '/' ↔ a.head? = some '/' := by
      cases a with
      | nil => simpa using hslash
      | cons e a => rfl
    rw [List.cons_append, closes_cons, closes_cons, ih, hhead, or_assoc]

theorem protectChars_cons (h : ¬ (c = '*' ∧ s.head? = some '/')) :
    protectChars (c :: s) = c :: protectChars s := by
  rw [protectChars]
  rintro r rfl rfl
  exact h ⟨rfl, rfl⟩

theorem head?_protectChars (s : List Char) : (protectChars s).head? = s.head? := by
  fun_cases protectChars s <;> rfl

theorem protectChars_append_of_not_mem (h : '*' ∉ a) :
    protectChars (a ++ b) = a ++ protectChars b := by
  induction a with
  | nil => rfl
  | cons d a ih =>
    rw [List.mem_cons, not_or] at h
    rw [List.cons_append, protectChars_cons (Ne.symm h.1 ·.1), ih h.2, List.cons_append]

theorem protectChars_append_cons (hstar : c ≠ '*') (hslash : c ≠ '/') :
    protectChars (a ++ c :: b) = protectChars a ++ c :: protectChars b := by
  fun_induction protectChars a with
  | case1 => exact protectChars_cons (hstar ·.1)
  | case2 r ih => simp only [List.cons_append, protectChars, ih]
  | case3 d r hne ih =>
    have hhead : ¬ (d = '*' ∧ (r ++ c :: b).head? = some '/') := by
      rintro ⟨hd, h⟩
      cases r with
      | nil => exact hslash (Option.some.inj h)
      | cons e r => exact hne r hd (congrArg (· :: r) (Option.some.inj h))
    rw [List.cons_append, protectChars_cons hhead, ih, List.cons_append]

theorem not_closes_protectChars (s : List Char) : ¬ Closes (protectChars s) := by
  fun_induction protectChars s with
  | case1 => exact not_closes_nil
  | case2 r ih => simpa [closes_cons] using ih
  | case3 c r hne ih =>
    rw [closes_cons, head?_protectChars, not_or]
    refine ⟨fun h => ?_, ih⟩
    obtain ⟨t, ht⟩ := List.head?_eq_some_iff.1 h.2
    exact hne t h.1 ht

theorem protectChars_eq_self : protectChars s = s ↔ ¬ Closes s := by
  constructor
  · intro h
    rw [← h]
    exact not_closes_protectChars s
  · intro h
    induction s with
    | nil => rfl
    | cons c s ih =>
      rw [closes_cons, not_or] at h
      rw [protectChars_cons h.1, ih h.2]

theorem toList_protect (s : String) : (protect s).toList = protectChars s.toList :=
  String.toList_ofList

theorem protect_eq_self {s : String} : protect s = s ↔ ¬ Closes s.toList := by
  rw [← protectChars_eq_self, ← toList_protect, String.toList_inj]

end TagTemplate.Text
