import Mathlib.Data.List.Basic
import Mathlib.Data.List.TakeWhile
import TagTemplate.Json.Number
import TagTemplate.Json.Printer

namespace TagTemplate.Json.Number

variable {s : List Char} {k n : Nat}

theorem le_ofDigitChars (n : Nat) (s : List Char) : n ≤ Nat.ofDigitChars 10 s n := by
  rw [Nat.ofDigitChars_eq_ofDigitChars_zero]
  exact Nat.le_add_right_of_le (Nat.le_mul_of_pos_left n (Nat.pow_pos (by decide)))

theorem gather_eq (h : Nat.ofDigitChars 10 s n ≤ maxWord) :
    gather n s = (Nat.ofDigitChars 10 s n, []) := by
  induction s generalizing n with
  | nil => rfl
  | cons c s ih =>
    have hfits : 10 * n + Decimal.digitValue c ≤ maxWord := Nat.le_trans (le_ofDigitChars _ s) h
    rw [gather, if_pos hfits, Nat.ofDigitChars_cons]
    exact ih h

theorem digitChar_eq_zero (hk : k < 10) (h : Nat.digitChar k = '0') : k = 0 := by
  revert h hk
  revert k
  decide

theorem head?_toDigits (h : (Nat.toDigits 10 k).head? = some '0') : k = 0 := by
  induction k using Nat.strongRecOn with
  | ind k ih =>
    rw [Nat.toDigits_eq_if (by decide)] at h
    split at h
    next hk => exact digitChar_eq_zero hk (Option.some.inj h)
    next hk =>
      rw [List.head?_append_of_ne_nil _ Nat.toDigits_ne_nil] at h
      have hzero := ih (k / 10) (Nat.div_lt_self (by omega) (by decide)) h
      omega

theorem validWhole_toDigits (k : Nat) : validWhole (Nat.toDigits 10 k) = true := by
  have hzero := @head?_toDigits k
  cases h : Nat.toDigits 10 k with
  | nil => exact absurd h Nat.toDigits_ne_nil
  | cons c s =>
    rw [h, List.head?_cons] at hzero
    unfold validWhole
    split
    next => contradiction
    next => rfl
    next hne heq =>
      obtain ⟨rfl, rfl⟩ := List.cons.inj heq
      refine bne_iff_ne.2 fun hc => ?_
      obtain rfl := hzero (congrArg some hc)
      obtain ⟨-, rfl⟩ := List.cons.inj h
      exact hne hc rfl

theorem splitDigits_toDigits (k : Nat) :
    splitDigits (Nat.toDigits 10 k) = (Nat.toDigits 10 k, []) := by
  have hdigit : ∀ c ∈ Nat.toDigits 10 k, Decimal.isDigit c = true :=
    fun c hc => Nat.isDigit_of_mem_toDigits (by decide) (by decide) hc
  rw [splitDigits, List.takeWhile_eq_self_iff.2 hdigit, List.dropWhile_eq_nil_iff.2 hdigit]

theorem literalRead_toDigits (k : Nat) :
    Literal.read (Nat.toDigits 10 k) = some ⟨false, Nat.toDigits 10 k, none, none⟩ := by
  have hunsigned : Literal.readUnsigned false (Nat.toDigits 10 k) =
      some ⟨false, Nat.toDigits 10 k, none, none⟩ := by
    simp [Literal.readUnsigned, splitDigits_toDigits, validWhole_toDigits, Literal.readExponent]
  unfold Literal.read
  split
  next s h =>
    have hminus : '-' ∈ Nat.toDigits 10 k := h ▸ List.mem_cons_self
    have hdigit := Nat.isDigit_of_mem_toDigits (by decide) (by decide) hminus
    exact absurd hdigit (by decide)
  next => exact hunsigned

theorem read_toDigits (hk : k < UInt64.size) : read (Nat.toDigits 10 k) = some (.integer k) := by
  have hfits : Nat.ofDigitChars 10 (Nat.toDigits 10 k) 0 ≤ maxWord := by
    rw [Nat.ofDigitChars_ten_toDigits]
    exact Nat.le_pred_of_lt hk
  have hgather := gather_eq hfits
  rw [Nat.ofDigitChars_ten_toDigits] at hgather
  rw [read, literalRead_toDigits, Option.bind_some, Literal.value]
  simp [hgather]

theorem render_nat (k : Nat) : render (.integer k) = Nat.toDigits 10 k :=
  Nat.toList_repr

end TagTemplate.Json.Number
