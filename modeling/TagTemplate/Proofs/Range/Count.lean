import Mathlib.Order.Interval.Set.Nat
import TagTemplate.Tags.Loop

namespace TagTemplate.Range

structure IsInt64 (r : Range) : Prop where
  start : Decimal.fitsInt64 r.start
  stop : Decimal.fitsInt64 r.stop
  step : Decimal.fitsInt64 r.step
  limit : ∀ n ∈ r.limit, Decimal.fitsInt64 n

def Reaches (r : Range) (k : ℕ) : Prop :=
  if 0 < r.step then r.start + k * r.step ≤ r.stop else r.stop ≤ r.start + k * r.step

namespace Wide

def check (n : Int) : Option Int := if -2 ^ 127 ≤ n ∧ n < 2 ^ 127 then some n else none

def add (a b : Int) : Option Int := check (a + b)

def sub (a b : Int) : Option Int := check (a - b)

def abs (a : Int) : Option Int := check a.natAbs

def quotient (a b : Int) : Option Int := if b = 0 then none else check (a / b)

def remainder (a b : Int) : Option Int := (quotient a b).map fun _ => a % b

theorem check_eq_some {n : Int} (h : -2 ^ 127 ≤ n ∧ n < 2 ^ 127) : check n = some n := if_pos h

end Wide

def wideSpan (r : Range) : Option Int :=
  if 0 < r.step then (Wide.add r.stop 1).bind fun n => Wide.sub n r.start
  else (Wide.sub r.start r.stop).bind fun n => Wide.add n 1

def wideRounds (r : Range) : Option Int := do
  let span ← r.wideSpan
  let size ← Wide.abs r.step
  let quotient ← Wide.quotient span size
  let remainder ← Wide.remainder span size
  if remainder = 0 then some quotient else Wide.add quotient 1

/-- The total as integers of 128 bits give it, `none` where a step overflows or divides by zero. -/
def wideTotal (r : Range) : Option Int :=
  if r.step = 0 then some 0
  else r.wideRounds.map fun rounds =>
    let total := max (clamp rounds r.limit) 0
    if total ≤ Decimal.maxInt64 then total else Decimal.maxInt64

variable {r : Range}

theorem fitsInt64_iff {n : Int} :
    Decimal.fitsInt64 n ↔ -9223372036854775808 ≤ n ∧ n ≤ 9223372036854775807 := by
  simp only [Decimal.fitsInt64, Bool.and_eq_true, decide_eq_true_eq]
  exact Iff.rfl

namespace IsInt64

variable (h : r.IsInt64)
include h

theorem span_bounds : -2 ^ 64 ≤ r.span ∧ r.span ≤ 2 ^ 64 := by
  have hstart := fitsInt64_iff.1 h.start
  have hstop := fitsInt64_iff.1 h.stop
  rw [span]
  split <;> omega

theorem quotient_bounds : -2 ^ 64 ≤ r.span / r.step.natAbs ∧ r.span / r.step.natAbs ≤ 2 ^ 64 := by
  have hspan := h.span_bounds
  have hle := Int.natAbs_ediv_le_natAbs r.span r.step.natAbs
  omega

theorem wideSpan_eq : r.wideSpan = some r.span := by
  have hstart := fitsInt64_iff.1 h.start
  have hstop := fitsInt64_iff.1 h.stop
  rw [wideSpan, span]
  split
  next =>
    rw [Wide.add, Wide.check_eq_some (by omega), Option.bind_some, Wide.sub,
      Wide.check_eq_some (by omega)]
  next =>
    rw [Wide.sub, Wide.check_eq_some (by omega), Option.bind_some, Wide.add,
      Wide.check_eq_some (by omega)]

theorem wideRounds_eq (hstep : r.step ≠ 0) : r.wideRounds = some r.rounds := by
  have hbound := fitsInt64_iff.1 h.step
  have hquotient := h.quotient_bounds
  have hsize : Wide.abs r.step = some (r.step.natAbs : Int) := Wide.check_eq_some (by omega)
  have hdiv : Wide.quotient r.span r.step.natAbs = some (r.span / r.step.natAbs) := by
    rw [Wide.quotient, if_neg (by omega), Wide.check_eq_some (by omega)]
  have hsucc : Wide.add (r.span / r.step.natAbs) 1 = some (r.span / r.step.natAbs + 1) :=
    Wide.check_eq_some (by omega)
  simp only [wideRounds, h.wideSpan_eq, hsize, hdiv, Wide.remainder, hsucc, Option.map_some,
    Option.bind_eq_bind, Option.bind_some, rounds, Int.ofNat_eq_natCast]
  rw [apply_ite some]

theorem wideTotal_eq : r.wideTotal = some r.total := by
  rw [wideTotal, total]
  split
  · rfl
  next hstep =>
    rw [h.wideRounds_eq hstep, Option.map_some, min_def]

end IsInt64

theorem lt_rounds_iff (hstep : r.step ≠ 0) (n : Int) :
    n < r.rounds ↔ n * r.step.natAbs < r.span := by
  have hsize : 0 < (r.step.natAbs : Int) := by omega
  have hdiv := Int.mul_ediv_add_emod r.span r.step.natAbs
  -- without a remainder the quotient is exact, and with one the span is no multiple of the size
  rw [rounds]
  split
  next hmod =>
    rw [Int.ofNat_eq_natCast] at hmod
    rw [hmod, add_zero] at hdiv
    rw [Int.ofNat_eq_natCast, mul_comm n, ← Int.mul_lt_mul_left hsize, hdiv]
  next hmod =>
    rw [Int.lt_add_one_iff, Int.ofNat_eq_natCast, Int.le_ediv_iff_mul_le hsize]
    constructor
    · intro hle
      refine lt_of_le_of_ne hle ?_
      intro heq
      exact hmod (by rw [← heq]; exact Int.mul_emod_left _ _)
    · exact le_of_lt

theorem reaches_iff (hstep : r.step ≠ 0) (k : ℕ) : r.Reaches k ↔ (k : Int) < r.rounds := by
  rw [lt_rounds_iff hstep, Reaches, span]
  split
  next hpos =>
    rw [Int.natAbs_of_nonneg hpos.le]
    omega
  next hneg =>
    rw [Int.ofNat_natAbs_of_nonpos (by omega), mul_neg]
    omega

theorem setOf_reaches (hstep : r.step ≠ 0) : {k | r.Reaches k} = Set.Iio r.rounds.toNat := by
  ext k
  rw [Set.mem_ofPred_eq, reaches_iff hstep, Set.mem_Iio]
  omega

theorem max_clamp (n : Int) (limit : Option Int) :
    max (clamp (max n 0) limit) 0 = max (clamp n limit) 0 := by
  cases limit with
  | none => simp [clamp]
  | some m =>
    rw [clamp, clamp]
    omega

/-- The total of a range is the number of its terms up to the limit, where neither a negative limit
nor more terms than a 64-bit integer can count make it leave its range. No step on the way to it
overflows or divides by zero. -/
theorem total_eq_ncard (r : Range) (h : r.IsInt64) :
    r.wideTotal = some r.total ∧ (r.step = 0 → r.total = 0) ∧
    (r.step ≠ 0 → {k | r.Reaches k}.Finite ∧
      r.total =
        min (max (clamp ({k | r.Reaches k}.ncard : Int) r.limit) 0) Decimal.maxInt64) := by
  refine ⟨h.wideTotal_eq, fun hstep => if_pos hstep, fun hstep => ?_⟩
  have hcount : ({k | r.Reaches k}.ncard : Int) = max r.rounds 0 := by
    rw [setOf_reaches hstep, Set.ncard_Iio_nat, Int.toNat_eq_max]
  refine ⟨by rw [setOf_reaches hstep]; exact Set.finite_Iio _, ?_⟩
  rw [hcount, max_clamp, total, if_neg hstep]

def farthest : Range where
  start := Decimal.maxInt64
  stop := Decimal.minInt64
  step := Decimal.minInt64

theorem total_eq_ncard_farthest : farthest.IsInt64 ∧ farthest.step ≠ 0 ∧ farthest.total = 2 ∧
    farthest.wideTotal = some 2 ∧ {k | farthest.Reaches k}.ncard = 2 := by
  have hfits : farthest.IsInt64 := ⟨by decide, by decide, by decide, nofun⟩
  have hstep : farthest.step ≠ 0 := by decide
  have htotal : farthest.total = 2 := by decide
  obtain ⟨hwide, -, hcount⟩ := total_eq_ncard farthest hfits
  obtain ⟨-, heq⟩ := hcount hstep
  refine ⟨hfits, hstep, htotal, htotal ▸ hwide, ?_⟩
  rw [htotal] at heq
  simp only [farthest, clamp, Decimal.maxInt64] at heq ⊢
  omega

end TagTemplate.Range
