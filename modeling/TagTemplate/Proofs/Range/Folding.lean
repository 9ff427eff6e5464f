import Mathlib.Algebra.Order.Floor.Ring
import Mathlib.Data.Rat.Floor
import TagTemplate.Proofs.Host.Integer
import TagTemplate.Proofs.Range.Count

namespace TagTemplate

namespace Host

/-- Expressions of the host that count iterations. The index is the rank of the operator that is
applied last: none, a division, a sum or a choice. Operands have operators of lower rank, so that
the text of an expression is read as the expression is built. -/
inductive Expr : Nat → Type
  | one : Expr 0
  | integer (code : String) : Expr 0
  | step : Expr 0
  | group {n : Nat} (e : Expr n) : Expr 0
  | abs {n : Nat} (e : Expr n) : Expr 0
  | ceil {n : Nat} (e : Expr n) : Expr 0
  | least {m n : Nat} (a : Expr m) (b : Expr n) : Expr 0
  | quotient (a b : Expr 0) : Expr 1
  | plus {m n : Nat} (a : Expr m) (b : Expr n) (ha : m ≤ 2) (hb : n ≤ 1) : Expr 2
  | minus {m n : Nat} (spaced : Bool) (a : Expr m) (b : Expr n) (ha : m ≤ 2) (hb : n ≤ 1) : Expr 2
  | choice {k m n : Nat} (test : Expr k) (a : Expr m) (b : Expr n) (htest : k ≤ 2) (ha : m ≤ 2)
      (hb : n ≤ 2) : Expr 3

namespace Expr

def text (var : String) {n : Nat} : Expr n → String
  | one => "1"
  | integer code => code
  | step => var ++ "->step"
  | group e => "(" ++ e.text var ++ ")"
  | abs e => "abs(" ++ e.text var ++ ")"
  | ceil e => "ceil(" ++ e.text var ++ ")"
  | least a b => "min(" ++ a.text var ++ ", " ++ b.text var ++ ")"
  | quotient a b => a.text var ++ "/" ++ b.text var
  | plus a b _ _ => a.text var ++ "+" ++ b.text var
  | minus spaced a b _ _ => a.text var ++ (if spaced then " - " else "-") ++ b.text var
  | choice test a b _ _ _ => test.text var ++ " > 0 ? " ++ a.text var ++ " : " ++ b.text var

def value (read : String → Option Int) (n : Int) {rank : Nat} : Expr rank → Option ℚ
  | one => some 1
  | integer code => (read code).map Int.cast
  | step => some n
  | group e => e.value read n
  | abs e => (e.value read n).map (|·|)
  | ceil e => (e.value read n).map fun x => (⌈x⌉ : Int)
  | least a b => do return min (← a.value read n) (← b.value read n)
  | quotient a b => do
    let x ← a.value read n
    let y ← b.value read n
    if y = 0 then none else some (x / y)
  | plus a b _ _ => do return (← a.value read n) + (← b.value read n)
  | minus _ a b _ _ => do return (← a.value read n) - (← b.value read n)
  | choice test a b _ _ _ => do
    if 0 < (← test.value read n) then a.value read n else b.value read n

def steps (start stop : String) : Expr 0 :=
  let up := minus true (plus (integer stop) one (by decide) (by decide)) (group (integer start))
    (by decide) (by decide)
  let down := plus (minus false (integer start) (group (integer stop)) (by decide) (by decide)) one
    (by decide) (by decide)
  ceil (quotient (group (choice step up down (by decide) (by decide) (by decide))) (abs step))

def count (start stop : String) : Option String → Expr 0
  | none => steps start stop
  | some max => least (steps start stop) (integer max)

end Expr

def iterations (read : String → Option Int) (start stop step : String) (max : Option String) :
    Option ℚ :=
  (read step).bind fun n => (Expr.count start stop max).value read n

theorem text_count (var start stop : String) (max : Option String) :
    "(int) " ++ (Expr.count start stop max).text var = Loop.countCode var start stop max := by
  apply String.toList_inj.1
  cases max with
  | none =>
    simp only [Expr.count, Expr.steps, Expr.text, Loop.countCode, String.toList_append,
      List.append_assoc]
    rfl
  | some max =>
    simp only [Expr.count, Expr.steps, Expr.text, Loop.countCode, String.toList_append,
      List.append_assoc]
    rfl

end Host

namespace Range

variable {r : Range} {read : String → Option Int} {start stop step : String}
  {limit : Option String}

structure SpeltBy (r : Range) (read : String → Option Int) (start stop step : String)
    (limit : Option String) : Prop where
  start : read start = some r.start
  stop : read stop = some r.stop
  step : read step = some r.step
  limit : limit.map read = r.limit.map some

theorem speltBy_of_ofCode? (h : ofCode? start stop step limit = some r) :
    r.SpeltBy Decimal.intLiteral start stop step limit := by
  simp only [ofCode?, Option.bind_eq_bind, Option.bind_eq_some_iff] at h
  obtain ⟨n, hstart, m, hstop, k, hstep, h⟩ := h
  cases limit with
  | none =>
    cases h
    exact ⟨hstart, hstop, hstep, rfl⟩
  | some code =>
    obtain ⟨most, hmost, h⟩ := Option.bind_eq_some_iff.1 h
    cases h
    exact ⟨hstart, hstop, hstep, congrArg some hmost⟩

theorem ceil_span_div (hstep : r.step ≠ 0) : ⌈(r.span : ℚ) / |(r.step : ℚ)|⌉ = r.rounds := by
  have hsize : (0 : ℚ) < |(r.step : ℚ)| := abs_pos.2 (Int.cast_ne_zero.2 hstep)
  have hnat : |(r.step : ℚ)| = ((r.step.natAbs : Int) : ℚ) := by
    rw [Int.natCast_natAbs, Int.cast_abs]
  rw [Int.ceil_eq_iff, lt_div_iff₀ hsize, div_le_iff₀ hsize, hnat]
  constructor
  · have hlt := (lt_rounds_iff hstep (r.rounds - 1)).1 (by omega)
    exact_mod_cast hlt
  · have hle := not_lt.1 (mt (lt_rounds_iff hstep r.rounds).2 (lt_irrefl _))
    exact_mod_cast hle

open Host Host.Expr

theorem value_steps (h : r.SpeltBy read start stop step limit) (hstep : r.step ≠ 0) :
    (steps start stop).value read r.step = some (r.rounds : ℚ) := by
  have hsize : |(r.step : ℚ)| ≠ 0 := abs_ne_zero.2 (Int.cast_ne_zero.2 hstep)
  have hspan : (if 0 < (r.step : ℚ) then some ((r.stop : ℚ) + 1 - r.start)
      else some ((r.start : ℚ) - r.stop + 1)) = some (r.span : ℚ) := by
    rw [span]
    by_cases hpos : 0 < r.step
    · rw [if_pos (Int.cast_pos.2 hpos), if_pos hpos]
      push_cast
      rfl
    · rw [if_neg (mt Int.cast_pos.1 hpos), if_neg hpos]
      push_cast
      rfl
  simp only [steps, value, h.start, h.stop, Option.map_some, Option.bind_eq_bind, Option.bind_some,
    Option.pure_def, hspan, hsize, if_false, ceil_span_div hstep]

theorem iterations_eq (h : r.SpeltBy read start stop step limit) (hstep : r.step ≠ 0) :
    iterations read start stop step limit = some ((clamp r.rounds r.limit : Int) : ℚ) := by
  rw [iterations, h.step, Option.bind_some]
  have hlimit := h.limit
  cases limit with
  | none =>
    have hnone : r.limit = none := by
      rw [Option.map_none] at hlimit
      exact Option.map_eq_none_iff.1 hlimit.symm
    rw [hnone]
    exact value_steps h hstep
  | some code =>
    rw [Option.map_some] at hlimit
    obtain ⟨most, hsome, hcode⟩ := Option.map_eq_some_iff.1 hlimit.symm
    simp only [count, value, value_steps h hstep, ← hcode, hsome, clamp, Option.map_some,
      Option.bind_eq_bind, Option.bind_some, Option.pure_def, Int.cast_min]

theorem total_eq_max (hstep : r.step ≠ 0) (hle : clamp r.rounds r.limit ≤ Decimal.maxInt64) :
    r.total = max 0 (clamp r.rounds r.limit) := by
  have hnonneg : (0 : Int) ≤ Decimal.maxInt64 := by decide
  rw [total, if_neg hstep, max_comm, min_eq_left (max_le hnonneg hle)]

theorem total_eq_iterations (h : r.SpeltBy read start stop step limit) (hstep : r.step ≠ 0) :
    ∃ n, iterations read start stop step limit = some n ∧
      (n ≤ Decimal.maxInt64 → r.total = max 0 n) := by
  refine ⟨_, iterations_eq h hstep, fun hle => ?_⟩
  rw [total_eq_max hstep (Int.cast_le.1 hle), Int.cast_max, Int.cast_zero]

def codes (start stop step : String) (limit : Option String) : List String :=
  start :: stop :: step :: limit.toList

theorem SpeltBy.exists_read (h : r.SpeltBy read start stop step limit) :
    ∀ code ∈ codes start stop step limit, ∃ n, read code = some n := by
  simp only [codes, List.forall_mem_cons]
  refine ⟨⟨_, h.start⟩, ⟨_, h.stop⟩, ⟨_, h.step⟩, ?_⟩
  intro code hcode
  have hlimit := h.limit
  rw [Option.mem_toList.1 hcode, Option.map_some] at hlimit
  obtain ⟨n, -, hn⟩ := Option.map_eq_some_iff.1 hlimit.symm
  exact ⟨n, hn.symm⟩

theorem SpeltBy.congr {read' : String → Option Int} (h : r.SpeltBy read start stop step limit)
    (heq : ∀ code ∈ codes start stop step limit, read' code = read code) :
    r.SpeltBy read' start stop step limit := by
  simp only [codes, List.forall_mem_cons] at heq
  obtain ⟨hstart, hstop, hstep, hlimit⟩ := heq
  refine ⟨hstart.trans h.start, hstop.trans h.stop, hstep.trans h.step, ?_⟩
  rw [← h.limit]
  exact Option.map_congr fun code hcode => hlimit code (Option.mem_toList.2 hcode)

def ReadsDecimal (codes : List String) : Prop :=
  ∀ code ∈ codes, ∀ n, Decimal.intLiteral code = some n → Host.ReadsDecimal code n

theorem SpeltBy.host (h : r.SpeltBy Decimal.intLiteral start stop step limit)
    (hdecimal : ReadsDecimal (codes start stop step limit)) :
    r.SpeltBy Host.intLiteral start stop step limit := by
  refine h.congr fun code hcode => ?_
  obtain ⟨n, hn⟩ := h.exists_read code hcode
  rw [hn]
  exact (Host.intLiteral_eq_iff hn).2 (hdecimal code hcode n hn)

end Range

namespace Loop

def headWith (start : CodeAssignment) (step total : String) : String :=
  let var := Code.var start.var
  var ++ " = new TplVar;\n" ++
  var ++ "->step = " ++ step ++ ";\n" ++
  var ++ "->total = " ++ total ++ ";\n" ++
  "if (" ++ var ++ "->total > 0) \x7b\n" ++
  "  for (" ++ var ++ "->value = " ++ start.value ++ ", " ++ var ++ "->iteration = 1;" ++
  var ++ "->iteration <= " ++ var ++ "->total;" ++
  var ++ "->value += " ++ var ++ "->step, " ++ var ++ "->iteration++) \x7b\n" ++
  var ++ "->first = " ++ var ++ "->iteration == 1;\n" ++
  var ++ "->last = " ++ var ++ "->iteration == " ++ var ++ "->total;\n"

theorem range_eq_headWith {u : TagUse} {attrs : Attributes} {start : CodeAssignment} {stop : String}
    (hstart : attrs.requireAssign "start" = .ok start) (hstop : attrs.requireCode "to" = .ok stop) :
    range u attrs = .ok (headWith start ((attrs.code? "step").getD "1")
      (totalCode (Code.var start.var) start.value stop ((attrs.code? "step").getD "1")
        (attrs.code? "max"))) := by
  rw [range, hstart, hstop]
  rfl

/-- The total of a loop whose bounds are literals is what the code for other bounds counts, unless
that is no 64-bit integer, with the literals read as decimal numbers. The host reads them in this
way exactly where no zero stands before more than one octal digit and no foreign blank around them.
-/
theorem range_folded {u : TagUse} {attrs : Attributes} {start : CodeAssignment}
    {stop step : String} {limit : Option String} {r : Range}
    (hstart : attrs.requireAssign "start" = .ok start) (hstop : attrs.requireCode "to" = .ok stop)
    (hstep : (attrs.code? "step").getD "1" = step) (hlimit : attrs.code? "max" = limit)
    (hfold : Range.ofCode? start.value stop step limit = some r) (hne : r.step ≠ 0) :
    range u attrs = .ok (headWith start step (toString r.total)) ∧
    "(int) " ++ (Host.Expr.count start.value stop limit).text (Code.var start.var) =
      countCode (Code.var start.var) start.value stop limit ∧
    (∃ n, Host.iterations Decimal.intLiteral start.value stop step limit = some n ∧
      (n ≤ Decimal.maxInt64 → r.total = max 0 n)) ∧
    (∀ code ∈ Range.codes start.value stop step limit, ∀ n, Decimal.intLiteral code = some n →
      (Host.intLiteral code = some n ↔ Host.ReadsDecimal code n)) ∧
    (Range.ReadsDecimal (Range.codes start.value stop step limit) →
      ∃ n, Host.iterations Host.intLiteral start.value stop step limit = some n ∧
        (n ≤ Decimal.maxInt64 → r.total = max 0 n)) := by
  have hspelt := Range.speltBy_of_ofCode? hfold
  refine ⟨?_, Host.text_count _ _ _ _, Range.total_eq_iterations hspelt hne,
    fun code _ n hn => Host.intLiteral_eq_iff hn,
    fun hdecimal => Range.total_eq_iterations (hspelt.host hdecimal) hne⟩
  rw [range_eq_headWith hstart hstop, hstep, hlimit, totalCode, hfold]

def boundsOf (start stop : String) : Attributes :=
  { values := ⟨[("start", .assign ⟨"i", start⟩), ("to", .code stop)]⟩ }

theorem range_folded_zeros :
    ∃ (u : TagUse) (r : Range), Range.ofCode? " -3 " "+007" "1" none = some r ∧ r.total = 11 ∧
      range u (boundsOf " -3 " "+007") = .ok (headWith ⟨"i", " -3 "⟩ "1" "11") ∧
      ∃ n, Host.iterations Host.intLiteral " -3 " "+007" "1" none = some n ∧ max 0 n = 11 := by
  let u : TagUse := ⟨{}, "for", 1, 0⟩
  have hfold : Range.ofCode? " -3 " "+007" "1" none = some ⟨-3, 7, 1, none⟩ := by decide +kernel
  obtain ⟨hrange, -, -, hread, hiterations⟩ :=
    @range_folded u (boundsOf " -3 " "+007") _ _ _ _ _ rfl rfl rfl rfl hfold (by decide)
  have hhost : Range.ReadsDecimal (Range.codes " -3 " "+007" "1" none) := by
    intro code hcode n hn
    refine (hread code hcode n hn).1 ?_
    have hcodes : ([" -3 ", "+007", "1"].all fun code =>
      Host.intLiteral code == Decimal.intLiteral code) = true := by decide +kernel
    rw [← hn]
    exact beq_iff_eq.1 (List.all_eq_true.1 hcodes code hcode)
  obtain ⟨n, hn, htotal⟩ := hiterations hhost
  have hspelt := (Range.speltBy_of_ofCode? hfold).host hhost
  have hcount : (11 : Int) = n := by
    exact Option.some.inj ((Range.iterations_eq hspelt (by decide)).symm.trans hn)
  have hle : (11 : Int) ≤ Decimal.maxInt64 := by decide
  refine ⟨u, _, hfold, by decide, hrange, n, hn, ?_⟩
  rw [← htotal (hcount ▸ Int.cast_le.2 hle)]
  rfl

/-- The host reads this bound as eight, and the total counts up to ten. -/
theorem range_folded_octal :
    ∃ (u : TagUse) (r : Range), Range.ofCode? "0" "010" "1" none = some r ∧ r.step ≠ 0 ∧
      range u (boundsOf "0" "010") = .ok (headWith ⟨"i", "0"⟩ "1" (toString r.total)) ∧
      ∃ n, Host.iterations Host.intLiteral "0" "010" "1" none = some n ∧
        n ≤ Decimal.maxInt64 ∧ r.total ≠ max 0 n := by
  let r : Range := { start := 0, stop := 10 }
  let read : Range := { start := 0, stop := 8 }
  let u : TagUse := ⟨{}, "for", 1, 0⟩
  have hfold : Range.ofCode? "0" "010" "1" none = some r := by decide +kernel
  have hspelt : read.SpeltBy Host.intLiteral "0" "010" "1" none :=
    ⟨by decide +kernel, by decide +kernel, by decide +kernel, rfl⟩
  have hrange : range u (boundsOf "0" "010") =
      .ok (headWith ⟨"i", "0"⟩ "1" (totalCode (Code.var "i") "0" "010" "1" none)) :=
    range_eq_headWith rfl rfl
  rw [totalCode, hfold] at hrange
  have hle : Range.clamp read.rounds read.limit ≤ Decimal.maxInt64 := by decide
  have hne : r.total ≠ max 0 (Range.clamp read.rounds read.limit) := by decide
  refine ⟨u, r, hfold, by decide, hrange, _, Range.iterations_eq hspelt (by decide),
    Int.cast_le.2 hle, ?_⟩
  exact_mod_cast hne

end Loop

end TagTemplate
