namespace TagTemplate.Decimal

structure Double where
  negative : Bool
  mantissa : Nat
  exponent : Int
  deriving Repr, DecidableEq

namespace Double

def zero : Double := ⟨false, 0, -1074⟩

def divEven (n d : Nat) : Nat :=
  let q := n / d
  let r := n % d
  if 2 * r < d then q else if d < 2 * r then q + 1 else q + q % 2

def scale (n d : Nat) (e : Int) : Nat × Nat :=
  if 0 ≤ e then (n, d * Nat.pow 2 e.toNat) else (n * Nat.pow 2 (-e).toNat, d)

def ofRatio (n d : Nat) : Option Double :=
  if n = 0 ∨ d = 0 then some zero
  else
    let guess : Int := (Nat.log2 n : Int) - Nat.log2 d
    let below := let (a, b) := scale n d guess; decide (a < b)
    let top := if below then guess - 1 else guess
    let e := max (top - 52) (-1074)
    let (a, b) := scale n d e
    let m := divEven a b
    let (m, e) := if m = Nat.pow 2 53 then (Nat.pow 2 52, e + 1) else (m, e)
    if 971 < e then none else some ⟨false, m, e⟩

def toRatio (x : Double) : Nat × Nat :=
  if 0 ≤ x.exponent then (x.mantissa * Nat.pow 2 x.exponent.toNat, 1)
  else (x.mantissa, Nat.pow 2 (-x.exponent).toNat)

def mul (x y : Double) : Option Double :=
  let (a, b) := x.toRatio
  let (c, d) := y.toRatio
  ofRatio (a * c) (b * d)

def div (x y : Double) : Option Double :=
  let (a, b) := x.toRatio
  let (c, d) := y.toRatio
  ofRatio (a * d) (b * c)

def isZero (x : Double) : Bool := x.mantissa == 0

structure Digits where
  digits : Nat
  exponent : Int

/-- Whether `c · 10 ^ s` rounds to the double: it lies within half a gap of it, ends included when
the mantissa is even. Below a power of two the gap is half as wide. -/
def admits (x : Double) (c : Nat) (s : Int) : Bool :=
  let low := 4 * x.mantissa - (if x.mantissa = Nat.pow 2 52 ∧ -1074 < x.exponent then 1 else 2)
  let high := 4 * x.mantissa + 2
  let (n, d) := if 0 ≤ s then (4 * c * Nat.pow 10 s.toNat, 1) else (4 * c, Nat.pow 10 (-s).toNat)
  let (n, d) := scale n d x.exponent
  if x.mantissa % 2 = 0 then low * d ≤ n && n ≤ high * d else low * d < n && n < high * d

def place (n d : Nat) : Int :=
  let guess : Int := ((Nat.toDigits 10 n).length : Int) - (Nat.toDigits 10 d).length
  let reached :=
    if 0 ≤ guess then d * Nat.pow 10 guess.toNat ≤ n else d ≤ n * Nat.pow 10 (-guess).toNat
  if reached then guess + 1 else guess

def onGrid (x : Double) (s : Int) : Option Nat :=
  let (n, d) := x.toRatio
  let (n, d) := if 0 ≤ s then (n, d * Nat.pow 10 s.toNat) else (n * Nat.pow 10 (-s).toNat, d)
  let c := n / d
  let up := decide (d < 2 * (n % d)) || (2 * (n % d) == d && c % 2 == 1)
  let (first, second) := if up then (c + 1, c) else (c, c + 1)
  if x.admits first s then some first else if x.admits second s then some second else none

def shortestFrom (x : Double) (p : Int) : Nat → Nat → Digits
  | 0, k => ⟨(x.onGrid (p - k)).getD 0, p - k⟩
  | n + 1, k =>
    match x.onGrid (p - k) with
    | some c => ⟨c, p - k⟩
    | none => shortestFrom x p n (k + 1)

/-- The fewest digits that read back as the double, and of those the nearest to it. -/
def shortest (x : Double) : Digits :=
  if x.isZero then ⟨0, 0⟩
  else
    let (n, d) := x.toRatio
    shortestFrom x (place n d) 16 1

def digitsAndPoint (x : Double) : List Char × Int :=
  if x.isZero then (['0'], 1)
  else
    let t := x.shortest
    let all := Nat.toDigits 10 t.digits
    ((all.reverse.dropWhile (· == '0')).reverse, all.length + t.exponent)

def sign (x : Double) : List Char := if x.negative then ['-'] else []

def positional (ds : List Char) (k : Int) : List Char :=
  if k ≤ 0 then "0.".toList ++ List.replicate (-k).toNat '0' ++ ds
  else if ds.length ≤ k then ds ++ List.replicate (k.toNat - ds.length) '0' ++ ".0".toList
  else ds.take k.toNat ++ '.' :: ds.drop k.toNat

def scientific (ds : List Char) (k : Int) : List Char :=
  let lead := match ds with
    | c :: d :: r => c :: '.' :: d :: r
    | ds => ds
  let e := k - 1
  lead ++ 'e' :: (if e < 0 then '-' else '+') :: Nat.toDigits 10 e.natAbs

/-- The shortest digits, positional between `10 ^ -5` and `10 ^ 16` and with an exponent beyond. A
whole number in positional form ends in `.0`. -/
def text (x : Double) : List Char :=
  let (ds, k) := x.digitsAndPoint
  x.sign ++ if -5 < k ∧ k ≤ 16 then positional ds k else scientific ds k

end Double

end TagTemplate.Decimal
