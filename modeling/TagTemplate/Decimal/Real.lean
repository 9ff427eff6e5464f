import TagTemplate.Text.Quoted
import TagTemplate.Decimal.Integer

namespace TagTemplate.Decimal

structure Magnitude where
  digits : Nat
  exponent : Int
  deriving Repr, DecidableEq

def readExponent : List Char → Option Int
  | [] => some 0
  | c :: s => if c = 'e' ∨ c = 'E' then readInt s else none

def readMagnitude (s : List Char) : Option Magnitude :=
  let whole := s.takeWhile isDigit
  let (fraction, rest) := match s.dropWhile isDigit with
    | '.' :: r => (r.takeWhile isDigit, r.dropWhile isDigit)
    | r => ([], r)
  if whole.isEmpty && fraction.isEmpty then none
  else (readExponent rest).map fun e => ⟨ofDigits (whole ++ fraction), e - fraction.length⟩

def readReal : List Char → Option Magnitude
  | '+' :: s => readMagnitude s
  | '-' :: s => readMagnitude s
  | s => readMagnitude s

/-- The least magnitude that rounds to infinity: half a unit above the greatest finite double. -/
def overflowBound : Nat := (Nat.pow 2 54 - 1) * Nat.pow 2 970

/-- Whether the value rounds to a finite double. Its place value is compared first, so that no large
power of ten is formed. -/
def Magnitude.isFinite (m : Magnitude) : Bool :=
  let place := (Nat.toDigits 10 m.digits).length + m.exponent
  m.digits == 0 || place < 300 ||
    (place < 320 && (if 0 ≤ m.exponent then m.digits * Nat.pow 10 m.exponent.toNat < overflowBound
      else m.digits < overflowBound * Nat.pow 10 (-m.exponent).toNat))

def isNumber (s : List Char) : Bool :=
  match readReal s with
  | some m => m.isFinite
  | none => false

def isStaticLiteral (code : String) : Bool :=
  Text.isLiteral code || isNumber (Text.trimChars code.toList)

end TagTemplate.Decimal
