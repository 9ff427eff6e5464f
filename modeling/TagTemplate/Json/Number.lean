import TagTemplate.Decimal.Integer
import TagTemplate.Json.Value

/-!
The value of a JSON number literal. An integer within 64 bits keeps its value. Any other literal
keeps as many leading digits as fit in 64 bits and scales them by one rounded power of ten; one that
becomes infinite has no value.
-/

namespace TagTemplate.Json.Number

open Decimal

structure Literal where
  negative : Bool
  whole : List Char
  fraction : Option (List Char)
  exponent : Option Int

def splitDigits (s : List Char) : List Char × List Char :=
  (s.takeWhile isDigit, s.dropWhile isDigit)

def validWhole : List Char → Bool
  | [] => false
  | ['0'] => true
  | c :: _ => c != '0'

def Literal.readExponent : List Char → Option (Option Int)
  | [] => some none
  | c :: s => if c = 'e' ∨ c = 'E' then (readInt s).map some else none

def Literal.readUnsigned (negative : Bool) (s : List Char) : Option Literal :=
  let (whole, rest) := splitDigits s
  if !validWhole whole then none
  else match rest with
    | '.' :: r =>
      let (fraction, rest) := splitDigits r
      if fraction.isEmpty then none
      else (readExponent rest).map fun e => ⟨negative, whole, some fraction, e⟩
    | r => (readExponent r).map fun e => ⟨negative, whole, none, e⟩

def Literal.read : List Char → Option Literal
  | '-' :: s => readUnsigned true s
  | s => readUnsigned false s

def maxWord : Nat := UInt64.size - 1

def gather (n : Nat) : List Char → Nat × List Char
  | [] => (n, [])
  | c :: r =>
    let m := 10 * n + digitValue c
    if m ≤ maxWord then gather m r else (n, c :: r)

def powerOfTen (n : Nat) : Option Double := Double.ofRatio (Nat.pow 10 n) 1

def scale (x : Double) (e : Int) : Nat → Option Double
  | 0 => some Double.zero
  | n + 1 =>
    if x.isZero then some x
    else if 308 < e then none
    else if 0 ≤ e then (powerOfTen e.toNat).bind x.mul
    else if -308 ≤ e then (powerOfTen (-e).toNat).bind x.div
    else ((powerOfTen 308).bind x.div).bind fun y => scale y (e + 308) n

def Literal.value (l : Literal) : Option Number :=
  let (n, extra) := gather 0 l.whole
  let signed (x : Double) : Number := .real { x with negative := l.negative }
  match l.fraction, l.exponent, extra with
  | none, none, [] =>
    if !l.negative then some (.integer n)
    else if n = 0 ∨ Nat.pow 2 63 < n then (Double.ofRatio n 1).map signed
    else some (.integer (-n))
  | fraction, exponent, extra =>
    let digits := fraction.getD []
    let (m, unused) := gather n digits
    let places : Int := extra.length - (digits.length - unused.length : Nat)
    (Double.ofRatio m 1).bind fun x => (scale x (places + exponent.getD 0) 4).map signed

def read (s : List Char) : Option Number := (Literal.read s).bind Literal.value

def isLiteral (s : List Char) : Bool := (Literal.read s).isSome

end TagTemplate.Json.Number
