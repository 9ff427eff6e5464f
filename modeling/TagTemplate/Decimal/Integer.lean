import TagTemplate.Text.Blank

namespace TagTemplate.Decimal

def isDigit (c : Char) : Bool := '0' ≤ c && c ≤ '9'

def digitValue (c : Char) : Nat := c.toNat - '0'.toNat

def ofDigits (s : List Char) : Nat := s.foldl (fun n c => 10 * n + digitValue c) 0

def readNat (s : List Char) : Option Nat :=
  if !s.isEmpty && s.all isDigit then some (ofDigits s) else none

def readInt : List Char → Option Int
  | '+' :: s => (readNat s).map Int.ofNat
  | '-' :: s => (readNat s).map fun n => -(Int.ofNat n)
  | s => (readNat s).map Int.ofNat

def minInt64 : Int := -9223372036854775808

def maxInt64 : Int := 9223372036854775807

def fitsInt64 (n : Int) : Bool := minInt64 ≤ n && n ≤ maxInt64

def intLiteral (code : String) : Option Int :=
  (readInt (Text.trimChars code.toList)).filter fitsInt64

end TagTemplate.Decimal
