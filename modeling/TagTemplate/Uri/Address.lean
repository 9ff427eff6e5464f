import TagTemplate.Decimal.Integer

namespace TagTemplate.Uri

def hexDigit? (c : Char) : Option Nat :=
  if '0' ≤ c ∧ c ≤ '9' then some (c.toNat - 48)
  else if 'a' ≤ c ∧ c ≤ 'f' then some (c.toNat - 87)
  else if 'A' ≤ c ∧ c ≤ 'F' then some (c.toNat - 55)
  else none

def readBase (base : Nat) (s : List Char) : Option Nat :=
  s.foldlM (fun n c => (hexDigit? c).bind fun d => if d < base then some (base * n + d) else none) 0

namespace Address4

def number? : List Char → Option Nat
  | [] => none
  | '0' :: 'x' :: s | '0' :: 'X' :: s => readBase 16 s
  | ['0'] => some 0
  | '0' :: s => readBase 8 s
  | s => readBase 10 s

def parts (s : List Char) : List (List Char) :=
  match (Text.splitChars '.' s).reverse with
  | [] :: r => r.reverse
  | r => r.reverse

def isNumeric (s : List Char) : Bool :=
  match (parts s).getLast? with
  | some p => (!p.isEmpty && p.all Decimal.isDigit) || (number? p).isSome
  | none => false

def value? (numbers : List Nat) : Option Nat :=
  match numbers.reverse with
  | [] => none
  | last :: others =>
    let rest := Nat.pow 256 (4 - others.length)
    if others.length ≤ 3 ∧ last < rest ∧ others.all (· < 256) then
      some (others.reverse.foldl (fun n b => 256 * n + b) 0 * rest + last)
    else none

def read? (s : List Char) : Option Nat := ((parts s).mapM number?).bind value?

def dotted (n : Nat) : String :=
  ".".intercalate ([(n >>> 24) % 256, (n >>> 16) % 256, (n >>> 8) % 256, n % 256].map toString)

end Address4

namespace Address6

def group? (s : List Char) : Option Nat :=
  if s.length = 0 ∨ 4 < s.length then none else readBase 16 s

def byte? (s : List Char) : Option Nat :=
  if s.length = 0 ∨ 3 < s.length ∨ (s.length ≠ 1 ∧ s.head? = some '0') then none
  else (readBase 10 s).filter (· < 256)

def quad? (s : List Char) : Option (List Nat) := do
  match ← (Text.splitChars '.' s).mapM byte? with
  | [a, b, c, d] => some [256 * a + b, 256 * c + d]
  | _ => none

/-- Groups between colons. Where `last`, the text is the end of the address and may end in an
address of version 4. -/
def groups? (last : Bool) : List (List Char) → Option (List Nat)
  | [] => some []
  | [p] => if last && p.contains '.' then quad? p else (group? p).map ([·])
  | p :: r => do return (← group? p) :: (← groups? last r)

def side? (last : Bool) (s : List Char) : Option (List Nat) :=
  if s.isEmpty then some [] else groups? last (Text.splitChars ':' s)

def splitGap : List Char → Option (List Char × List Char)
  | ':' :: ':' :: r => some ([], r)
  | c :: r => (splitGap r).map fun (a, b) => (c :: a, b)
  | [] => none

/-- The eight groups of an address. A pair of colons stands for one or more groups of zero. -/
def read? (s : List Char) : Option (List Nat) :=
  match splitGap s with
  | some (a, b) => do
    let left ← side? false a
    let right ← side? true b
    let n := left.length + right.length
    if n < 8 then some (left ++ List.replicate (8 - n) 0 ++ right) else none
  | none => (groups? true (Text.splitChars ':' s)).filter (·.length == 8)

def zeros (groups : List Nat) : Nat := (groups.takeWhile (· == 0)).length

def longestRun : List Nat → Nat
  | [] => 0
  | g :: r => Nat.max (zeros (g :: r)) (longestRun r)

def hexText (n : Nat) : List Char := Nat.toDigits 16 n

def joined (groups : List Nat) : List Char := [':'].intercalate (groups.map hexText)

def elide (n : Nat) (before : List Nat) : List Nat → List Char
  | [] => joined before.reverse
  | g :: r =>
    if zeros (g :: r) = n then
      joined before.reverse ++ [':', ':'] ++ joined ((g :: r).drop n)
    else elide n (g :: before) r

/-- The shortest text: the first of the longest runs of two or more zeros is left out. -/
def render (groups : List Nat) : List Char :=
  let n := longestRun groups
  if 2 ≤ n then elide n [] groups else joined groups

end Address6

end TagTemplate.Uri
