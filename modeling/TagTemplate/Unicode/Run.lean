import TagTemplate.Unicode.CodeSet
import TagTemplate.Text.Blank

/-!
Tables of code points, in a text form. An item is a run of code points in hexadecimal: `41-5A`, or
`100-12E/2` for every second one. Behind `>` stand the code points that the first of the run goes
with, with points between them. The tables are those of Unicode 17 where they name no other version.
-/

namespace TagTemplate.Unicode

structure Run where
  first : Nat
  last : Nat
  step : Nat
  target : List Nat
  deriving Repr, DecidableEq

namespace Run

def hexValue (c : Char) : Nat := if c.toNat < 65 then c.toNat - 48 else c.toNat - 55

def hexNumber (s : List Char) : Nat := s.foldl (fun n c => 16 * n + hexValue c) 0

def cut (sep : Char) (s : List Char) : List Char × List Char :=
  (s.takeWhile (· != sep), (s.dropWhile (· != sep)).drop 1)

def read (item : List Char) : Run :=
  let (span, target) := cut '>' item
  let (ends, step) := cut '/' span
  let (first, last) := cut '-' ends
  { first := hexNumber first
    last := hexNumber (if last.isEmpty then first else last)
    step := if step.isEmpty then 1 else hexNumber step
    target := if target.isEmpty then [] else (Text.splitChars '.' target).map hexNumber }

def table (lines : List String) : List Run :=
  lines.flatMap fun l => (Text.splitChars ' ' l.toList).map read

def contains (r : Run) (n : Nat) : Bool :=
  r.first ≤ n && n ≤ r.last && (n - r.first) % r.step == 0

def codes (r : Run) : List Nat :=
  (List.range ((r.last - r.first) / r.step + 1)).map fun i => r.first + r.step * i

def ranges (r : Run) : List (Nat × Nat) :=
  if r.step = 1 then [(r.first, r.last)] else r.codes.map fun n => (n, n)

def image (r : Run) (n : Nat) : List Nat :=
  match r.target.reverse with
  | [] => []
  | t :: ts => ((t + (n - r.first)) :: ts).reverse

end Run

def CodeSet.ofTable (lines : List String) : CodeSet :=
  CodeSet.ofRanges ((Run.table lines).flatMap Run.ranges)

end TagTemplate.Unicode
