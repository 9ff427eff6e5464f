/-!
Sets of code points, as their boundaries in ascending order: the places where membership changes.
A set has one such form, and two sets combine in one sweep over their boundaries.
-/

namespace TagTemplate.Unicode

/-- A number is a member when the number of boundaries up to it is odd. -/
structure CodeSet where
  bounds : List Nat
  deriving Repr, DecidableEq

namespace CodeSet

def memFrom (b : Bool) (n : Nat) : List Nat → Bool
  | [] => b
  | x :: xs => if n < x then b else memFrom (!b) n xs

def mem (s : CodeSet) (n : Nat) : Bool := memFrom false n s.bounds

def has (s : CodeSet) (c : Char) : Bool := s.mem c.toNat

def nothing : CodeSet := ⟨[]⟩

def range (low high : Nat) : CodeSet := if low ≤ high then ⟨[low, high + 1]⟩ else nothing

def all : CodeSet := ⟨[0, 0xD800, 0xE000, 0x110000]⟩

def ascii : CodeSet := range 0 0x7F

def isEmpty (s : CodeSet) : Bool := s.bounds.isEmpty

def mark (x : Nat) (old new : Bool) (rest : List Nat) : List Nat :=
  if old == new then rest else x :: rest

/-- The boundaries of a combination, where the sweep stands inside the sets as `a` and `b` say. -/
def sweep (op : Bool → Bool → Bool) (a b : Bool) : List Nat → List Nat → List Nat
  | [], [] => []
  | x :: xs, [] => mark x (op a b) (op (!a) b) (sweep op (!a) b xs [])
  | [], y :: ys => mark y (op a b) (op a !b) (sweep op a (!b) [] ys)
  | x :: xs, y :: ys =>
    if x < y then mark x (op a b) (op (!a) b) (sweep op (!a) b xs (y :: ys))
    else if y < x then mark y (op a b) (op a !b) (sweep op a (!b) (x :: xs) ys)
    else mark x (op a b) (op (!a) !b) (sweep op (!a) (!b) xs ys)
termination_by xs ys => xs.length + ys.length

def combine (op : Bool → Bool → Bool) (s t : CodeSet) : CodeSet :=
  ⟨sweep op false false s.bounds t.bounds⟩

def union : CodeSet → CodeSet → CodeSet := combine fun a b => a || b

def inter : CodeSet → CodeSet → CodeSet := combine fun a b => a && b

def diff : CodeSet → CodeSet → CodeSet := combine fun a b => a && !b

def symmDiff : CodeSet → CodeSet → CodeSet := combine fun a b => a != b

def compl (s : CodeSet) : CodeSet := all.diff s

def unions (sets : List CodeSet) : CodeSet := sets.foldl union nothing

def ranges (s : CodeSet) : List (Nat × Nat) := pairs s.bounds
where
  pairs : List Nat → List (Nat × Nat)
    | x :: y :: r => (x, y - 1) :: pairs r
    | _ => []

def joinFrom (low high : Nat) : List (Nat × Nat) → List Nat
  | [] => [low, high + 1]
  | (a, b) :: r =>
    if a ≤ high + 1 then joinFrom low (Nat.max high b) r else low :: (high + 1) :: joinFrom a b r

def ofRanges (ranges : List (Nat × Nat)) : CodeSet :=
  match ranges.mergeSort fun a b => a.1 ≤ b.1 with
  | [] => nothing
  | (a, b) :: r => ⟨joinFrom a b r⟩

def ofList (codes : List Nat) : CodeSet := ofRanges (codes.map fun n => (n, n))

def single (n : Nat) : CodeSet := range n n

def only? (s : CodeSet) : Option Nat :=
  match s.bounds with
  | [a, b] => if b = a + 1 then some a else none
  | _ => none

def isAscii (s : CodeSet) : Bool := s.bounds.all (· ≤ 0x80)

end CodeSet

end TagTemplate.Unicode
