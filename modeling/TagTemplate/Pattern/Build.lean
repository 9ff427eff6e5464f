import TagTemplate.Pattern.Basic

namespace TagTemplate.Pattern

open Unicode

def utf8Length (n : Nat) : Nat :=
  if n < 0x80 then 1 else if n < 0x800 then 2 else if n < 0x10000 then 3 else 4

def total (ns : List Nat) : Nat := ns.foldl Nat.add 0

def literalLength (cs : List Char) : Nat := total (cs.map fun c => utf8Length c.toNat)

mutual

def minLength : Pattern → Option Nat
  | .empty | .look _ => some 0
  | .literal cs => some (literalLength cs)
  | .set chars => chars.ranges.head?.map fun r => utf8Length r.1
  | .times p min _ _ => p.minLength.map (· * min)
  | .group _ p => p.minLength
  | .seq ps => (minLengths ps).map total
  | .alt ps => (minLengths ps).bind List.min?

def minLengths : List Pattern → Option (List Nat)
  | [] => some []
  | p :: ps => do return (← p.minLength) :: (← minLengths ps)

end

mutual

def maxLength : Pattern → Option Nat
  | .empty | .look _ => some 0
  | .literal cs => some (literalLength cs)
  | .set chars => chars.ranges.getLast?.map fun r => utf8Length r.2
  | .times p _ max _ => do return (← p.maxLength) * (← max)
  | .group _ p => p.maxLength
  | .seq ps => (maxLengths ps).map total
  | .alt ps => (maxLengths ps).bind List.max?

def maxLengths : List Pattern → Option (List Nat)
  | [] => some []
  | p :: ps => do return (← p.maxLength) :: (← maxLengths ps)

end

mutual

def same : Pattern → Pattern → Bool
  | .empty, .empty => true
  | .literal a, .literal b => a == b
  | .set a, .set b => a == b
  | .look a, .look b => a == b
  | .times p m n g, .times q m' n' g' => m == m' && n == n' && g == g' && same p q
  | .group i p, .group j q => i == j && same p q
  | .seq ps, .seq qs => sameAll ps qs
  | .alt ps, .alt qs => sameAll ps qs
  | _, _ => false

def sameAll : List Pattern → List Pattern → Bool
  | [], [] => true
  | p :: ps, q :: qs => same p q && sameAll ps qs
  | _, _ => false

end

def ofSet (chars : CodeSet) : Pattern :=
  match chars.only? with
  | some n => .literal [Char.ofNat n]
  | none => .set chars

/-- A repetition. What matches the empty text only matches it as well once. -/
def repeated (p : Pattern) (min : Nat) (max : Option Nat) (greedy : Bool) : Pattern :=
  let (min, max) := if p.maxLength = some 0 then
    (Nat.min min 1, some ((max.map (Nat.min 1)).getD 1)) else (min, max)
  if max = some 0 then .empty
  else if min = 1 ∧ max = some 1 then p
  else .times p min max greedy

def before (p : Pattern) (rest : List Pattern) : List Pattern :=
  match p, rest with
  | .empty, rest => rest
  | .literal a, .literal b :: rest => .literal (a ++ b) :: rest
  | p, rest => p :: rest

def parts : Pattern → List Pattern
  | .seq ps => ps
  | p => [p]

def concat (ps : List Pattern) : Pattern :=
  match (ps.flatMap parts).foldr before [] with
  | [] => .empty
  | [p] => p
  | qs => .seq qs

def alternatives : Pattern → List Pattern
  | .alt ps => ps
  | p => [p]

def singleChar? : Pattern → Option Nat
  | .literal [c] => some c.toNat
  | _ => none

def set? : Pattern → Option CodeSet
  | .set chars => some chars
  | _ => none

def merged (ps : List Pattern) : Pattern :=
  match ps.flatMap alternatives with
  | [] => .set .nothing
  | [p] => p
  | qs =>
    match qs.mapM singleChar?, qs.mapM set? with
    | some codes, _ => ofSet (.ofList codes)
    | none, some sets => ofSet (.unions sets)
    | none, none => .alt qs

def commonStart : List (List Pattern) → List Pattern
  | [] => []
  | ps :: rest => rest.foldl shared ps
where
  shared : List Pattern → List Pattern → List Pattern
    | p :: ps, q :: qs => if same p q then p :: shared ps qs else []
    | _, _ => []

def sequence? : Pattern → Option (List Pattern)
  | .seq ps => some ps
  | _ => none

def choice (ps : List Pattern) : Pattern :=
  match merged ps with
  | .alt qs =>
    match qs.mapM sequence? with
    | some sequences =>
      let start := commonStart sequences
      if start.isEmpty then .alt qs
      else concat (start ++ [merged (sequences.map fun s => concat (s.drop start.length))])
    | none => .alt qs
  | p => p

end TagTemplate.Pattern
