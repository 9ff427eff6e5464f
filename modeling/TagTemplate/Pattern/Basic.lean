import TagTemplate.Unicode.CodeSet

/-!
Patterns and searching. `reach` sends a set of positions in a text to the positions where a match
that began at one of them can end; a text matches when a match begins and ends anywhere in it.
-/

namespace TagTemplate

open Unicode

inductive Pattern.Look where
  | textStart
  | textEnd
  | lineStart
  | lineEnd
  | wordBoundary
  | notWordBoundary
  | wordStart
  | wordEnd
  | wordStartHalf
  | wordEndHalf
  deriving Repr, DecidableEq

/-- A pattern in which the choice of case and the names of classes are resolved. A repetition tells
whether it prefers more rounds, a group which number it has; both have no effect on what matches. -/
inductive Pattern where
  | empty
  | literal (chars : List Char)
  | set (chars : CodeSet)
  | look (condition : Pattern.Look)
  | times (p : Pattern) (min : Nat) (max : Option Nat) (greedy : Bool)
  | group (index : Nat) (p : Pattern)
  | seq (ps : List Pattern)
  | alt (ps : List Pattern)

namespace Pattern

def isWordChar (c : Char) : Bool := c.isAlphanum || c == '_'

def isWordAt (s : List Char) (i : Nat) : Bool := s[i]?.any isWordChar

def Look.holds (s : List Char) (i : Nat) : Look → Bool
  | .textStart => i == 0
  | .textEnd => i == s.length
  | .lineStart => i == 0 || s[i - 1]? == some '\n'
  | .lineEnd => i == s.length || s[i]? == some '\n'
  | .wordBoundary => before != isWordAt s i
  | .notWordBoundary => before == isWordAt s i
  | .wordStart => !before && isWordAt s i
  | .wordEnd => before && !isWordAt s i
  | .wordStartHalf => !before
  | .wordEndHalf => !isWordAt s i
where
  before : Bool := i != 0 && isWordAt s (i - 1)

def union : List Nat → List Nat → List Nat
  | [], qs => qs
  | ps, [] => ps
  | p :: ps, q :: qs =>
    if p < q then p :: union ps (q :: qs)
    else if q < p then q :: union (p :: ps) qs
    else p :: union ps qs
termination_by ps qs => ps.length + qs.length

def repeatStep (f : List Nat → List Nat) : Nat → List Nat → List Nat
  | 0, ps => ps
  | n + 1, ps =>
    let qs := f ps
    if qs = ps then ps else repeatStep f n qs

def upTo (f : List Nat → List Nat) : Nat → List Nat → List Nat
  | 0, ps => ps
  | n + 1, ps =>
    let qs := (f ps).filter fun q => !ps.contains q
    if qs.isEmpty then ps else union ps (upTo f n qs)

def advance (chars : CodeSet) (s : List Char) (i : Nat) : Option Nat :=
  match s[i]? with
  | some c => if chars.has c then some (i + 1) else none
  | none => none

mutual

/-- The positions where a match can end. More rounds than the text has positions add nothing. -/
def reach (s : List Char) : Pattern → List Nat → List Nat
  | .empty, ps => ps
  | .literal cs, ps =>
    (ps.filter fun i => cs.isPrefixOf (s.drop i)).map (· + cs.length)
  | .set chars, ps => ps.filterMap (advance chars s)
  | .look l, ps => ps.filter fun i => l.holds s i
  | .times p min max _, ps =>
    let rounds := s.length + 1
    upTo (reach s p) ((max.map fun m => Nat.min (m - min) rounds).getD rounds)
      (repeatStep (reach s p) min ps)
  | .group _ p, ps => reach s p ps
  | .seq qs, ps => reachAll s qs ps
  | .alt qs, ps => reachAny s qs ps

def reachAll (s : List Char) : List Pattern → List Nat → List Nat
  | [], ps => ps
  | q :: qs, ps => reachAll s qs (reach s q ps)

def reachAny (s : List Char) : List Pattern → List Nat → List Nat
  | [], _ => []
  | q :: qs, ps => union (reach s q ps) (reachAny s qs ps)

end

def isMatch (p : Pattern) (s : String) : Bool :=
  !(reach s.toList p (List.range (s.toList.length + 1))).isEmpty

end Pattern

end TagTemplate
