import TagTemplate.Pattern.Named
import TagTemplate.Pattern.Build
import TagTemplate.Unicode.Folding

namespace TagTemplate.Pattern

open Unicode

def wordChars : CodeSet :=
  known (.unions [Property.alphabetic, Category.mark, Category.decimalNumber,
    Category.connectorPunctuation, Property.joinControl])

def Shorthand.chars (unicode : Bool) : Shorthand → CodeSet
  | .digit => if unicode then known Category.decimalNumber else .ofTable ["30-39"]
  | .space => if unicode then Property.whiteSpace else .ofTable ["9-D 20"]
  | .word => if unicode then wordChars else .ofTable ["30-39 41-5A 5F 61-7A"]

def SetOp.apply : SetOp → CodeSet → CodeSet → CodeSet
  | .inter => .inter
  | .diff => .diff
  | .symmDiff => .symmDiff

def complIf (negated : Bool) (s : CodeSet) : CodeSet := if negated then s.compl else s

def foldIf (f : Flags) (s : CodeSet) : CodeSet :=
  if !f.foldCase then s
  else if f.unicode then s.union (known s.fold)
  else s.fold.inter .ascii

def fit? (f : Flags) (s : CodeSet) : Option CodeSet :=
  if f.unicode || s.isAscii then some s else none

def Literal.code? (f : Flags) (l : Literal) : Option Nat :=
  if f.unicode || l.char.toNat < 128 then some l.char.toNat else none

mutual

def ClassTree.chars? (f : Flags) : ClassTree → Option CodeSet
  | .empty => some .nothing
  | .literal l => (l.code? f).map .single
  | .range low high => do return .range (← low.code? f) (← high.code? f)
  | .named negated chars => fit? f (complIf negated (foldIf f chars))
  | .shorthand negated kind => fit? f (complIf negated (kind.chars f.unicode))
  | .property negated query =>
    if f.unicode then query.chars?.map fun s => complIf negated (foldIf f s) else none
  | .bracketed negated body => do fit? f (complIf negated (foldIf f (← body.chars? f)))
  | .union items => (ClassTree.charsList? f items).map .unions
  | .op kind left right => do
    return kind.apply (foldIf f (← left.chars? f)) (foldIf f (← right.chars? f))

def ClassTree.charsList? (f : Flags) : List ClassTree → Option (List CodeSet)
  | [] => some []
  | c :: cs => do return (← c.chars? f) :: (← ClassTree.charsList? f cs)

end

def Literal.pattern? (f : Flags) (l : Literal) : Option Pattern :=
  let isAscii := l.char.toNat < 128
  if !f.unicode && l.asByte && !isAscii then none
  else if f.foldCase && (f.unicode || isAscii) then some (ofSet (foldIf f (.single l.char.toNat)))
  else some (.literal [l.char])

def dotChars (f : Flags) : CodeSet :=
  if f.dotAll then .all
  else if f.crlf then CodeSet.compl (.ofTable ["A D"])
  else CodeSet.compl (.single 0xA)

def Assertion.look (f : Flags) : Assertion → Look
  | .lineStart => if f.multiLine then .lineStart else .textStart
  | .lineEnd => if f.multiLine then .lineEnd else .textEnd
  | .textStart => .textStart
  | .textEnd => .textEnd
  | .wordBoundary => .wordBoundary
  | .notWordBoundary => .notWordBoundary
  | .wordStart => .wordStart
  | .wordEnd => .wordEnd
  | .wordStartHalf => .wordStartHalf
  | .wordEndHalf => .wordEndHalf

mutual

def Tree.pattern? (f : Flags) : Tree → Option (Pattern × Flags)
  | .empty => some (.empty, f)
  | .flags change => some (.empty, change.apply f)
  | .literal l => (l.pattern? f).map fun p => (p, f)
  | .dot => if f.unicode then some (ofSet (dotChars f), f) else none
  | .assertion a => some (.look (a.look f), f)
  | .set c => (c.chars? f).map fun s => (ofSet s, f)
  | .times t min max greedy => do
    let (p, f) ← t.pattern? f
    return (repeated p min max (greedy != f.swapGreed), f)
  | .group (.plain change) t => do
    let (p, _) ← t.pattern? (change.apply f)
    return (p, f)
  | .group (.capture i) t => do
    let (p, _) ← t.pattern? f
    return (.group i p, f)
  | .alt ts => do
    let (ps, f) ← Tree.patterns? f ts
    return (choice ps, f)
  | .seq ts => do
    let (ps, f) ← Tree.patterns? f ts
    return (concat ps, f)

def Tree.patterns? (f : Flags) : List Tree → Option (List Pattern × Flags)
  | [] => some ([], f)
  | t :: ts => do
    let (p, f) ← t.pattern? f
    let (ps, f) ← Tree.patterns? f ts
    return (p :: ps, f)

end

end TagTemplate.Pattern
