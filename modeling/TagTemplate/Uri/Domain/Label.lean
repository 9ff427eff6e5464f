import TagTemplate.Uri.Domain.Mapping
import TagTemplate.Uri.Punycode
import TagTemplate.Unicode.Normal
import TagTemplate.Unicode.Joining
import TagTemplate.Unicode.Direction

/-!
The labels of domain names, in their Unicode form. A label begins with no mark, holds joiners only
where they have an effect, and keeps to one direction where its domain has letters from right to
left.
-/

namespace TagTemplate.Uri.Domain

open Unicode

abbrev Label := List Char

namespace Label

def isAscii (label : Label) : Bool := label.all fun c => c.toNat < 128

def startsWithMark (label : Label) : Bool := label.head?.any Category.mark.has

def nonJoiner : Char := '\u200c'

def joiner : Char := '\u200d'

def afterVirama (before : List Char) : Bool :=
  before.head?.any fun c => Normal.combiningClass c.toNat == 9

def pastTransparent (s : List Char) : Option Char :=
  (s.dropWhile Joining.transparent.has).head?

def betweenLetters (before after : List Char) : Bool :=
  (pastTransparent before).any (fun c => Joining.left.has c || Joining.dual.has c) &&
    (pastTransparent after).any fun c => Joining.right.has c || Joining.dual.has c

def joinersFit (before : List Char) : List Char → Bool
  | [] => true
  | c :: r =>
    (if c = joiner then afterVirama before
      else if c = nonJoiner then afterVirama before || betweenLetters before r
      else true) && joinersFit (c :: before) r

def directions (label : Label) : List Direction := label.map fun c => Direction.ofCode c.toNat

def isRightToLeft (label : Label) : Bool :=
  label.directions.any fun d => d == .right || d == .arabicNumber

def ending (ds : List Direction) : Option Direction := (ds.reverse.dropWhile (· == .mark)).head?

def keepsDirection (label : Label) : Bool :=
  let ds := label.directions
  match ds.head? with
  | none => true
  | some .right =>
    !ds.contains .left &&
      [some .right, some .europeanNumber, some .arabicNumber].contains (ending ds) &&
      !(ds.contains .europeanNumber && ds.contains .arabicNumber)
  | some .left =>
    !ds.contains .right && !ds.contains .arabicNumber &&
      [some .left, some .europeanNumber].contains (ending ds)
  | _ => false

def unicodeLimit : Nat := 1000

def asciiLimit : Nat := 2000

def asciiStart : List Char := ['x', 'n', '-', '-']

/-- The Unicode form of a label that stands in its ASCII form. It is a label that mapping and
normalising keep, and one that needs the ASCII form. -/
def ofAscii? (label : List Char) : Option Label :=
  let tail := label.drop asciiStart.length
  if tail.length ≤ asciiLimit ∧ tail.getLast? ≠ some '-' then
    (Punycode.decode tail).filter fun s =>
      s.length ≤ unicodeLimit && !isAscii s && s.all isKept && Normal.normalize s == s
  else none

def read? (text : List Char) : Option Label :=
  let label := if asciiStart.isPrefixOf text then ofAscii? text else some text
  label.filter fun l => !l.startsWithMark && joinersFit [] l

def toAscii? (label : Label) : Option (List Char) :=
  if label.isAscii then some label
  else if label.length ≤ unicodeLimit then some (asciiStart ++ Punycode.encode label)
  else none

end Label

end TagTemplate.Uri.Domain
