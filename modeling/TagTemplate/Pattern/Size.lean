import TagTemplate.Pattern.Build
import TagTemplate.Text.Utf8

/-!
The size of a pattern: the memory in bytes of an automaton that reads a text in UTF-8, forward or in
reverse. A state takes 32 bytes, each further way out of one of several ways 4 bytes, and each way
for a range of bytes 8 bytes.
-/

namespace TagTemplate.Pattern

open Unicode Text

/-- The states of a set read forward, as far as they were built: each by the ranges that lead out of
it and the number of the state that each range leads to. Numbers count from one, zero is the end. -/
abbrev States := List (List (ByteRange × Nat))

def States.add (states : States) (ways : List (ByteRange × Nat)) : Nat × States :=
  match states.findIdx? (· == ways) with
  | some i => (i + 1, states)
  | none => (states.length + 1, states ++ [ways])

def groupByHead : List (List ByteRange) → List (ByteRange × List (List ByteRange))
  | [] => []
  | [] :: rest => groupByHead rest
  | (r :: tail) :: rest =>
    match groupByHead rest with
    | (r', tails) :: groups =>
      if r = r' then (r, tail :: tails) :: groups else (r, [tail]) :: (r', tails) :: groups
    | [] => [(r, [tail])]

def States.build : Nat → List (List ByteRange) → States → Nat × States
  | 0, _, states => (0, states)
  | n + 1, sequences, states =>
    if sequences.all List.isEmpty then (0, states)
    else
      let (ways, states) := (groupByHead sequences).foldl
        (fun (ways, states) (r, tails) =>
          let (i, states) := States.build n tails states
          (ways ++ [(r, i)], states)) ([], states)
      states.add ways

def forwardSetSize (chars : CodeSet) : Nat :=
  32 + total ((States.build 4 (spell chars) []).2.map fun ways => 32 + 8 * ways.length)

def sharedLength : List ByteRange → List ByteRange → Nat
  | a :: r, b :: s => if a = b then sharedLength r s + 1 else 0
  | _, _ => 0

def freshLength (previous : List ByteRange) : List (List ByteRange) → Nat
  | [] => 0
  | s :: rest => s.length - sharedLength previous s + freshLength s rest

/-- Read in reverse, sequences share their states as long as they begin in the same way. -/
def reverseSetSize (chars : CodeSet) : Nat :=
  let sequences := spell chars
  64 + 4 * sequences.length + 32 * freshLength [] sequences

def setSize (backward : Bool) (chars : CodeSet) : Nat :=
  if chars.isEmpty then 32
  else if chars.isAscii then 64 + 8 * chars.ranges.length
  else if backward then reverseSetSize chars
  else forwardSetSize chars

def cutAtEmpty : List (List Nat) → List (List (List Nat))
  | [] => [[]]
  | [] :: r => [] :: cutAtEmpty r
  | w :: r =>
    match cutAtEmpty r with
    | [] => [[w]]
    | piece :: pieces => (w :: piece) :: pieces

/-- The size of the states that tell words apart, which are `n` bytes long at most. The words are in
order of preference, so that a word that ends keeps what comes after it apart from what came before
it. -/
def wordsSize : Nat → List (List Nat) → Nat
  | 0, _ => 0
  | n + 1, words =>
    let longer := words.dropWhile List.isEmpty
    if longer.isEmpty then 0
    else
      let pieces := cutAtEmpty (if longer.length < words.length then [] :: longer else longer)
      let ends := pieces.length - 1
      let full := pieces.filter fun piece => !piece.isEmpty
      32 + 4 * (full.length + ends) + total (full.map fun piece =>
        let heads := (piece.filterMap List.head?).eraseDups
        32 + (if heads.length < 2 then 0 else 8 * heads.length) + total (heads.map fun b =>
          wordsSize n ((piece.filter fun w => w.head? == some b).map List.tail)))

def bytes (cs : List Char) : List Nat := (String.ofList cs).toUTF8.data.toList.map UInt8.toNat

def literal? : Pattern → Option (List Char)
  | .literal cs => some cs
  | _ => none

def literalsSize (backward : Bool) (texts : List (List Char)) : Nat :=
  let words := texts.map fun cs => if backward then (bytes cs).reverse else bytes cs
  32 + wordsSize ((words.map List.length).foldl Nat.max 0 + 1) words

def timesSize (size : Nat) (canBeEmpty : Bool) (min : Nat) : Option Nat → Nat
  | none =>
    if min = 0 then if canBeEmpty then 112 + size else 40 + size
    else min * size + 40
  | some max =>
    if min = 0 ∧ max = 1 then 72 + size
    else if min = max then min * size
    else (if min = 0 then 32 else min * size) + 32 + (max - min) * (40 + size)

mutual

def partSize (backward : Bool) : Pattern → Nat
  | .empty | .look _ => 32
  | .literal cs => 32 * literalLength cs
  | .set chars => setSize backward chars
  | .times p min max _ =>
    timesSize (partSize backward p) (!(p.minLength.any (0 < ·))) min max
  | .group _ p => partSize backward p + if backward then 0 else 64
  | .seq ps => total (partSizes backward ps)
  | .alt ps =>
    match ps.mapM literal? with
    | some texts => literalsSize backward texts
    | none => 64 + 4 * ps.length + total (partSizes backward ps)

def partSizes (backward : Bool) : List Pattern → List Nat
  | [] => []
  | p :: ps => partSize backward p :: partSizes backward ps

end

mutual

def startsText : Pattern → Bool
  | .look l => l == .textStart
  | .times p min _ _ => 0 < min && p.startsText
  | .group _ p => p.startsText
  | .seq ps => startsTextSeq ps
  | .alt ps => startsTextAll ps
  | _ => false

def startsTextSeq : List Pattern → Bool
  | [] => false
  | p :: ps => p.startsText || (p.maxLength == some 0 && startsTextSeq ps)

def startsTextAll : List Pattern → Bool
  | [] => true
  | p :: ps => p.startsText && startsTextAll ps

end

mutual

def endsText : Pattern → Bool
  | .look l => l == .textEnd
  | .times p min _ _ => 0 < min && p.endsText
  | .group _ p => p.endsText
  | .seq ps => endsTextSeq ps
  | .alt ps => endsTextAll ps
  | _ => false

def endsTextSeq : List Pattern → Bool
  | [] => false
  | p :: ps => endsTextSeq ps || (emptyAll ps && p.endsText)

def endsTextAll : List Pattern → Bool
  | [] => true
  | p :: ps => p.endsText && endsTextAll ps

def emptyAll : List Pattern → Bool
  | [] => true
  | p :: ps => p.maxLength == some 0 && emptyAll ps

end

/-- A match that may begin anywhere is found behind a loop over the bytes before it. -/
def leadSize (anchored : Bool) : Nat := if anchored then 32 else 112

def forwardSize (p : Pattern) : Nat := leadSize p.startsText + partSize false p + 96

def reverseSize (p : Pattern) : Nat := leadSize p.endsText + partSize true p + 32

def sizeLimit : Nat := 10485760

def isSmall (p : Pattern) : Bool := p.forwardSize ≤ sizeLimit && p.reverseSize ≤ sizeLimit

end TagTemplate.Pattern
