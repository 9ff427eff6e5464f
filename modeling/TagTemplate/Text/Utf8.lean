import TagTemplate.Unicode.CodeSet

namespace TagTemplate.Text

open Unicode

abbrev ByteRange := Nat × Nat

def trailing : ByteRange := (0x80, 0xBF)

/-- The sequences of byte ranges that spell the numbers from `a` to `b` in a first byte counted from
`start` and `k` more bytes of six bits each. They ascend. -/
def spellFrom (start : Nat) : Nat → Nat → Nat → List (List ByteRange)
  | 0, a, b => [[(start + a, start + b)]]
  | k + 1, a, b =>
    let unit := Nat.pow 64 (k + 1)
    let (ha, la) := (a / unit, a % unit)
    let (hb, lb) := (b / unit, b % unit)
    if ha = hb then (spellFrom 0x80 k la lb).map ((start + ha, start + hb) :: ·)
    else
      let low := if la = 0 then [] else
        (spellFrom 0x80 k la (unit - 1)).map ((start + ha, start + ha) :: ·)
      let high := if lb = unit - 1 then [] else
        (spellFrom 0x80 k 0 lb).map ((start + hb, start + hb) :: ·)
      let first := if la = 0 then ha else ha + 1
      let past := if lb = unit - 1 then hb + 1 else hb
      let between := if first < past then
        [(start + first, start + past - 1) :: List.replicate (k + 1) trailing] else []
      low ++ between ++ high

/-- The ranges of code points with one length in bytes: the bytes behind the first, what the first
is counted from, and the range. -/
def lengthClasses : List (Nat × Nat × Nat × Nat) :=
  [(0, 0, 0, 0x7F), (1, 0xC0, 0x80, 0x7FF), (2, 0xE0, 0x800, 0xFFFF), (3, 0xF0, 0x10000, 0x10FFFF)]

def spellRange (low high : Nat) : List (List ByteRange) :=
  lengthClasses.flatMap fun (k, start, first, last) =>
    let (a, b) := (Nat.max low first, Nat.min high last)
    if a ≤ b then spellFrom start k a b else []

def spell (s : CodeSet) : List (List ByteRange) :=
  (s.inter .all).ranges.flatMap fun (a, b) => spellRange a b

end TagTemplate.Text
