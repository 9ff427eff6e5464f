namespace TagTemplate.Uri.Punycode

def digitChar (d : Nat) : Char := Char.ofNat (if d < 26 then 97 + d else 22 + d)

def digit? (c : Char) : Option Nat :=
  if 'a' ≤ c ∧ c ≤ 'z' then some (c.toNat - 97)
  else if '0' ≤ c ∧ c ≤ '9' then some (c.toNat - 22)
  else none

def threshold (k bias : Nat) : Nat :=
  if k ≤ bias then 1 else if bias + 26 ≤ k then 26 else k - bias

theorem threshold_pos (k bias : Nat) : 0 < threshold k bias := by
  unfold threshold; split <;> (try split) <;> omega

def shrink (delta k : Nat) : Nat :=
  if 455 < delta then shrink (delta / 35) (k + 36) else k + 36 * delta / (delta + 38)
termination_by delta

def adapt (delta count : Nat) (first : Bool) : Nat :=
  let d := if first then delta / 700 else delta / 2
  shrink (d + d / count) 0

def numeral (bias k n : Nat) : List Char :=
  let t := threshold k bias
  if n < t then [digitChar n]
  else digitChar (t + (n - t) % (36 - t)) :: numeral bias (k + 36) ((n - t) / (36 - t))
termination_by n
decreasing_by
  have := threshold_pos k bias
  have := Nat.div_le_self (n - threshold k bias) (36 - threshold k bias)
  omega

structure Encoder where
  delta : Nat := 0
  bias : Nat := 72
  count : Nat
  out : List Char := []

def Encoder.pass (basic m : Nat) (e : Encoder) (c : Char) : Encoder :=
  if c.toNat < m then { e with delta := e.delta + 1 }
  else if c.toNat = m then
    { delta := 0
      bias := adapt e.delta (e.count + 1) (e.count == basic)
      count := e.count + 1
      out := e.out ++ numeral e.bias 36 e.delta }
  else e

def Encoder.run (text : List Char) (basic : Nat) : List Nat → Nat → Encoder → Encoder
  | [], _, e => e
  | m :: codes, n, e =>
    let e := { e with delta := e.delta + (m - n) * (e.count + 1) }
    let e := text.foldl (Encoder.pass basic m) e
    run text basic codes (m + 1) { e with delta := e.delta + 1 }

def isBasic (c : Char) : Bool := c.toNat < 128

def encode (text : List Char) : List Char :=
  let basic := text.filter isBasic
  let codes := ((text.filter fun c => !isBasic c).map Char.toNat).eraseDups.mergeSort
  let e := Encoder.run text basic.length codes 128 { count := basic.length }
  (if basic.isEmpty then [] else basic ++ ['-']) ++ e.out

/-- The reader of the numerals: the last code point and place, and the numeral begun at `start`. -/
structure Decoder where
  code : Nat := 128
  place : Nat := 0
  bias : Nat := 72
  start : Nat := 0
  weight : Nat := 1
  k : Nat := 36
  out : List Char

def Decoder.finish (d : Decoder) : Option Decoder :=
  let count := d.out.length + 1
  let code := d.code + d.place / count
  let place := d.place % count
  if code.isValidChar then some {
    code
    place := place + 1
    bias := adapt (d.place - d.start) count (d.start == 0)
    start := place + 1
    out := d.out.take place ++ Char.ofNat code :: d.out.drop place }
  else none

def Decoder.run : List Char → Decoder → Option (List Char)
  | [], d => if d.k = 36 then some d.out else none
  | c :: r, d => do
    let v ← digit? c
    let t := threshold d.k d.bias
    let place := d.place + v * d.weight
    if UInt32.size ≤ place then none
    else if v < t then
      let d ← { d with place }.finish
      run r d
    else
      let weight := d.weight * (36 - t)
      if UInt32.size ≤ weight then none else run r { d with place, weight, k := d.k + 36 }

/-- Decode a text. The last hyphen ends the ASCII characters, unless there is none of them. -/
def decode (s : List Char) : Option (List Char) :=
  let tail := (s.reverse.takeWhile (· != '-')).reverse
  match s.take (s.length - tail.length) with
  | [] => Decoder.run tail { out := [] }
  | [_] => none
  | start => Decoder.run tail { out := start.dropLast }

end TagTemplate.Uri.Punycode
