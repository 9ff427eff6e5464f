import TagTemplate.Json.Number

/-!
Reading JSON text, one character at a time. The reader is a machine with a stack of unfinished
containers; `step` gives its next state or refuses the character. At most 127 containers may be
open.

A caller may declare fields of the outermost object unknown. Their values are skipped: only their
grammar counts, not their depth, their surrogates or the size of their numbers.
-/

namespace TagTemplate.Json

inductive Frame where
  | items (done : List Json)
  | fields (done : List (String × Json))
  | member (done : List (String × Json)) (key : String)

inductive Inside where
  | plain
  | escape (high : Option Nat)
  | digits (high : Option Nat) (left value : Nat)
  | pair (high : Nat)

inductive Mode where
  | value
  | firstItem
  | firstKey
  | key
  | colon
  | next
  | done (v : Json)
  | word (letters : List Char)
  | string (isKey : Bool) (chars : List Char) (inside : Inside)

structure Reader where
  stack : List Frame := []
  mode : Mode := .value

namespace Reader

def depthLimit : Nat := 127

def skipping (known : String → Bool) (stack : List Frame) : Bool :=
  match stack.getLast? with
  | some (.member _ k) => !known k
  | _ => false

def isSpace (c : Char) : Bool := c == ' ' || c == '\t' || c == '\n' || c == '\r'

def isWordChar (c : Char) : Bool :=
  c.isAlphanum || c == '-' || c == '+' || c == '.'

def deliver (v : Json) : List Frame → Option Reader
  | [] => some ⟨[], .done v⟩
  | .items d :: s => some ⟨.items (v :: d) :: s, .next⟩
  | .member d k :: s => some ⟨.fields ((k, v) :: d) :: s, .next⟩
  | .fields _ :: _ => none

def close : List Frame → Char → Option Reader
  | .items d :: s, ']' => deliver (.array d.reverse) s
  | .fields d :: s, '}' => deliver (.object d.reverse) s
  | _, _ => none

def wordValue (skip : Bool) (word : List Char) : Option Json :=
  if word = "null".toList then some .null
  else if word = "true".toList then some (.bool true)
  else if word = "false".toList then some (.bool false)
  else if skip then (if Number.isLiteral word then some .null else none)
  else (Number.read word).map .number

def begin (known : String → Bool) (stack : List Frame) (c : Char) : Option Reader :=
  let fits := stack.length < depthLimit || skipping known stack
  if c = '[' then (if fits then some ⟨.items [] :: stack, .firstItem⟩ else none)
  else if c = '{' then (if fits then some ⟨.fields [] :: stack, .firstKey⟩ else none)
  else if c = '"' then some ⟨stack, .string false [] .plain⟩
  else if isWordChar c then some ⟨stack, .word [c]⟩
  else none

def afterValue (stack : List Frame) (c : Char) : Option Reader :=
  if c = ',' then
    match stack with
    | .items _ :: _ => some ⟨stack, .value⟩
    | .fields _ :: _ => some ⟨stack, .key⟩
    | _ => none
  else close stack c

def endString (isKey : Bool) (chars : List Char) : List Frame → Option Reader
  | .fields d :: s =>
    if isKey then some ⟨.member d (String.ofList chars.reverse) :: s, .colon⟩ else none
  | s => if isKey then none else deliver (.text (String.ofList chars.reverse)) s

def hexValue (c : Char) : Option Nat :=
  if '0' ≤ c ∧ c ≤ '9' then some (c.toNat - 48)
  else if 'a' ≤ c ∧ c ≤ 'f' then some (c.toNat - 87)
  else if 'A' ≤ c ∧ c ≤ 'F' then some (c.toNat - 55)
  else none

def simpleEscape (c : Char) : Option Char :=
  match c with
  | '"' => some '"'
  | '\\' => some '\\'
  | '/' => some '/'
  | 'b' => some '\x08'
  | 'f' => some '\x0c'
  | 'n' => some '\n'
  | 'r' => some '\r'
  | 't' => some '\t'
  | _ => none

/-- What the four digits of an escape stand for: a character, or half of one. A half that finds no
other half is refused, and replaced where the value is skipped. -/
def endEscape (skip : Bool) (high : Option Nat) (value : Nat) : Option (Option Char × Inside) :=
  let lone := if skip then some (some '\uFFFD', Inside.plain) else none
  match high with
  | none =>
    if 0xD800 ≤ value ∧ value < 0xDC00 then
      if skip then lone else some (none, .pair value)
    else if 0xDC00 ≤ value ∧ value < 0xE000 then lone
    else some (some (Char.ofNat value), .plain)
  | some h =>
    if 0xDC00 ≤ value ∧ value < 0xE000 then
      some (some (Char.ofNat (0x10000 + (h - 0xD800) * 0x400 + (value - 0xDC00))), .plain)
    else none

def inString (skip isKey : Bool) (chars : List Char) (stack : List Frame) :
    Inside → Char → Option Reader
  | .plain, c =>
    if c = '"' then endString isKey chars stack
    else if c = '\\' then some ⟨stack, .string isKey chars (.escape none)⟩
    else if c.toNat < 0x20 then none
    else some ⟨stack, .string isKey (c :: chars) .plain⟩
  | .escape high, c =>
    if c = 'u' then some ⟨stack, .string isKey chars (.digits high 4 0)⟩
    else if high.isSome then none
    else (simpleEscape c).map fun x => ⟨stack, .string isKey (x :: chars) .plain⟩
  | .digits high left value, c => do
    let d ← hexValue c
    if 1 < left then return ⟨stack, .string isKey chars (.digits high (left - 1) (16 * value + d))⟩
    let (char, inside) ← endEscape skip high (16 * value + d)
    return ⟨stack, .string isKey (char.toList ++ chars) inside⟩
  | .pair high, c =>
    if c = '\\' then some ⟨stack, .string isKey chars (.escape (some high))⟩ else none

def endWord (known : String → Bool) (stack : List Frame) (letters : List Char) : Option Reader :=
  (wordValue (skipping known stack) letters.reverse).bind fun v => deliver v stack

def between (known : String → Bool) (stack : List Frame) : Mode → Char → Option Reader
  | .value, c => begin known stack c
  | .firstItem, c => if c = ']' then close stack c else begin known stack c
  | .firstKey, c =>
    if c = '}' then close stack c
    else if c = '"' then some ⟨stack, .string true [] .plain⟩ else none
  | .key, c => if c = '"' then some ⟨stack, .string true [] .plain⟩ else none
  | .colon, c => if c = ':' then some ⟨stack, .value⟩ else none
  | .next, c => afterValue stack c
  | _, _ => none

def step (known : String → Bool) (r : Reader) (c : Char) : Option Reader :=
  match r.mode with
  | .string isKey chars inside =>
    inString (skipping known r.stack) isKey chars r.stack inside c
  | .word letters =>
    if isWordChar c then some ⟨r.stack, .word (c :: letters)⟩
    else do
      let r ← endWord known r.stack letters
      if isSpace c then return r
      between known r.stack r.mode c
  | mode => if isSpace c then some r else between known r.stack mode c

def finish (known : String → Bool) (r : Reader) : Option Json :=
  match r.mode with
  | .done v => some v
  | .word letters =>
    match endWord known r.stack letters with
    | some ⟨_, .done v⟩ => some v
    | _ => none
  | _ => none

def accepted (known : String → Bool) : Reader → List Char → List Char
  | _, [] => []
  | r, c :: s =>
    match r.step known c with
    | some r => c :: accepted known r s
    | none => []

end Reader

def ofChars? (known : String → Bool) (s : List Char) : Option Json :=
  (s.foldlM (Reader.step known) {}).bind (Reader.finish known)

structure Malformed where
  line : Nat
  column : Nat
  deriving Repr, DecidableEq

def Malformed.after (s : List Char) : Malformed :=
  ⟨s.count '\n' + 1, (s.reverse.takeWhile (· != '\n')).length⟩

def readKnown (known : String → Bool) (s : String) : Except Malformed Json :=
  match ofChars? known s.toList with
  | some v => .ok v
  | none => .error (.after (Reader.accepted known {} s.toList))

def read (s : String) : Except Malformed Json := readKnown (fun _ => true) s

end TagTemplate.Json
