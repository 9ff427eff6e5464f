import TagTemplate.Pattern.Tree
import TagTemplate.Unicode.Property
import TagTemplate.Text.Blank

/-!
Reading the trees of patterns. The language has groups, alternatives, counted repetition, character
classes with set operations, shorthand, named and property classes, assertions and inline flags. It
has neither look-around nor back-references.

Every reader consumes at least one character or fails, so the length of the text bounds all rounds.
-/

namespace TagTemplate.Pattern.Reader

open Unicode

def skipBlanks (on : Bool) (s : List Char) : List Char :=
  if on && s.head?.any (fun c => Text.isBlank c || c == '#') then skip s.length s else s
where
  skip : Nat → List Char → List Char
    | 0, s => s
    | n + 1, s =>
      match s with
      | c :: r =>
        if Text.isBlank c then skip n r
        else if c = '#' then skip n (r.dropWhile (· != '\n'))
        else s
      | [] => []

def charsWhile (x : Bool) (test : Char → Bool) : Nat → List Char → List Char × List Char
  | 0, s => ([], s)
  | n + 1, s =>
    match s with
    | c :: r =>
      if test c then
        let (cs, rest) := charsWhile x test n (skipBlanks x r)
        (c :: cs, rest)
      else ([], c :: r)
    | [] => ([], [])

def braced (x : Bool) (s : List Char) : Option (List Char × List Char) :=
  match charsWhile x (· != '\x7d') s.length (skipBlanks x s) with
  | (cs, '\x7d' :: rest) => some (cs, rest)
  | _ => none

inductive Escape where
  | literal (l : Literal)
  | set (c : ClassTree)
  | assertion (a : Assertion)

def hexValue? (c : Char) : Option Nat :=
  if c.isDigit then some (c.toNat - 48)
  else if 'a' ≤ c ∧ c ≤ 'f' then some (c.toNat - 87)
  else if 'A' ≤ c ∧ c ≤ 'F' then some (c.toNat - 55)
  else none

def hexChar? (digits : List Char) : Option Char := do
  let n ← digits.foldlM (fun n c => (hexValue? c).map (16 * n + ·)) 0
  if digits.isEmpty then none
  else if h : n.isValidChar then some (Char.ofNatAux n h)
  else none

def digits (x : Bool) : Nat → List Char → Option (List Char × List Char)
  | 0, s => some ([], s)
  | n + 1, c :: s => (digits x n (skipBlanks x s)).map fun (cs, rest) => (c :: cs, rest)
  | _ + 1, [] => none

def hexEscape (x : Bool) (count : Nat) (s : List Char) : Option (Escape × List Char) :=
  match skipBlanks x s with
  | '\x7b' :: r => do
    let (ds, rest) ← braced x r
    return (.literal { char := ← hexChar? ds }, rest)
  | r => do
    let (ds, rest) ← digits x count r
    return (.literal { char := ← hexChar? ds, asByte := count == 2 }, rest)

def splitAt? (sep : List Char) : List Char → Option (String × String)
  | [] => none
  | c :: r =>
    if sep.isPrefixOf (c :: r) then some ("", String.ofList ((c :: r).drop sep.length))
    else (splitAt? sep r).map fun (a, b) => (String.ofList (c :: a.toList), b)

def propertyTree (negated : Bool) (name : List Char) : ClassTree :=
  match splitAt? ['!', '='] name with
  | some (p, v) => .property (!negated) (.value p v)
  | none =>
    match splitAt? [':'] name with
    | some (p, v) => .property negated (.value p v)
    | none =>
      match splitAt? ['='] name with
      | some (p, v) => .property negated (.value p v)
      | none => .property negated (.name (String.ofList name))

def propertyEscape (x negated : Bool) (s : List Char) : Option (Escape × List Char) :=
  match skipBlanks x s with
  | '\x7b' :: r => (braced x r).map fun (name, rest) => (.set (propertyTree negated name), rest)
  | '\\' :: _ => none
  | c :: r => some (.set (.property negated (.name (String.singleton c))), r)
  | [] => none

def boundary? (name : List Char) : Option Assertion :=
  [("start", Assertion.wordStart), ("end", .wordEnd), ("start-half", .wordStartHalf),
    ("end-half", .wordEndHalf)].lookup (String.ofList name)

def isBoundaryChar (c : Char) : Bool := c.isAlpha || c == '-'

/-- After `\b`: a boundary by its name in braces, unless the brace begins a repetition. -/
def wordBoundary (x : Bool) (s : List Char) : Option (Escape × List Char) :=
  match s with
  | '\x7b' :: r =>
    match charsWhile x isBoundaryChar r.length (skipBlanks x r) with
    | ([], _ :: _) => some (.assertion .wordBoundary, s)
    | (name, '\x7d' :: rest) => (boundary? name).map fun a => (.assertion a, rest)
    | _ => none
  | _ => some (.assertion .wordBoundary, s)

def isEscapable (c : Char) : Bool := c.toNat < 128 && !c.isAlphanum && c != '<' && c != '>'

def letterEscape? : Char → Option Escape
  | 'd' => some (.set (.shorthand false .digit))
  | 'D' => some (.set (.shorthand true .digit))
  | 's' => some (.set (.shorthand false .space))
  | 'S' => some (.set (.shorthand true .space))
  | 'w' => some (.set (.shorthand false .word))
  | 'W' => some (.set (.shorthand true .word))
  | 'a' => some (.literal { char := '\x07' })
  | 'f' => some (.literal { char := '\x0c' })
  | 't' => some (.literal { char := '\t' })
  | 'n' => some (.literal { char := '\n' })
  | 'r' => some (.literal { char := '\r' })
  | 'v' => some (.literal { char := '\x0b' })
  | 'A' => some (.assertion .textStart)
  | 'z' => some (.assertion .textEnd)
  | 'B' => some (.assertion .notWordBoundary)
  | '<' => some (.assertion .wordStart)
  | '>' => some (.assertion .wordEnd)
  | _ => none

def escape (x : Bool) : List Char → Option (Escape × List Char)
  | [] => none
  | 'x' :: r => hexEscape x 2 r
  | 'u' :: r => hexEscape x 4 r
  | 'U' :: r => hexEscape x 8 r
  | 'p' :: r => propertyEscape x false r
  | 'P' :: r => propertyEscape x true r
  | 'b' :: r => wordBoundary x r
  | c :: r =>
    if isEscapable c then some (.literal { char := c }, r)
    else (letterEscape? c).map fun e => (e, r)

def asciiClass? (name : String) : Option CodeSet :=
  ([("alnum", "30-39 41-5A 61-7A"), ("alpha", "41-5A 61-7A"), ("ascii", "0-7F"),
    ("blank", "9 20"), ("cntrl", "0-1F 7F"), ("digit", "30-39"), ("graph", "21-7E"),
    ("lower", "61-7A"), ("print", "20-7E"), ("punct", "21-2F 3A-40 5B-60 7B-7E"),
    ("space", "9-D 20"), ("upper", "41-5A"), ("word", "30-39 41-5A 5F 61-7A"),
    ("xdigit", "30-39 41-46 61-66")].lookup name).map fun items => .ofTable [items]

def asciiClass (s : List Char) : Option (ClassTree × List Char) :=
  match s with
  | ':' :: '^' :: r => rest true r
  | ':' :: r => rest false r
  | _ => none
where
  rest (negated : Bool) (r : List Char) : Option (ClassTree × List Char) :=
    match r.dropWhile (· != ':') with
    | ':' :: ']' :: after =>
      (asciiClass? (String.ofList (r.takeWhile (· != ':')))).map fun chars =>
        (.named negated chars, after)
    | _ => none

/-- A class that has not been closed: the operand before a pending operator, and the items since,
which are reversed. -/
structure OpenClass where
  negated : Bool
  pending : Option (SetOp × ClassTree) := none
  items : List ClassTree := []

namespace OpenClass

def operand (k : OpenClass) : ClassTree :=
  let right := ClassTree.ofItems k.items.reverse
  match k.pending with
  | some (op, left) => .op op left right
  | none => right

def close (k : OpenClass) : ClassTree := .bracketed k.negated k.operand

def add (k : OpenClass) (c : ClassTree) : OpenClass := { k with items := c :: k.items }

def operator (k : OpenClass) (op : SetOp) : OpenClass :=
  { negated := k.negated, pending := some (op, k.operand) }

/-- Begin a class after its bracket. A caret negates it, then hyphens and a first closing bracket
stand for themselves. -/
def start (x : Bool) (s : List Char) : Option (OpenClass × List Char) :=
  let s := skipBlanks x s
  let (negated, s) := match s with
    | '^' :: r => (true, skipBlanks x r)
    | s => (false, s)
  let (hyphens, s) := if s.head? = some '-' then charsWhile x (· == '-') s.length s else ([], s)
  let items := hyphens.map fun c => ClassTree.literal { char := c }
  match items, s with
  | _, [] => none
  | [], ']' :: r => some ({ negated, items := [.literal { char := ']' }] }, r)
  | _, s => some ({ negated, items }, s)

end OpenClass

inductive ClassItem where
  | literal (l : Literal)
  | set (c : ClassTree)

def ClassItem.tree : ClassItem → ClassTree
  | .literal l => .literal l
  | .set c => c

def classItem (x : Bool) : List Char → Option (ClassItem × List Char)
  | [] => none
  | '\\' :: r =>
    match escape x r with
    | some (.literal l, rest) => some (.literal l, rest)
    | some (.set c, rest) => some (.set c, rest)
    | _ => none
  | c :: r => some (.literal { char := c }, r)

/-- The next character behind blanks. Of a comment it sees the text, and behind blanks to the end it
sees the first of them. -/
def peek (x : Bool) (s : List Char) : Option Char :=
  if !x then s.head?
  else
    let next := match s.dropWhile Text.isBlank with
      | '#' :: r => (r.dropWhile Text.isBlank).head?
      | r => r.head?
    next <|> s.head?

def classRange (x : Bool) (s : List Char) : Option (ClassTree × List Char) := do
  let (first, rest) ← classItem x s
  match skipBlanks x rest with
  | [] => none
  | '-' :: r =>
    if peek x r = some ']' ∨ peek x r = some '-' then return (first.tree, '-' :: r)
    else
      let (second, rest) ← classItem x (skipBlanks x r)
      match first, second with
      | .literal a, .literal b =>
        if a.char.toNat ≤ b.char.toNat then return (.range a b, rest) else none
      | _, _ => none
  | rest => return (first.tree, rest)

def classLoop (x : Bool) : Nat → OpenClass → List OpenClass → List Char →
    Option (ClassTree × List Char)
  | 0, _, _, _ => none
  | n + 1, k, outer, s =>
    match skipBlanks x s with
    | [] => none
    | '[' :: r =>
      match asciiClass r with
      | some (c, rest) => classLoop x n (k.add c) outer rest
      | none => do
        let (inner, rest) ← OpenClass.start x r
        classLoop x n inner (k :: outer) rest
    | ']' :: r =>
      match outer with
      | [] => some (k.close, r)
      | parent :: outer => classLoop x n (parent.add k.close) outer r
    | '&' :: '&' :: r => classLoop x n (k.operator .inter) outer r
    | '-' :: '-' :: r => classLoop x n (k.operator .diff) outer r
    | '~' :: '~' :: r => classLoop x n (k.operator .symmDiff) outer r
    | s => do
      let (c, rest) ← classRange x s
      classLoop x n (k.add c) outer rest

def bracketed (x : Bool) (s : List Char) : Option (Tree × List Char) := do
  let (k, rest) ← OpenClass.start x s
  let (c, rest) ← classLoop x (s.length + 1) k [] rest
  return (.set c, rest)

structure OpenGroup where
  kind : GroupKind
  blanksAfter : Bool
  alternatives : List Tree := []
  items : List Tree := []

namespace OpenGroup

def current (g : OpenGroup) : Tree := Tree.ofItems g.items.reverse

def content (g : OpenGroup) : Tree := Tree.ofAlternatives (g.current :: g.alternatives).reverse

def tree (g : OpenGroup) : Tree := .group g.kind g.content

end OpenGroup

/-- Where a pattern is being read: whether blanks are skipped, the innermost group and those around
it, the number of groups that capture, and the names among them. -/
structure State where
  blanks : Bool := false
  group : OpenGroup := { kind := .plain [], blanksAfter := false }
  outer : List OpenGroup := []
  captures : Nat := 0
  names : List String := []

namespace State

def add (st : State) (t : Tree) : State :=
  { st with group := { st.group with items := t :: st.group.items } }

def push (st : State) (kind : GroupKind) (blanks : Bool) : State :=
  { st with blanks, group := { kind, blanksAfter := st.blanks }, outer := st.group :: st.outer }

def capture (st : State) : State :=
  { st with captures := st.captures + 1 }.push (.capture st.captures) st.blanks

def pop? (st : State) : Option State :=
  match st.outer with
  | [] => none
  | parent :: outer =>
    some ({ st with blanks := st.group.blanksAfter, group := parent, outer }.add st.group.tree)

def alternative (st : State) : State :=
  let g := st.group
  { st with group := { g with alternatives := g.current :: g.alternatives, items := [] } }

def repeatLast? (st : State) (min : Nat) (max : Option Nat) (greedy : Bool) : Option State :=
  match st.group.items with
  | [] | .empty :: _ | .flags _ :: _ => none
  | t :: items =>
    some { st with group := { st.group with items := .times t min max greedy :: items } }

end State

def flag? : Char → Option Flag
  | 'i' => some .foldCase
  | 'm' => some .multiLine
  | 's' => some .dotAll
  | 'U' => some .swapGreed
  | 'u' => some .unicode
  | 'R' => some .crlf
  | 'x' => some .blanks
  | _ => none

/-- Inline flags up to a colon or parenthesis. No flag is given twice, one hyphen at most begins the
flags to clear, and it is not the last character. -/
def readFlags (seen : List Char) (change : FlagChange) :
    List Char → Option (FlagChange × Char × List Char)
  | [] => none
  | c :: r =>
    if c = ':' ∨ c = ')' then
      if seen.head? = some '-' then none else some (change.reverse, c, r)
    else if seen.contains c then none
    else if c = '-' then readFlags (c :: seen) change r
    else do
      let flag ← flag? c
      readFlags (c :: seen) ((flag, !seen.contains '-') :: change) r

def isNameStart (c : Char) : Bool := c == '_' || Property.alphabetic.has c

def isNamePart (c : Char) : Bool :=
  isNameStart c || Category.number.has c || c == '.' || c == '[' || c == ']'

def groupName (s : List Char) : Option (String × List Char) :=
  let name := s.takeWhile (· != '>')
  match name, s.dropWhile (· != '>') with
  | c :: cs, _ :: rest =>
    if isNameStart c && cs.all isNamePart then some (String.ofList name, rest) else none
  | _, _ => none

def namedGroup (st : State) (s : List Char) : Option (State × List Char) := do
  let (name, rest) ← groupName s
  if st.names.contains name then none
  else return ({ st with names := name :: st.names }.capture, rest)

def flagGroup (st : State) (s : List Char) : Option (State × List Char) := do
  let (change, last, rest) ← readFlags [] [] s
  let blanks := (change.lookup .blanks).getD st.blanks
  if last = ':' then return (st.push (.plain change) blanks, rest)
  else if s.head? = some ')' then none
  else return ({ st with blanks }.add (.flags change), rest)

def openGroup (st : State) (s : List Char) : Option (State × List Char) :=
  match skipBlanks st.blanks s with
  | '?' :: '=' :: _ | '?' :: '!' :: _ | '?' :: '<' :: '=' :: _ | '?' :: '<' :: '!' :: _ => none
  | '?' :: 'P' :: '<' :: r => namedGroup st r
  | '?' :: '<' :: r => namedGroup st r
  | '?' :: r => flagGroup st r
  | r => some (st.capture, r)

def readGreedy : List Char → Bool × List Char
  | '?' :: r => (false, r)
  | s => (true, s)

def repetition (st : State) (min : Nat) (max : Option Nat) (s : List Char) :
    Option (State × List Char) :=
  let (greedy, rest) := readGreedy s
  (st.repeatLast? min max greedy).map fun st => (st, rest)

def count (x : Bool) (s : List Char) : Option (Nat × List Char) :=
  let s := s.dropWhile Text.isBlank
  let (ds, rest) := charsWhile x Char.isDigit s.length s
  let n := ds.foldl (fun n c => 10 * n + (c.toNat - 48)) 0
  if !ds.isEmpty && n < UInt32.size then some (n, rest.dropWhile Text.isBlank) else none

def counted (st : State) (s : List Char) : Option (State × List Char) := do
  let x := st.blanks
  let (min, rest) ← count x (skipBlanks x s)
  match rest with
  | '\x7d' :: r => repetition st min (some min) (skipBlanks x r)
  | ',' :: r =>
    match skipBlanks x r with
    | '\x7d' :: r => repetition st min none (skipBlanks x r)
    | r => do
      let (max, rest) ← count x r
      match rest with
      | '\x7d' :: r => if min ≤ max then repetition st min (some max) (skipBlanks x r) else none
      | _ => none
  | _ => none

def Escape.tree : Escape → Tree
  | .literal l => .literal l
  | .set c => .set c
  | .assertion a => .assertion a

def step (st : State) (c : Char) (r : List Char) : Option (State × List Char) :=
  match c with
  | '(' => openGroup st r
  | ')' => st.pop?.map fun st => (st, r)
  | '|' => some (st.alternative, r)
  | '[' => (bracketed st.blanks r).map fun (t, rest) => (st.add t, rest)
  | '?' => repetition st 0 (some 1) r
  | '*' => repetition st 0 none r
  | '+' => repetition st 1 none r
  | '\x7b' => counted st r
  | '\\' => (escape st.blanks r).map fun (e, rest) => (st.add e.tree, rest)
  | '.' => some (st.add .dot, r)
  | '^' => some (st.add (.assertion .lineStart), r)
  | '$' => some (st.add (.assertion .lineEnd), r)
  | c => some (st.add (.literal { char := c }), r)

def loop : Nat → State → List Char → Option Tree
  | 0, _, _ => none
  | n + 1, st, s =>
    match skipBlanks st.blanks s with
    | [] => if st.outer.isEmpty then some st.group.content else none
    | c :: r => (step st c r).bind fun (st, rest) => loop n st rest

end Reader

def Tree.ofString? (s : String) : Option Tree :=
  Reader.loop (s.toList.length + 1) {} s.toList

end TagTemplate.Pattern
