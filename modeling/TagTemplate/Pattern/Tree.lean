import TagTemplate.Unicode.CodeSet

namespace TagTemplate.Pattern

inductive Flag where
  | foldCase
  | multiLine
  | dotAll
  | swapGreed
  | unicode
  | crlf
  | blanks
  deriving Repr, DecidableEq

structure Flags where
  foldCase : Bool := false
  multiLine : Bool := false
  dotAll : Bool := false
  swapGreed : Bool := false
  unicode : Bool := true
  crlf : Bool := false
  blanks : Bool := false
  deriving Repr, DecidableEq

def Flags.set (f : Flags) (on : Bool) : Flag → Flags
  | .foldCase => { f with foldCase := on }
  | .multiLine => { f with multiLine := on }
  | .dotAll => { f with dotAll := on }
  | .swapGreed => { f with swapGreed := on }
  | .unicode => { f with unicode := on }
  | .crlf => { f with crlf := on }
  | .blanks => { f with blanks := on }

abbrev FlagChange := List (Flag × Bool)

def FlagChange.apply (change : FlagChange) (f : Flags) : Flags :=
  change.foldl (fun f (flag, on) => f.set on flag) f

structure Literal where
  char : Char
  asByte : Bool := false
  deriving Repr, DecidableEq

inductive Shorthand where
  | digit
  | space
  | word
  deriving Repr, DecidableEq

inductive Query where
  | name (name : String)
  | value (property value : String)
  deriving Repr, DecidableEq

inductive SetOp where
  | inter
  | diff
  | symmDiff
  deriving Repr, DecidableEq

inductive ClassTree where
  | empty
  | literal (l : Literal)
  | range (low high : Literal)
  | named (negated : Bool) (chars : Unicode.CodeSet)
  | shorthand (negated : Bool) (kind : Shorthand)
  | property (negated : Bool) (query : Query)
  | bracketed (negated : Bool) (body : ClassTree)
  | union (items : List ClassTree)
  | op (kind : SetOp) (left right : ClassTree)

inductive Assertion where
  | lineStart
  | lineEnd
  | textStart
  | textEnd
  | wordBoundary
  | notWordBoundary
  | wordStart
  | wordEnd
  | wordStartHalf
  | wordEndHalf
  deriving Repr, DecidableEq

inductive GroupKind where
  | plain (change : FlagChange)
  | capture (index : Nat)
  deriving Repr, DecidableEq

inductive Tree where
  | empty
  | flags (change : FlagChange)
  | literal (l : Literal)
  | dot
  | assertion (a : Assertion)
  | set (c : ClassTree)
  | times (t : Tree) (min : Nat) (max : Option Nat) (greedy : Bool)
  | group (kind : GroupKind) (t : Tree)
  | alt (ts : List Tree)
  | seq (ts : List Tree)

mutual

def ClassTree.depth : ClassTree → Nat
  | .bracketed _ body => body.depth + 1
  | .union items => ClassTree.depths items + 1
  | .op _ left right => Nat.max left.depth right.depth + 1
  | _ => 0

def ClassTree.depths : List ClassTree → Nat
  | [] => 0
  | c :: cs => Nat.max c.depth (ClassTree.depths cs)

end

mutual

def Tree.depth : Tree → Nat
  | .set c => c.depth
  | .times t _ _ _ => t.depth + 1
  | .group _ t => t.depth + 1
  | .alt ts => Tree.depths ts + 1
  | .seq ts => Tree.depths ts + 1
  | _ => 0

def Tree.depths : List Tree → Nat
  | [] => 0
  | t :: ts => Nat.max t.depth (Tree.depths ts)

end

def depthLimit : Nat := 250

def ClassTree.ofItems : List ClassTree → ClassTree
  | [] => .empty
  | [c] => c
  | cs => .union cs

def Tree.ofItems : List Tree → Tree
  | [] => .empty
  | [t] => t
  | ts => .seq ts

def Tree.ofAlternatives : List Tree → Tree
  | [] => .empty
  | [t] => t
  | ts => .alt ts

end TagTemplate.Pattern
