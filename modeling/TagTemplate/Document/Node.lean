namespace TagTemplate

/-- A line number, zero when it is not known. -/
abbrev Line := UInt64

mutual

inductive Expr where
  | code (text : String)
  | special (name : String) (member : Option String)
  | call (function : String) (args : List Expr)
  | static (className member : String)
  | modified (value : Expr) (modifiers : List Modifier)

structure Modifier where
  name : String
  args : List Expr

end

instance : Inhabited Expr := ⟨.code ""⟩

mutual

def Expr.decEq : (a b : Expr) → Decidable (a = b)
  | .code a, .code b => decidable_of_iff (a = b) (by simp)
  | .special a m, .special b n => decidable_of_iff (a = b ∧ m = n) (by simp)
  | .call f xs, .call g ys =>
    have := Expr.decEqList xs ys
    decidable_of_iff (f = g ∧ xs = ys) (by simp)
  | .static c m, .static d n => decidable_of_iff (c = d ∧ m = n) (by simp)
  | .modified v ms, .modified w ns =>
    have := Expr.decEq v w
    have := Modifier.decEqList ms ns
    decidable_of_iff (v = w ∧ ms = ns) (by simp)
  | .code _, .special .. | .code _, .call .. | .code _, .static .. | .code _, .modified ..
  | .special .., .code _ | .special .., .call .. | .special .., .static ..
  | .special .., .modified .. | .call .., .code _ | .call .., .special .. | .call .., .static ..
  | .call .., .modified .. | .static .., .code _ | .static .., .special .. | .static .., .call ..
  | .static .., .modified .. | .modified .., .code _ | .modified .., .special ..
  | .modified .., .call .. | .modified .., .static .. => isFalse nofun
termination_by structural a => a

def Expr.decEqList : (xs ys : List Expr) → Decidable (xs = ys)
  | [], [] => isTrue rfl
  | x :: xs, y :: ys =>
    have := Expr.decEq x y
    have := Expr.decEqList xs ys
    decidable_of_iff (x = y ∧ xs = ys) (by simp)
  | [], _ :: _ | _ :: _, [] => isFalse nofun
termination_by structural xs => xs

def Modifier.decEq : (a b : Modifier) → Decidable (a = b)
  | ⟨f, xs⟩, ⟨g, ys⟩ =>
    have := Expr.decEqList xs ys
    decidable_of_iff (f = g ∧ xs = ys) (by simp)
termination_by structural a => a

def Modifier.decEqList : (xs ys : List Modifier) → Decidable (xs = ys)
  | [], [] => isTrue rfl
  | x :: xs, y :: ys =>
    have := Modifier.decEq x y
    have := Modifier.decEqList xs ys
    decidable_of_iff (x = y ∧ xs = ys) (by simp)
  | [], _ :: _ | _ :: _, [] => isFalse nofun
termination_by structural xs => xs

end

instance : DecidableEq Expr := Expr.decEq

instance : DecidableEq Modifier := Modifier.decEq

structure Assignment where
  var : String
  value : Expr
  deriving DecidableEq

inductive ArgValue where
  | assign (assignment : Assignment)
  | assigns (assignments : List Assignment)
  | flag (value : Bool)
  | expr (value : Expr)
  deriving DecidableEq

inductive TagArg where
  | named (name : String) (value : ArgValue)
  | flag (name : String)
  | positional (value : ArgValue)
  deriving DecidableEq

structure Tag where
  name : String
  args : List TagArg := []
  variant : UInt8 := 0
  line : Line := 0
  deriving DecidableEq

inductive Node where
  | text (content : String)
  | print (value : Expr) (line : Line)
  | tag (tag : Tag)
  deriving DecidableEq

end TagTemplate
