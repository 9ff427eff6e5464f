import TagTemplate.Decimal.Integer
import TagTemplate.Proofs.Text.Literal

/-!
How the host reads quoted literals. A literal ends at the first quote of its kind that no backslash
escapes, and its value is what stands before that quote with the escapes resolved. Code with
variables between double quotes is no literal and has no value here.
-/

namespace TagTemplate.Host

def splitBody (q : Char) : List Char → Option (List Char × List Char)
  | [] => none
  | '\\' :: c :: r => (splitBody q r).map fun (body, rest) => ('\\' :: c :: body, rest)
  | c :: r =>
    if c = q then some ([], r) else (splitBody q r).map fun (body, rest) => (c :: body, rest)

/-- Between single quotes a backslash escapes a backslash or a single quote. Any other backslash
stands for itself. -/
def singleValue : List Char → List Char
  | [] => []
  | '\\' :: '\\' :: r => '\\' :: singleValue r
  | '\\' :: '\'' :: r => '\'' :: singleValue r
  | c :: r => c :: singleValue r

def isOctalDigit (c : Char) : Bool := '0' ≤ c && c ≤ '7'

def isHexDigit (c : Char) : Bool :=
  Decimal.isDigit c || ('a' ≤ c && c ≤ 'f') || ('A' ≤ c && c ≤ 'F')

def digitValue (c : Char) : Nat :=
  if Decimal.isDigit c then Decimal.digitValue c
  else if 'a' ≤ c then c.toNat - 'a'.toNat + 10
  else c.toNat - 'A'.toNat + 10

def ofDigits (base : Nat) (s : List Char) : Nat :=
  s.foldl (fun n c => base * n + digitValue c) 0

def namedEscapes : List (Char × Nat) :=
  [('\\', 0x5C), ('"', 0x22), ('n', 0x0A), ('t', 0x09), ('r', 0x0D), ('v', 0x0B), ('e', 0x1B),
    ('f', 0x0C)]

def numbered (base before : Nat) (digits : List Char) : Option (Nat × Nat) :=
  if digits.isEmpty then none else some (ofDigits base digits % 256, digits.length + before)

/-- The byte that a backslash before the characters stands for, and how many of them belong to the
escape; `none` where the backslash stands for itself. -/
def escape? : List Char → Option (Nat × Nat)
  | [] => none
  | c :: r =>
    match namedEscapes.lookup c with
    | some byte => some (byte, 1)
    | none =>
      if c = 'x' then numbered 16 1 ((r.take 2).takeWhile isHexDigit)
      else numbered 8 0 (((c :: r).take 3).takeWhile isOctalDigit)

/-- The value of a body between double quotes, of which the first characters belong to the escape
before them. There is none where an escape stands for a byte that is no ASCII character. -/
def doubleValue? : Nat → List Char → Option (List Char)
  | _, [] => some []
  | n + 1, _ :: r => doubleValue? n r
  | 0, '\\' :: r =>
    match escape? r with
    | some (byte, size) =>
      if byte < 128 then (doubleValue? size r).map (Char.ofNat byte :: ·) else none
    | none => (doubleValue? 0 r).map ('\\' :: ·)
  | 0, c :: r => (doubleValue? 0 r).map (c :: ·)

def value? (q : Char) (body : List Char) : Option (List Char) :=
  if q = '"' then doubleValue? 0 body else some (singleValue body)

def readLiteral : List Char → Option (List Char × List Char)
  | [] => none
  | q :: r =>
    if Text.isQuote q then
      (splitBody q r).bind fun (body, rest) => (value? q body).map fun v => (v, rest)
    else none

def firstLiteral (code : List Char) : Option (List Char × List Char) :=
  readLiteral (code.dropWhile (· ≠ '\''))

open Text

variable {q c : Char} {s body code : List Char}

theorem singleValue_cons (hc : c ≠ '\\') (s : List Char) :
    singleValue (c :: s) = c :: singleValue s := by
  rw [singleValue]
  · intro _ heq
    exact absurd heq hc
  · intro _ heq
    exact absurd heq hc

theorem splitBody_append (hq : q ≠ '\\') (h : LiteralBody q body) (rest : List Char) :
    splitBody q (body ++ q :: rest) = some (body, rest) := by
  induction h with
  | nil =>
    rw [List.nil_append, splitBody, if_pos rfl]
    intro _ _ heq
    exact absurd heq hq
  | plain hc hb _ ih =>
    rw [List.cons_append, splitBody, if_neg hc, ih]
    · rfl
    · intro _ _ heq
      exact absurd heq hb
  | escaped _ ih =>
    rw [List.cons_append, List.cons_append, splitBody, ih]
    rfl

theorem readLiteral_append (hq : q = '\'' ∨ q = '"') (h : LiteralBody q body) (rest : List Char) :
    readLiteral (q :: body ++ q :: rest) = (value? q body).map fun v => (v, rest) := by
  rw [List.cons_append, readLiteral, if_pos (isQuote_eq_true.2 hq),
    splitBody_append (ne_backslash_of_quote hq) h, Option.bind_some]

theorem readLiteral_of_literalWith (h : LiteralWith q body code) :
    readLiteral code = (value? q body).map fun v => (v, []) := by
  rw [h.whole, readLiteral_append h.quote h.inside]

end TagTemplate.Host
