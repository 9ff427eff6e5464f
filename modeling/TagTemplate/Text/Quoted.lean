import TagTemplate.Text.Blank

namespace TagTemplate.Text

def escapeChars : List Char → List Char
  | [] => []
  | c :: r => if c = '\\' ∨ c = '\'' then '\\' :: c :: escapeChars r else c :: escapeChars r

def quoteChars (s : List Char) : List Char := '\'' :: escapeChars s ++ ['\'']

def quote (s : String) : String := String.ofList (quoteChars s.toList)

theorem toList_quote (s : String) : (quote s).toList = quoteChars s.toList := String.toList_ofList

/-- Count the occurrences of `q` that no backslash escapes. A backslash escapes the one character
after it. -/
def countUnescaped (q : Char) : List Char → Nat
  | [] => 0
  | '\\' :: _ :: r => countUnescaped q r
  | c :: r => (if c = q then 1 else 0) + countUnescaped q r

/-- Trimmed code counts as a literal when it starts and ends with one kind of quote, holds exactly
two of them unescaped, and holds nothing that is evaluated at run time: no call parenthesis, no
variable, and between double quotes no brace. -/
def isLiteralChars (code : List Char) : Bool :=
  match code with
  | [] => false
  | q :: _ =>
    isQuote q && code.getLast? == some q && countUnescaped q code == 2 &&
      !code.contains '(' && !code.contains '$' && !(q == '"' && code.contains '\x7b')

def isLiteral (code : String) : Bool := isLiteralChars (trimChars code.toList)

/-- Resolve the escapes of a literal's body. Both kinds of literal know the backslash and their own
quote; double quotes also know line feed, tab and carriage return. -/
def unescapeChars (q : Char) : List Char → List Char
  | [] => []
  | '\\' :: [] => ['\\']
  | '\\' :: c :: r =>
    if c = '\\' ∨ c = q then c :: unescapeChars q r
    else if q = '"' ∧ c = 'n' then '\n' :: unescapeChars q r
    else if q = '"' ∧ c = 't' then '\t' :: unescapeChars q r
    else if q = '"' ∧ c = 'r' then '\r' :: unescapeChars q r
    else '\\' :: c :: unescapeChars q r
  | c :: r => c :: unescapeChars q r

def unquoteChars (code : List Char) : Option (List Char) :=
  if isLiteralChars code then code.head?.map fun q => unescapeChars q (code.drop 1).dropLast
  else none

def unquote (code : String) : Option String :=
  (unquoteChars (trimChars code.toList)).map String.ofList

end TagTemplate.Text
