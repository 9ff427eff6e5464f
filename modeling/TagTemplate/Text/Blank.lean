namespace TagTemplate.Text

/-- The Unicode property `White_Space`. -/
def isBlank (c : Char) : Bool :=
  let n := c.toNat
  (9 ≤ n && n ≤ 13) || n == 0x20 || n == 0x85 || n == 0xA0 || n == 0x1680 ||
    (0x2000 ≤ n && n ≤ 0x200A) || n == 0x2028 || n == 0x2029 || n == 0x202F || n == 0x205F ||
    n == 0x3000

def stripChars (p : Char → Bool) (s : List Char) : List Char :=
  ((s.dropWhile p).reverse.dropWhile p).reverse

def strip (p : Char → Bool) (s : String) : String := String.ofList (stripChars p s.toList)

def trimChars (s : List Char) : List Char := stripChars isBlank s

def trim (s : String) : String := String.ofList (trimChars s.toList)

def isQuote (c : Char) : Bool := c == '\'' || c == '"'

/-- Drop every quote character from both ends, paired or not. -/
def stripQuotes (s : String) : String := strip isQuote s

def asciiLower (s : String) : String := String.ofList (s.toList.map Char.toLower)

def asciiUpper (s : String) : String := String.ofList (s.toList.map Char.toUpper)

theorem toList_strip (p : Char → Bool) (s : String) :
    (strip p s).toList = stripChars p s.toList := String.toList_ofList

def splitFirstChars (sep : Char) : List Char → Option (List Char × List Char)
  | [] => none
  | c :: r =>
    if c = sep then some ([], r) else (splitFirstChars sep r).map fun (a, b) => (c :: a, b)

def splitFirst (sep : Char) (s : String) : Option (String × String) :=
  (splitFirstChars sep s.toList).map fun (a, b) => (String.ofList a, String.ofList b)

/-- The pieces between the separators, one more than there are separators. -/
def splitChars (sep : Char) : List Char → List (List Char)
  | [] => [[]]
  | c :: r =>
    if c = sep then [] :: splitChars sep r
    else match splitChars sep r with
      | [] => [[c]]
      | piece :: pieces => (c :: piece) :: pieces

def dropStart? (start s : String) : Option String :=
  if start.toList.isPrefixOf s.toList then
    some (String.ofList (s.toList.drop start.toList.length))
  else none

end TagTemplate.Text
