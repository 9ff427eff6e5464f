/-!
Text inside a block comment. A comment ends at the first star followed by a slash, so a blank is put
between the two wherever they meet.
-/

namespace TagTemplate.Text

def protectChars : List Char → List Char
  | [] => []
  | '*' :: '/' :: r => '*' :: ' ' :: '/' :: protectChars r
  | c :: r => c :: protectChars r

def protect (s : String) : String := String.ofList (protectChars s.toList)

end TagTemplate.Text
