import TagTemplate.Unicode.Property

namespace TagTemplate.Text

open Unicode

/-- Controls, format characters, blanks other than the space, private and unassigned code points,
fillers, and marks that extend the character before them. -/
def invisible : CodeSet :=
  (CodeSet.unions [Category.other, Category.separator, Property.defaultIgnorable,
    Property.graphemeExtend.inter Category.mark]).diff (.single 0x20)

def hexDigits (n : Nat) : List Char := Nat.toDigits 16 n

def showChar (c : Char) : List Char :=
  match c with
  | '"' => ['\\', '"']
  | '\\' => ['\\', '\\']
  | '\n' => ['\\', 'n']
  | '\r' => ['\\', 'r']
  | '\t' => ['\\', 't']
  | '\x00' => ['\\', '0']
  | c => if invisible.has c then "\\u\x7b".toList ++ hexDigits c.toNat ++ ['\x7d'] else [c]

def shown (s : String) : String :=
  String.ofList ('"' :: s.toList.flatMap showChar ++ ['"'])

end TagTemplate.Text
