import TagTemplate.Uri.Domain.Label

namespace TagTemplate.Uri.Domain

def isDenied (c : Char) : Bool :=
  c.toNat ≤ 0x20 || c.toNat == 0x7F || "%#/:<>?@[\\]^|".toList.contains c

def texts? (s : List Char) : Option (List (List Char)) := do
  let text := Unicode.Normal.normalize (← mapText s)
  if text.any isDenied then none else some (Text.splitChars '.' text)

/-- Labels from right to left bind the others of their domain to a direction too. -/
def keepsDirections (labels : List Label) : Bool :=
  !labels.any Label.isRightToLeft || labels.all Label.keepsDirection

def labels? (s : List Char) : Option (List Label) := do
  let labels ← (← texts? s).mapM Label.read?
  if keepsDirections labels then some labels else none

def toAscii? (s : List Char) : Option (List Char) := do
  let labels ← (← labels? s).mapM Label.toAscii?
  return ['.'].intercalate labels

end TagTemplate.Uri.Domain
