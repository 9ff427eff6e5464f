import TagTemplate.Uri.Domain.Ascii
import TagTemplate.Uri.Address

/-!
The origin of a URI: its scheme and its host, without user, port, path, query and fragment. URIs are
read as web browsers read them: blanks around them are dropped, and so are tabs and line ends
anywhere.
-/

namespace TagTemplate.Uri

inductive SchemeKind where
  | web
  | file
  | other
  deriving Repr, DecidableEq

def SchemeKind.ofScheme (scheme : List Char) : SchemeKind :=
  let s := String.ofList scheme
  if ["http", "https", "ws", "wss", "ftp"].contains s then .web
  else if s == "file" then .file
  else .other

def isSchemeChar (c : Char) : Bool := c.isAlphanum || c == '+' || c == '-' || c == '.'

def splitScheme (s : List Char) : Option (List Char × List Char) :=
  let name := s.takeWhile isSchemeChar
  match name.head?, s.drop name.length with
  | some c, ':' :: rest => if c.isAlpha then some (name.map Char.toLower, rest) else none
  | _, _ => none

def isSlash (c : Char) : Bool := c == '/' || c == '\\'

def endsPath (c : Char) : Bool := c == '?' || c == '#'

def endsAuthority (kind : SchemeKind) (c : Char) : Bool :=
  c == '/' || endsPath c || (kind != .other && c == '\\')

def dropUser (kind : SchemeKind) (s : List Char) : List Char :=
  let authority := s.takeWhile fun c => !endsAuthority kind c
  s.drop (authority.length - (authority.reverse.takeWhile (· != '@')).length)

def hostLength (kind : SchemeKind) (inBrackets : Bool) : List Char → Nat
  | [] => 0
  | c :: r =>
    if (c == ':' && !inBrackets) || endsAuthority kind c then 0
    else hostLength kind (c == '[' || (inBrackets && c != ']')) r + 1

def acceptsPort : List Char → Bool
  | ':' :: s =>
    let digits := s.takeWhile Decimal.isDigit
    let rest := s.drop digits.length
    Decimal.ofDigits digits < 65536 &&
      (rest.isEmpty || (rest.head?.map fun c => isSlash c || endsPath c).getD false)
  | _ => true

def percentDecode : List Char → List UInt8
  | [] => []
  | '%' :: a :: b :: r =>
    match hexDigit? a, hexDigit? b with
    | some x, some y => UInt8.ofNat (16 * x + y) :: percentDecode r
    | _, _ => '%'.toUInt8 :: percentDecode (a :: b :: r)
  | c :: r => (String.singleton c).toUTF8.data.toList ++ percentDecode r

def address6? (s : List Char) : Option String :=
  if s.getLast? = some ']' then
    (Address6.read? (s.drop 1).dropLast).map fun groups =>
      String.ofList ('[' :: Address6.render groups ++ [']'])
  else none

def webHost? (s : List Char) : Option String :=
  if s.head? = some '[' then address6? s
  else do
    let text ← String.fromUTF8? ⟨(percentDecode s).toArray⟩
    let domain ← Domain.toAscii? text.toList
    if domain.isEmpty then none
    else if Address4.isNumeric domain then (Address4.read? domain).map Address4.dotted
    else some (String.ofList domain)

def upperHex (n : Nat) : Char := Char.ofNat (if n < 10 then 48 + n else 55 + n)

def percentEncode (b : UInt8) : List Char :=
  ['%', upperHex (b.toNat / 16), upperHex (b.toNat % 16)]

def opaqueChar (c : Char) : List Char :=
  if c.toNat < 0x20 || 0x7F ≤ c.toNat then
    (String.singleton c).toUTF8.data.toList.flatMap percentEncode
  else [c]

def opaqueHost? (s : List Char) : Option String :=
  if s.head? = some '[' then address6? s
  else if s.isEmpty || s.any fun c => c == '\x00' || " #/:<>?@[\\]^|".toList.contains c then none
  else some (String.ofList (s.flatMap opaqueChar))

def authorityHost? (kind : SchemeKind) (s : List Char) : Option String := do
  let s := dropUser kind s
  let n := hostLength kind false s
  let host ← if kind = .web then webHost? (s.take n) else opaqueHost? (s.take n)
  if acceptsPort (s.drop n) then some host else none

def isDrive : List Char → Bool
  | [a, b] => a.isAlpha && (b == ':' || b == '|')
  | _ => false

def isDot (segment : List Char) : Bool :=
  [".", "%2e"].contains (Text.asciiLower (String.ofList segment))

def isDoubleDot (segment : List Char) : Bool :=
  ["..", ".%2e", "%2e.", "%2e%2e"].contains (Text.asciiLower (String.ofList segment))

def dropParent : List (List Char) → List (List Char)
  | [] => []
  | [a, ':'] :: r => if a.isAlpha then [a, ':'] :: r else r
  | _ :: r => r

/-- Whether a path of a file begins with a drive once its dot segments are resolved. The segments
that are kept so far are reversed; a drive among them stays. -/
def startsWithDrive (kept : List (List Char)) : List (List Char) → Bool
  | [] => false
  | s :: r =>
    if isDoubleDot s then startsWithDrive (dropParent kept) r
    else if isDot s then startsWithDrive kept r
    else (kept.isEmpty && isDrive s) || startsWithDrive (s :: kept) r

def segments (path : List Char) : List (List Char) :=
  Text.splitChars '/' ((path.drop 1).map fun c => if isSlash c then '/' else c)

def fileHost? (s : List Char) : Option String :=
  match s with
  | a :: b :: s =>
    if isSlash a && isSlash b then do
      let name := s.takeWhile fun c => !isSlash c && !endsPath c
      let path := (s.drop name.length).takeWhile fun c => !endsPath c
      if name.isEmpty || isDrive name then none
      else
        let host ← webHost? name
        if host == "localhost" || startsWithDrive [] (segments path) then none else some host
    else none
  | _ => none

def host? (scheme rest : List Char) : Option String :=
  match SchemeKind.ofScheme scheme with
  | .web => authorityHost? .web (rest.dropWhile isSlash)
  | .file => fileHost? rest
  | .other =>
    match rest with
    | '/' :: '/' :: s => authorityHost? .other s
    | _ => none

def origin? (uri : String) : Option String := do
  let s := (Text.stripChars (fun c => c.toNat ≤ 0x20) uri.toList).filter
    fun c => c != '\t' && c != '\n' && c != '\r'
  let (scheme, rest) ← splitScheme s
  let host ← host? scheme rest
  return String.ofList scheme ++ "://" ++ host

end TagTemplate.Uri
