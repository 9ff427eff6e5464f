import TagTemplate.Json.Value
import TagTemplate.Digest

namespace TagTemplate.Json

def escapeChar (c : Char) : List Char :=
  match c with
  | '"' => ['\\', '"']
  | '\\' => ['\\', '\\']
  | '\x08' => ['\\', 'b']
  | '\x0c' => ['\\', 'f']
  | '\n' => ['\\', 'n']
  | '\r' => ['\\', 'r']
  | '\t' => ['\\', 't']
  | c =>
    if c.toNat < 0x20 then
      ['\\', 'u', '0', '0', Digest.hexDigit (c.toNat / 16), Digest.hexDigit (c.toNat % 16)]
    else [c]

def renderText (s : String) : List Char := '"' :: s.toList.flatMap escapeChar ++ ['"']

def Number.render : Number → List Char
  | .integer n => (toString n).toList
  | .real x => x.text

mutual

def renderChars : Json → List Char
  | .null => "null".toList
  | .bool b => (if b then "true" else "false").toList
  | .number n => n.render
  | .text s => renderText s
  | .array items => '[' :: renderItems items ++ [']']
  | .object fields => '{' :: renderFields fields ++ ['}']

def renderItems : List Json → List Char
  | [] => []
  | [v] => v.renderChars
  | v :: r => v.renderChars ++ ',' :: renderItems r

def renderFields : List (String × Json) → List Char
  | [] => []
  | [(k, v)] => renderText k ++ ':' :: v.renderChars
  | (k, v) :: r => renderText k ++ ':' :: v.renderChars ++ ',' :: renderFields r

end

def render (v : Json) : String := String.ofList v.renderChars

end TagTemplate.Json
