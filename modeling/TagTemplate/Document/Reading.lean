import TagTemplate.Document.Node
import TagTemplate.Json.Reader
import TagTemplate.Text.Shown
import TagTemplate.Text.Blank

/-!
Reading template nodes from JSON. A value is tried against the forms of its kind in a fixed order
and the first that fits wins. Unknown keys are ignored, and of a repeated key the last counts.
-/

namespace TagTemplate

namespace Json

def textField? (fields : List (String × Json)) (key : String) : Option String :=
  (last? fields key).bind text?

/-- A field with a default: it may be missing, but if present it has to fit. -/
def fieldOr {α : Type} (fields : List (String × Json)) (key : String) (default : α)
    (f : Json → Option α) : Option α :=
  match last? fields key with
  | none => some default
  | some v => f v

end Json

structure ExprReading where
  expr : Option Expr := none
  exprs : Option (List Expr) := none
  modifier : Option Modifier := none
  modifiers : Option (List Modifier) := none

namespace ExprReading

def field? (rs : List (String × ExprReading)) (key : String) : Option ExprReading :=
  (rs.reverse.find? fun r => r.1 == key).map Prod.snd

def argsField (rs : List (String × ExprReading)) : Option (List Expr) :=
  match field? rs "args" with
  | none => some []
  | some r => r.exprs

def memberField (fields : List (String × Json)) : Option (Option String) :=
  match Json.last? fields "member" with
  | none => some none
  | some .null => some none
  | some (.text s) => some (some s)
  | some _ => none

def special? (fields : List (String × Json)) : Option Expr := do
  let name ← Json.textField? fields "special"
  let member ← memberField fields
  return .special name member

def call? (fields : List (String × Json)) (rs : List (String × ExprReading)) : Option Expr := do
  let function ← Json.textField? fields "call"
  let args ← argsField rs
  return .call function args

def static? (fields : List (String × Json)) : Option Expr := do
  let className ← Json.textField? fields "class"
  let member ← Json.textField? fields "member"
  return .static className member

def modified? (rs : List (String × ExprReading)) : Option Expr := do
  let value ← (field? rs "value").bind ExprReading.expr
  let modifiers ← (field? rs "modifiers").bind ExprReading.modifiers
  return .modified value modifiers

def namedModifier? (fields : List (String × Json)) (rs : List (String × ExprReading)) :
    Option Modifier := do
  let name ← Json.textField? fields "name"
  let args ← argsField rs
  return ⟨name, args⟩

def listedModifier? : List Json → List ExprReading → Option Modifier
  | [.text name], _ => some ⟨name, []⟩
  | [.text name, _], [_, r] => r.exprs.map fun args => ⟨name, args⟩
  | _, _ => none

mutual

def ofJson : Json → ExprReading
  | .text s => { expr := some (.code s) }
  | .array items =>
    let rs := ofItems items
    { exprs := rs.mapM ExprReading.expr
      modifier := listedModifier? items rs
      modifiers := rs.mapM ExprReading.modifier }
  | .object fields =>
    let rs := ofFields fields
    { expr := special? fields <|> call? fields rs <|> static? fields <|> modified? rs
      modifier := namedModifier? fields rs }
  | _ => {}

def ofItems : List Json → List ExprReading
  | [] => []
  | v :: r => ofJson v :: ofItems r

def ofFields : List (String × Json) → List (String × ExprReading)
  | [] => []
  | (k, v) :: r => (k, ofJson v) :: ofFields r

end

end ExprReading

def Expr.ofJson? (v : Json) : Option Expr := (ExprReading.ofJson v).expr

def Assignment.ofJson? : Json → Option Assignment
  | .object fields => do
    let var ← Json.textField? fields "var"
    let value ← (Json.last? fields "value").bind Expr.ofJson?
    return ⟨var, value⟩
  | .array [.text var, value] => (Expr.ofJson? value).map fun e => ⟨var, e⟩
  | _ => none

def ArgValue.ofJson? (v : Json) : Option ArgValue :=
  (Assignment.ofJson? v).map .assign <|> (Json.list? Assignment.ofJson? v).map .assigns <|>
    (Json.bool? v).map .flag <|> (Expr.ofJson? v).map .expr

def TagArg.named? : Json → Option TagArg
  | .object fields => do
    let name ← Json.textField? fields "name"
    let value ← (Json.last? fields "value").bind ArgValue.ofJson?
    return .named name value
  | _ => none

def TagArg.flag? : Json → Option TagArg
  | .object fields => (Json.textField? fields "flag").map .flag
  | _ => none

def TagArg.ofJson? (v : Json) : Option TagArg :=
  named? v <|> flag? v <|> (ArgValue.ofJson? v).map .positional

def Tag.ofJson? : Json → Option Tag
  | .object fields => do
    let name ← Json.textField? fields "tag"
    let args ← Json.fieldOr fields "args" [] (Json.list? TagArg.ofJson?)
    let variant ← Json.fieldOr fields "variant" 0 Json.byte?
    let line ← Json.fieldOr fields "line" 0 Json.word?
    return { name, args, variant, line }
  | .array [.text name] => some { name }
  | .array [.text name, args] => do return { name, args := ← Json.list? TagArg.ofJson? args }
  | .array [.text name, args, variant] => do
    return { name, args := ← Json.list? TagArg.ofJson? args, variant := ← Json.byte? variant }
  | .array [.text name, args, variant, line] => do
    let args ← Json.list? TagArg.ofJson? args
    let variant ← Json.byte? variant
    let line ← Json.word? line
    return { name, args, variant, line }
  | _ => none

def Node.text? : Json → Option Node
  | .object fields => (Json.textField? fields "text").map .text
  | _ => none

def Node.print? : Json → Option Node
  | .object fields => do
    let value ← (Json.last? fields "print").bind Expr.ofJson?
    let line ← Json.fieldOr fields "line" 0 Json.word?
    return .print value line
  | .array [value] => (Expr.ofJson? value).map fun e => .print e 0
  | .array [value, line] => do return .print (← Expr.ofJson? value) (← Json.word? line)
  | _ => none

def Node.ofJson? (v : Json) : Option Node :=
  text? v <|> print? v <|> (Tag.ofJson? v).map .tag

inductive DocumentError where
  | malformed (place : Json.Malformed)
  | noNodes
  | notAList (found : Json)
  | badNode

def Json.describe : Json → String
  | .null => "null"
  | .bool b => s!"boolean `{b}`"
  | .number (.integer n) => s!"integer `{n}`"
  | .number (.real x) => "floating point `" ++ String.ofList x.text ++ "`"
  | .text s => "string " ++ Text.shown s
  | .array _ => "sequence"
  | .object _ => "map"

def DocumentError.message : DocumentError → String
  | .malformed place => s!"malformed JSON at line {place.line} column {place.column}"
  | .noNodes => "node document object must contain \"nodes\""
  | .notAList found => "invalid type: " ++ found.describe ++ ", expected a sequence"
  | .badNode => "data did not match any variant of untagged enum Node"

namespace Document

def nodesOfJson : Json → Except DocumentError (List Node)
  | .array items =>
    match items.mapM Node.ofJson? with
    | some nodes => .ok nodes
    | none => .error .badNode
  | v => .error (.notAList v)

def ofJson : Json → Except DocumentError (List Node)
  | .object fields =>
    match Json.last? fields "nodes" with
    | some v => nodesOfJson v
    | none => .error .noNodes
  | v => nodesOfJson v

def read (content : String) : Except DocumentError (List Node) :=
  if (Text.trimChars content.toList).isEmpty then .ok []
  else match Json.read content with
    | .ok v => ofJson v
    | .error place => .error (.malformed place)

end Document

end TagTemplate
