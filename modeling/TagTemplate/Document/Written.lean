import TagTemplate.Document.Node
import TagTemplate.Json.Value

namespace TagTemplate

mutual

def Expr.toJson : Expr → Json
  | .code text => .text text
  | .special name member =>
    .object [("special", .text name), ("member", member.elim .null .text)]
  | .call function args =>
    .object [("call", .text function), ("args", .array (Expr.toJsonList args))]
  | .static className member => .object [("class", .text className), ("member", .text member)]
  | .modified value modifiers =>
    .object [("value", value.toJson), ("modifiers", .array (Modifier.toJsonList modifiers))]

def Expr.toJsonList : List Expr → List Json
  | [] => []
  | e :: es => e.toJson :: Expr.toJsonList es

def Modifier.toJson : Modifier → Json
  | ⟨name, args⟩ => .object [("name", .text name), ("args", .array (Expr.toJsonList args))]

def Modifier.toJsonList : List Modifier → List Json
  | [] => []
  | m :: ms => m.toJson :: Modifier.toJsonList ms

end

def Assignment.toJson (a : Assignment) : Json :=
  .object [("var", .text a.var), ("value", a.value.toJson)]

def ArgValue.toJson : ArgValue → Json
  | .assign a => a.toJson
  | .assigns as => .array (as.map Assignment.toJson)
  | .flag b => .bool b
  | .expr e => e.toJson

def TagArg.toJson : TagArg → Json
  | .named name value => .object [("name", .text name), ("value", value.toJson)]
  | .flag name => .object [("flag", .text name)]
  | .positional value => value.toJson

def Tag.toJson (t : Tag) : Json :=
  .object [("tag", .text t.name), ("args", .array (t.args.map TagArg.toJson)),
    ("variant", .nat t.variant.toNat), ("line", .nat t.line.toNat)]

def Node.toJson : Node → Json
  | .text content => .object [("text", .text content)]
  | .print value line => .object [("print", value.toJson), ("line", .nat line.toNat)]
  | .tag t => t.toJson

def Document.toJson (nodes : List Node) : Json := .array (nodes.map Node.toJson)

def Document.toObject (nodes : List Node) : Json := .object [("nodes", Document.toJson nodes)]

end TagTemplate
