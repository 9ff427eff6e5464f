import TagTemplate.Policy.Basic

namespace TagTemplate

def NameList.toJson (list : NameList) : Json := list.elim .null .texts

def NameList.ofJson? : Json → Option NameList := Json.optional? (Json.list? Json.text?)

def UriPattern.ofJson? (v : Json) : Option UriPattern := v.text?.bind UriPattern.ofString?

namespace Policy

def fieldNames : List String := [
  "secure_dirs", "trusted_uri", "static_classes", "host_functions", "host_modifiers",
  "allowed_tags", "disabled_tags", "allowed_modifiers", "disabled_modifiers", "streams",
  "allow_constants", "allow_super_globals"]

def toJson (p : Policy) : Json := .object [
  ("secure_dirs", p.secureDirs.toJson),
  ("trusted_uri", .texts (p.trustedUris.map UriPattern.text)),
  ("static_classes", p.staticClasses.toJson),
  ("host_functions", p.hostFunctions.toJson),
  ("host_modifiers", p.hostModifiers.toJson),
  ("allowed_tags", .texts p.allowedTags),
  ("disabled_tags", .texts p.disabledTags),
  ("allowed_modifiers", .texts p.allowedModifiers),
  ("disabled_modifiers", .texts p.disabledModifiers),
  ("streams", p.streams.toJson),
  ("allow_constants", .bool p.allowConstants),
  ("allow_super_globals", .bool p.allowSuperGlobals)]

def fresh (token : Nat) : Policy := { secureDirs := { token } }

def ofFields? (token : Nat) (fields : List (String × Json)) : Option Policy := do
  let d := fresh token
  let field {α : Type} := @Json.recordField α fields
  let texts := Json.list? Json.text?
  return {
    secureDirs := ← field "secure_dirs" d.secureDirs (DirList.ofJson? token)
    trustedUris := ← field "trusted_uri" d.trustedUris (Json.list? UriPattern.ofJson?)
    staticClasses := ← field "static_classes" d.staticClasses NameList.ofJson?
    hostFunctions := ← field "host_functions" d.hostFunctions NameList.ofJson?
    hostModifiers := ← field "host_modifiers" d.hostModifiers NameList.ofJson?
    allowedTags := ← field "allowed_tags" d.allowedTags texts
    disabledTags := ← field "disabled_tags" d.disabledTags texts
    allowedModifiers := ← field "allowed_modifiers" d.allowedModifiers texts
    disabledModifiers := ← field "disabled_modifiers" d.disabledModifiers texts
    streams := ← field "streams" d.streams NameList.ofJson?
    allowConstants := ← field "allow_constants" d.allowConstants Json.bool?
    allowSuperGlobals := ← field "allow_super_globals" d.allowSuperGlobals Json.bool? }

def ofJson? (token : Nat) (v : Json) : Option Policy :=
  (Json.record? fieldNames v).bind (ofFields? token)

def read (token : Nat) (s : String) : Except Json.RecordError Policy :=
  Json.readRecord fieldNames (ofFields? token) s

end Policy

end TagTemplate
