import TagTemplate.Json.Record

namespace TagTemplate

/-- A list of directories with an identity. Copies share the token, a list that is made anew has one
of its own; lists with one token hold the same directories. -/
structure DirList where
  token : Nat := 0
  dirs : List String := []
  deriving Repr, DecidableEq

def DirList.sameAs (a b : DirList) : Bool := a.token == b.token

def DirList.isEmpty (a : DirList) : Bool := a.dirs.isEmpty

def DirList.toJson (a : DirList) : Json := .texts a.dirs

def DirList.ofJson? (token : Nat) (v : Json) : Option DirList :=
  (Json.list? Json.text? v).map fun dirs => { token, dirs }

/-- How reads of request data are compiled: as plain indexing, as a lookup with an empty value for a
missing key, or as a lookup that also warns. -/
inductive Lookups where
  | plain
  | safe
  | warned
  deriving Repr, DecidableEq

namespace Lookups

def code : Lookups → Nat
  | .plain => 0
  | .safe => 1
  | .warned => 2

def word : Lookups → String
  | .plain => "unsafe"
  | .safe => "safe"
  | .warned => "safe_warn"

def ofWord? (s : String) : Option Lookups := [plain, safe, warned].find? fun l => l.word == s

def ofJson? : Json → Option Lookups
  | .text s => ofWord? s
  | .object [(s, .null)] => ofWord? s
  | _ => none

end Lookups

structure Config where
  leftDelimiter : String := "\x7b"
  rightDelimiter : String := "\x7d"
  mergeIncludes : Bool := false
  mergeInBlocks : Bool := true
  lookups : Lookups := .safe
  enforcedModifiers : List String := []
  enforceOnStatic : Bool := false
  pluginModifiers : List String := []
  charset : String := "UTF-8"
  multibyte : Bool := true
  maxInlineDepth : UInt64 := 32
  templateDirs : DirList := {}
  configDirs : DirList := {}
  version : String := "0.1.0"
  deriving Repr, DecidableEq

namespace Config

def isPlugin (c : Config) (name : String) : Bool := c.pluginModifiers.contains name

def fieldNames : List String := [
  "left_delimiter", "right_delimiter", "merge_compiled_includes",
  "inheritance_merge_compiled_includes", "safe_lookups", "enforce_expression_modifiers",
  "enforce_modifiers_on_static_expressions", "plugin_modifiers", "charset", "mbstring",
  "max_inline_depth", "template_dirs", "config_dirs", "version"]

def toJson (c : Config) : Json := .object [
  ("left_delimiter", .text c.leftDelimiter),
  ("right_delimiter", .text c.rightDelimiter),
  ("merge_compiled_includes", .bool c.mergeIncludes),
  ("inheritance_merge_compiled_includes", .bool c.mergeInBlocks),
  ("safe_lookups", .text c.lookups.word),
  ("enforce_expression_modifiers", .texts c.enforcedModifiers),
  ("enforce_modifiers_on_static_expressions", .bool c.enforceOnStatic),
  ("plugin_modifiers", .texts c.pluginModifiers),
  ("charset", .text c.charset),
  ("mbstring", .bool c.multibyte),
  ("max_inline_depth", .nat c.maxInlineDepth.toNat),
  ("template_dirs", c.templateDirs.toJson),
  ("config_dirs", c.configDirs.toJson),
  ("version", .text c.version)]

def fresh (token : Nat) : Config :=
  { templateDirs := { token := token }, configDirs := { token := token + 1 } }

def ofFields? (token : Nat) (fields : List (String × Json)) : Option Config := do
  let d := fresh token
  let field {α : Type} := @Json.recordField α fields
  return {
    leftDelimiter := ← field "left_delimiter" d.leftDelimiter Json.text?
    rightDelimiter := ← field "right_delimiter" d.rightDelimiter Json.text?
    mergeIncludes := ← field "merge_compiled_includes" d.mergeIncludes Json.bool?
    mergeInBlocks := ← field "inheritance_merge_compiled_includes" d.mergeInBlocks Json.bool?
    lookups := ← field "safe_lookups" d.lookups Lookups.ofJson?
    enforcedModifiers :=
      ← field "enforce_expression_modifiers" d.enforcedModifiers (Json.list? Json.text?)
    enforceOnStatic :=
      ← field "enforce_modifiers_on_static_expressions" d.enforceOnStatic Json.bool?
    pluginModifiers := ← field "plugin_modifiers" d.pluginModifiers (Json.list? Json.text?)
    charset := ← field "charset" d.charset Json.text?
    multibyte := ← field "mbstring" d.multibyte Json.bool?
    maxInlineDepth := ← field "max_inline_depth" d.maxInlineDepth Json.word?
    templateDirs := ← field "template_dirs" d.templateDirs (DirList.ofJson? token)
    configDirs := ← field "config_dirs" d.configDirs (DirList.ofJson? (token + 1))
    version := ← field "version" d.version Json.text? }

def ofJson? (token : Nat) (v : Json) : Option Config :=
  (Json.record? fieldNames v).bind (ofFields? token)

def read (token : Nat) (s : String) : Except Json.RecordError Config :=
  Json.readRecord fieldNames (ofFields? token) s

end Config

end TagTemplate
