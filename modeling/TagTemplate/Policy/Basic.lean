import TagTemplate.Config
import TagTemplate.Error
import TagTemplate.Pattern.OfString
import TagTemplate.Uri.Origin

/-!
Security policies: which tags, modifiers, functions, classes, streams, URIs, request data and
constants a template may use. What a policy says of a name depends on the name alone.
-/

namespace TagTemplate

/-- A list of names in three states: a missing list admits no name, an empty one admits every name,
and any other admits its members. -/
abbrev NameList := Option (List String)

def NameList.admits (list : NameList) (name : String) : Bool :=
  match list with
  | none => false
  | some names => names.isEmpty || names.contains name

structure UriPattern where
  text : String
  pattern : Pattern
  parsed : Pattern.ofString? text = some pattern

def UriPattern.ofString? (text : String) : Option UriPattern :=
  match h : Pattern.ofString? text with
  | some pattern => some ⟨text, pattern, h⟩
  | none => none

structure Policy where
  secureDirs : DirList := {}
  trustedUris : List UriPattern := []
  staticClasses : NameList := some []
  hostFunctions : NameList :=
    some ["isset", "empty", "count", "sizeof", "in_array", "is_array", "time", "nl2br"]
  hostModifiers : NameList := some ["escape", "count"]
  allowedTags : List String := []
  disabledTags : List String := []
  allowedModifiers : List String := []
  disabledModifiers : List String := []
  streams : NameList := some ["file"]
  allowConstants : Bool := true
  allowSuperGlobals : Bool := true

namespace Policy

def internalTags : List String := [
  "assign", "call", "private_filter", "private_block_plugin", "private_function_plugin",
  "private_object_block_function", "private_object_function", "private_registered_function",
  "private_registered_block", "private_special_variable", "private_print_expression",
  "private_modifier"]

def builtinModifiers : List String := ["default"]

/-- An empty list of allowed names allows all; a disabled name is refused in any case. -/
def admits (allowed disabled : List String) (name : String) : Bool :=
  (allowed.isEmpty || allowed.contains name) && !disabled.contains name

def trustsUri (p : Policy) (uri : String) : Bool :=
  match Uri.origin? uri with
  | some origin => p.trustedUris.any fun u => u.pattern.isMatch origin
  | none => false

/-- Whether a name may be used. Directories are judged by where they lie and variable passing by its
scope, so neither is permitted by name. -/
def permits (p : Policy) : Privilege → String → Bool
  | .tag, name => internalTags.contains name || admits p.allowedTags p.disabledTags name
  | .modifier, name =>
    builtinModifiers.contains name || admits p.allowedModifiers p.disabledModifiers name
  | .hostFunction, name => p.hostFunctions.admits name
  | .hostModifier, name => builtinModifiers.contains name || p.hostModifiers.admits name
  | .staticClass, name => p.staticClasses != some ["none"] && p.staticClasses.admits name
  | .stream, name => p.streams.admits name
  | .uri, uri => p.trustsUri uri
  | .superGlobals, _ => p.allowSuperGlobals
  | .constants, _ => p.allowConstants
  | .directory, _ | .scopedVariables, _ => false

def check (policy : Option Policy) (kind : Privilege) (name : String) : Except CompileError Unit :=
  match policy with
  | some p => if p.permits kind name then .ok () else .error (Fault.policy kind name)
  | none => .ok ()

def checkSuperGlobals (policy : Option Policy) : Except CompileError Unit :=
  check policy .superGlobals "super globals"

def checkConstants (policy : Option Policy) : Except CompileError Unit :=
  check policy .constants "constants"

def trustUris? (p : Policy) (patterns : List String) : Option Policy :=
  (patterns.mapM UriPattern.ofString?).map fun us => { p with trustedUris := us }

end Policy

end TagTemplate
