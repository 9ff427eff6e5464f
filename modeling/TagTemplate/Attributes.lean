import TagTemplate.Error
import TagTemplate.Table
import TagTemplate.Text.Blank

namespace TagTemplate

/-- An optional name that lets a tag take attributes it does not declare. -/
def wildcard : String := "_any"

structure Contract where
  required : List String := []
  optional : List String := []
  shorthand : List String := []
  flags : List String := []
  deriving Repr, DecidableEq

namespace Contract

def acceptsAny (c : Contract) : Bool := c.optional.contains wildcard

def isFlag (c : Contract) (name : String) : Bool := c.flags.contains name

def declares (c : Contract) (name : String) : Bool :=
  name != wildcard && (c.required.contains name || c.optional.contains name)

end Contract

structure CodeAssignment where
  var : String
  value : String
  deriving Repr, DecidableEq

inductive AttrValue where
  | code (text : String)
  | flag (value : Bool)
  | assign (assignment : CodeAssignment)
  | assigns (assignments : List CodeAssignment)
  deriving Repr, DecidableEq

def CodeAssignment.describe (a : CodeAssignment) : String := a.var ++ " = " ++ a.value

def boolText (b : Bool) : String := if b then "true" else "false"

def AttrValue.describe : AttrValue → String
  | .code text => text
  | .flag b => boolText b
  | .assign a => a.describe
  | .assigns as => "; ".intercalate (as.map CodeAssignment.describe)

inductive Arg where
  | positional (value : AttrValue)
  | named (name : String) (value : AttrValue)
  | flag (name : String)
  deriving Repr, DecidableEq

/-- Supplied attributes: those the tag declares, and the others in supply order. -/
structure Attributes where
  values : Table String AttrValue := ∅
  extra : Table String AttrValue := ∅
  deriving Repr, DecidableEq

namespace Attributes

def contains (a : Attributes) (name : String) : Bool := a.values.contains name

def code? (a : Attributes) (name : String) : Option String :=
  match a.values.find? name with
  | some (.code text) => some text
  | _ => none

def flag (a : Attributes) (name : String) : Bool :=
  match a.values.find? name with
  | some (.flag b) => b
  | _ => false

def requireCode (a : Attributes) (name : String) : Except AttributeError String :=
  match a.values.find? name with
  | some (.code text) => .ok text
  | some v => .error (.badValue name v.describe)
  | none => .error (.missing name)

/-- One assignment, also when supplied as a list of one. -/
def requireAssign (a : Attributes) (name : String) : Except AttributeError CodeAssignment :=
  match a.values.find? name with
  | some (.assign x) => .ok x
  | some (.assigns [x]) => .ok x
  | some v => .error (.badValue name v.describe)
  | none => .error (.missing name)

def requireAssigns (a : Attributes) (name : String) :
    Except AttributeError (List CodeAssignment) :=
  match a.values.find? name with
  | some (.assign x) => .ok [x]
  | some (.assigns xs) => .ok xs
  | some v => .error (.badValue name v.describe)
  | none => .error (.missing name)

def isTaken (a : Attributes) (name : String) : Bool :=
  a.values.contains name || a.extra.contains name

def addValue (a : Attributes) (name : String) (v : AttrValue) :
    Except AttributeError Attributes :=
  if a.isTaken name then .error (.duplicate name)
  else .ok { a with values := a.values.insert name v }

def addExtra (a : Attributes) (name : String) (v : AttrValue) :
    Except AttributeError Attributes :=
  if a.isTaken name then .error (.duplicate name)
  else .ok { a with extra := a.extra.insert name v }

def flagOfCode (code : String) : Option Bool :=
  let word := Text.asciiLower (Text.stripQuotes (Text.trim code))
  if ["true", "1", "yes", "on"].contains word then some true
  else if ["false", "0", "no", "off"].contains word then some false
  else none

def flagValue (name : String) (v : AttrValue) : Except AttributeError Bool :=
  match v with
  | .flag b => .ok b
  | .code text =>
    match flagOfCode text with
    | some b => .ok b
    | none => .error (.badValue name v.describe)
  | _ => .error (.badValue name v.describe)

def addPositional (c : Contract) (position : Nat) (v : AttrValue) (a : Attributes) :
    Except AttributeError Attributes :=
  match c.shorthand[position]? with
  | some name => a.addValue name v
  | none =>
    if c.acceptsAny then a.addExtra (toString position) v
    else .error (.tooMany c.shorthand.length)

def addFlag (c : Contract) (name : String) (a : Attributes) : Except AttributeError Attributes :=
  if c.isFlag name then a.addValue name (.flag true) else .error (.unknown name)

def addNamed (c : Contract) (name : String) (v : AttrValue) (a : Attributes) :
    Except AttributeError Attributes :=
  if c.isFlag name then (flagValue name v).bind fun b => a.addValue name (.flag b)
  else if c.declares name then a.addValue name v
  else if c.acceptsAny then a.addExtra name v
  else .error (.unknown name)

def addAll (c : Contract) (position : Nat) (a : Attributes) :
    List Arg → Except AttributeError Attributes
  | [] => .ok a
  | .positional v :: rest =>
    (addPositional c position v a).bind fun a => addAll c (position + 1) a rest
  | .named name v :: rest => (addNamed c name v a).bind fun a => addAll c position a rest
  | .flag name :: rest => (addFlag c name a).bind fun a => addAll c position a rest

def checkRequired (a : Attributes) : List String → Except AttributeError Attributes
  | [] => .ok a
  | name :: rest => if a.contains name then checkRequired a rest else .error (.missing name)

/-- Check arguments against a contract and give each its name. The first offending argument decides
the error; a missing attribute is reported only when no argument offends. -/
def resolve (c : Contract) (args : List Arg) : Except AttributeError Attributes :=
  (addAll c 0 {} args).bind fun a => checkRequired a c.required

end Attributes

end TagTemplate
