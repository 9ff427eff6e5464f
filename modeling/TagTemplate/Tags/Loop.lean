import TagTemplate.Tags.Basic

namespace TagTemplate

structure Range where
  start : Int
  stop : Int
  step : Int := 1
  limit : Option Int := none
  deriving Repr, DecidableEq

namespace Range

def span (r : Range) : Int :=
  if 0 < r.step then r.stop + 1 - r.start else r.start - r.stop + 1

def rounds (r : Range) : Int :=
  let size := Int.ofNat r.step.natAbs
  if r.span % size = 0 then r.span / size else r.span / size + 1

def clamp (n : Int) : Option Int → Int
  | some limit => min n limit
  | none => n

/-- The number of iterations, at most the greatest 64-bit integer. A step of zero never iterates. -/
def total (r : Range) : Int :=
  if r.step = 0 then 0
  else min (max (clamp r.rounds r.limit) 0) Decimal.maxInt64

def ofCode? (start stop step : String) (max : Option String) : Option Range := do
  let start ← Decimal.intLiteral start
  let stop ← Decimal.intLiteral stop
  let step ← Decimal.intLiteral step
  match max with
  | none => return { start, stop, step }
  | some code => return { start, stop, step, limit := some (← Decimal.intLiteral code) }

end Range

namespace Loop

def rangeContract : Contract := {
  required := ["start", "to"]
  optional := ["max", "step"] }

def generalContract : Contract := { required := ["start", "ifexp", "var", "step"] }

def contract (variant : UInt8) : Contract :=
  if variant = 0 then rangeContract else generalContract

def closers : List String := ["forelse", "forclose"]

def fallbackClosers : List String := ["forclose"]

def countCode (var start stop : String) (max : Option String) : String :=
  let count := "ceil((" ++ var ++ "->step > 0 ? " ++ stop ++ "+1 - (" ++ start ++ ") : " ++ start ++
    "-(" ++ stop ++ ")+1)/abs(" ++ var ++ "->step))"
  "(int) " ++ match max with
    | some max => "min(" ++ count ++ ", " ++ max ++ ")"
    | none => count

def totalCode (var start stop step : String) (max : Option String) : String :=
  match Range.ofCode? start stop step max with
  | some r => toString r.total
  | none => countCode var start stop max

def rangeHead (start : CodeAssignment) (stop step : String) (max : Option String) : String :=
  let var := Code.var start.var
  var ++ " = new TplVar;\n" ++
  var ++ "->step = " ++ step ++ ";\n" ++
  var ++ "->total = " ++ totalCode var start.value stop step max ++ ";\n" ++
  "if (" ++ var ++ "->total > 0) \x7b\n" ++
  "  for (" ++ var ++ "->value = " ++ start.value ++ ", " ++ var ++ "->iteration = 1;" ++
  var ++ "->iteration <= " ++ var ++ "->total;" ++
  var ++ "->value += " ++ var ++ "->step, " ++ var ++ "->iteration++) \x7b\n" ++
  var ++ "->first = " ++ var ++ "->iteration == 1;\n" ++
  var ++ "->last = " ++ var ++ "->iteration == " ++ var ++ "->total;\n"

def startCode (a : CodeAssignment) : String :=
  Code.var a.var ++ " = new TplVar;\n" ++ Code.var a.var ++ "->value = " ++ a.value ++ ";\n"

def generalHead (starts : List CodeAssignment) (condition var step : String) : String :=
  String.join (starts.map startCode) ++
  "if (" ++ condition ++ ") \x7b\n" ++
  "  for ($_foo=true;" ++ condition ++ "; " ++ Code.varAt var ++ "->value" ++ step ++ ") \x7b\n"

def range (u : TagUse) (attrs : Attributes) : Except CompileError String := do
  let start ← u.require (attrs.requireAssign "start")
  let stop ← u.require (attrs.requireCode "to")
  return rangeHead start stop ((attrs.code? "step").getD "1") (attrs.code? "max")

def general (u : TagUse) (attrs : Attributes) : Except CompileError String := do
  let starts ← u.require (attrs.requireAssigns "start")
  let condition ← u.require (attrs.requireCode "ifexp")
  let var ← u.require (attrs.requireCode "var")
  let step ← u.require (attrs.requireCode "step")
  return generalHead starts condition var step

def head (u : TagUse) (attrs : Attributes) : Except CompileError String :=
  if u.variant = 0 then range u attrs else general u attrs

def openLoop (u : TagUse) (attrs : Attributes) : Step Draft String := do
  let code ← Step.ofExcept (head u attrs)
  modify fun d => (d.openBlock .loop closers u.line).marked
  return code

def close (u : TagUse) (expected : List BlockKind) : Step Draft Block := do
  let (b, d) ← Step.ofExcept ((← get).closeBlock u.tag expected u.line)
  set d
  return b

def openFallback (u : TagUse) : Step Draft String := do
  let _ ← close u [.loop]
  modify fun d => (d.openBlock .fallback fallbackClosers u.line).marked
  return "\x7d\n\x7d else \x7b\n"

def closeLoop (u : TagUse) : Step Draft String := do
  let b ← close u [.loop, .fallback]
  modify Draft.marked
  return match b.kind with
    | .fallback => "\x7d\n"
    | .loop => "\x7d\n\x7d\n"

end Loop

end TagTemplate
