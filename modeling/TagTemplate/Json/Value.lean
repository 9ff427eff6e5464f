import TagTemplate.Decimal.Double

namespace TagTemplate

inductive Json.Number where
  | integer (value : Int)
  | real (value : Decimal.Double)
  deriving Repr, DecidableEq

inductive Json where
  | null
  | bool (value : Bool)
  | number (value : Json.Number)
  | text (value : String)
  | array (items : List Json)
  | object (fields : List (String × Json))
  deriving Repr, Inhabited

namespace Json

def nat (n : Nat) : Json := .number (.integer n)

def texts (xs : List String) : Json := .array (xs.map .text)

def text? : Json → Option String
  | .text s => some s
  | _ => none

def bool? : Json → Option Bool
  | .bool b => some b
  | _ => none

/-- An integer below a bound; `1.0` and `-0` are no integers. -/
def nat? (bound : Nat) : Json → Option Nat
  | .number (.integer n) => if 0 ≤ n ∧ n < bound then some n.toNat else none
  | _ => none

def byte? (v : Json) : Option UInt8 := (v.nat? UInt8.size).map UInt8.ofNat

def word? (v : Json) : Option UInt64 := (v.nat? UInt64.size).map UInt64.ofNat

def list? {α : Type} (f : Json → Option α) : Json → Option (List α)
  | .array items => items.mapM f
  | _ => none

def last? (fields : List (String × Json)) (key : String) : Option Json :=
  (fields.reverse.find? fun f => f.1 == key).map Prod.snd

def insertField (f : String × Json) : List (String × Json) → List (String × Json)
  | [] => [f]
  | g :: r => if f.1 = g.1 then f :: r else if f.1 < g.1 then f :: g :: r else g :: insertField f r

def sortFields (fields : List (String × Json)) : List (String × Json) :=
  fields.foldl (fun acc f => insertField f acc) []

mutual

def sorted : Json → Json
  | .array items => .array (sortedItems items)
  | .object fields => .object (sortFields (sortedFields fields))
  | v => v

def sortedItems : List Json → List Json
  | [] => []
  | v :: r => v.sorted :: sortedItems r

def sortedFields : List (String × Json) → List (String × Json)
  | [] => []
  | (k, v) :: r => (k, v.sorted) :: sortedFields r

end

end Json

end TagTemplate
