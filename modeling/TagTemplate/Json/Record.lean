import TagTemplate.Json.Reader

/-!
Records in JSON: an object with known fields, or an array of their values in a fixed order whose
tail may be missing. Unknown fields are ignored; a known field may be given only once.
-/

namespace TagTemplate.Json

inductive RecordError where
  | malformed (place : Malformed)
  | unfit
  deriving Repr, DecidableEq

def RecordError.message : RecordError → String
  | .malformed place => s!"malformed JSON at line {place.line} column {place.column}"
  | .unfit => "the value does not have the form of the record"

def record? (names : List String) : Json → Option (List (String × Json))
  | .object fields =>
    let known := fields.filter fun f => names.contains f.1
    if (known.map Prod.fst).Nodup then some known else none
  | .array items => if items.length ≤ names.length then some (names.zip items) else none
  | _ => none

def recordField {α : Type} (fields : List (String × Json)) (name : String) (default : α)
    (f : Json → Option α) : Option α :=
  match fields.lookup name with
  | none => some default
  | some v => f v

def optional? {α : Type} (f : Json → Option α) : Json → Option (Option α)
  | .null => some none
  | v => (f v).map some

def readRecord {α : Type} (names : List String) (f : List (String × Json) → Option α) (s : String) :
    Except RecordError α :=
  match readKnown names.contains s with
  | .error place => .error (.malformed place)
  | .ok v =>
    match (record? names v).bind f with
    | some a => .ok a
    | none => .error .unfit

end TagTemplate.Json
