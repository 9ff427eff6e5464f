/-!
Tables: finite maps that remember the order in which their keys were first inserted.
-/

namespace TagTemplate

structure Table (κ α : Type) where
  entries : List (κ × α) := []
  deriving Repr, DecidableEq

namespace Table

variable {κ α β : Type} [DecidableEq κ]

def empty : Table κ α := ⟨[]⟩

instance : EmptyCollection (Table κ α) := ⟨empty⟩

instance : Inhabited (Table κ α) := ⟨empty⟩

def findIn (k : κ) : List (κ × α) → Option α
  | [] => none
  | (j, a) :: r => if j = k then some a else findIn k r

def find? (t : Table κ α) (k : κ) : Option α := findIn k t.entries

def contains (t : Table κ α) (k : κ) : Bool := (t.find? k).isSome

def insertIn (k : κ) (a : α) : List (κ × α) → List (κ × α)
  | [] => [(k, a)]
  | (j, b) :: r => if j = k then (j, a) :: r else (j, b) :: insertIn k a r

def insert (t : Table κ α) (k : κ) (a : α) : Table κ α := ⟨insertIn k a t.entries⟩

def insertNew (t : Table κ α) (k : κ) (a : α) : Table κ α :=
  if t.contains k then t else t.insert k a

def modify (t : Table κ α) (k : κ) (f : α → α) : Table κ α :=
  match t.find? k with
  | some a => t.insert k (f a)
  | none => t

def ofList (xs : List (κ × α)) : Table κ α := xs.foldl (fun t (k, a) => t.insert k a) empty

def keys (t : Table κ α) : List κ := t.entries.map Prod.fst

def values (t : Table κ α) : List α := t.entries.map Prod.snd

def map (f : α → β) (t : Table κ α) : Table κ β := ⟨t.entries.map fun (k, a) => (k, f a)⟩

def isEmpty (t : Table κ α) : Bool := t.entries.isEmpty

@[simp] theorem find?_empty (k : κ) : (empty : Table κ α).find? k = none := rfl

theorem findIn_insertIn (k j : κ) (a : α) (xs : List (κ × α)) :
    findIn j (insertIn k a xs) = if k = j then some a else findIn j xs := by
  induction xs with
  | nil => rfl
  | cons x xs ih => grind [findIn, insertIn]

@[simp] theorem find?_insert (t : Table κ α) (k j : κ) (a : α) :
    (t.insert k a).find? j = if k = j then some a else t.find? j :=
  findIn_insertIn k j a t.entries

theorem find?_insertNew (t : Table κ α) (k j : κ) (a : α) :
    (t.insertNew k a).find? j = if k = j then (t.find? j).or (some a) else t.find? j := by
  unfold insertNew contains
  split <;> by_cases h : k = j <;> simp_all
  obtain ⟨b, hb⟩ := Option.isSome_iff_exists.1 ‹_›
  simp [hb]

theorem find?_modify (t : Table κ α) (k j : κ) (f : α → α) :
    (t.modify k f).find? j = if k = j then (t.find? j).map f else t.find? j := by
  unfold modify
  by_cases h : k = j
  · subst h; cases hk : t.find? k <;> simp [hk]
  · cases hk : t.find? k <;> simp [h]

end Table

end TagTemplate
