import TagTemplate.Proofs.Json.RoundTrip
import TagTemplate.Proofs.Json.Sorted
import TagTemplate.Proofs.Text.Comment

namespace TagTemplate.Json

mutual

def mapTexts (f : String → String) : Json → Json
  | .text s => .text (f s)
  | .array items => .array (mapItems f items)
  | .object fields => .object (mapFields f fields)
  | v => v

def mapItems (f : String → String) : List Json → List Json
  | [] => []
  | v :: r => v.mapTexts f :: mapItems f r

def mapFields (f : String → String) : List (String × Json) → List (String × Json)
  | [] => []
  | (k, v) :: r => (f k, v.mapTexts f) :: mapFields f r

end

inductive Mentions (t : String) : Json → Prop where
  | text : Mentions t (.text t)
  | item {items : List Json} {v : Json} : v ∈ items → Mentions t v → Mentions t (.array items)
  | key {fields : List (String × Json)} {v : Json} : (t, v) ∈ fields → Mentions t (.object fields)
  | value {fields : List (String × Json)} {f : String × Json} :
    f ∈ fields → Mentions t f.2 → Mentions t (.object fields)

variable {f : String → String} {v : Json} {t : String} {n : Nat}

theorem mapItems_eq_map (items : List Json) : mapItems f items = items.map (mapTexts f) := by
  induction items with
  | nil => rfl
  | cons v items ih => rw [mapItems, ih, List.map_cons]

theorem mapFields_eq_map (fields : List (String × Json)) :
    mapFields f fields = fields.map fun g => (f g.1, g.2.mapTexts f) := by
  induction fields with
  | nil => rfl
  | cons g fields ih =>
    rw [mapFields, ih]
    rfl

theorem mapTexts_eq_self (h : ∀ t, Mentions t v → f t = t) : v.mapTexts f = v := by
  induction v using byMembers with
  | text s => exact congrArg Json.text (h s .text)
  | array items ih =>
    have hitem : ∀ v ∈ items, v.mapTexts f = id v := fun v hv =>
      ih v hv fun t ht => h t (.item hv ht)
    rw [mapTexts, mapItems_eq_map, List.map_congr_left hitem, List.map_id]
  | object fields ih =>
    have hfield : ∀ g ∈ fields, (f g.1, g.2.mapTexts f) = id g := fun g hg =>
      Prod.ext (h g.1 (.key hg)) (ih g hg fun t ht => h t (.value hg ht))
    rw [mapTexts, mapFields_eq_map, List.map_congr_left hfield, List.map_id]
  | _ => rfl

theorem exists_of_mentions_mapTexts (h : Mentions t (v.mapTexts f)) : ∃ s, f s = t := by
  induction v using byMembers with
  | text s =>
    cases h
    exact ⟨s, rfl⟩
  | array items ih =>
    rw [mapTexts, mapItems_eq_map] at h
    cases h with
    | item hitem ht =>
      obtain ⟨v, hv, rfl⟩ := List.mem_map.1 hitem
      exact ih v hv ht
  | object fields ih =>
    rw [mapTexts, mapFields_eq_map] at h
    cases h with
    | key hkey =>
      obtain ⟨g, -, hg⟩ := List.mem_map.1 hkey
      exact ⟨g.1, congrArg Prod.fst hg⟩
    | value hvalue ht =>
      obtain ⟨g, hg, rfl⟩ := List.mem_map.1 hvalue
      exact ih g hg ht
  | _ => cases h

theorem mentions_of_sorted (h : Mentions t v.sorted) : Mentions t v := by
  induction v using byMembers with
  | array items ih =>
    rw [sorted, sortedItems_eq_map] at h
    cases h with
    | item hitem ht =>
      obtain ⟨v, hv, rfl⟩ := List.mem_map.1 hitem
      exact .item hv (ih v hv ht)
  | object fields ih =>
    cases h with
    | key hkey =>
      obtain ⟨g, hg, heq⟩ := mem_sortedFields hkey
      cases heq
      exact .key hg
    | value hvalue ht =>
      obtain ⟨g, hg, rfl⟩ := mem_sortedFields hvalue
      exact .value hg (ih g hg ht)
  | _ => exact h

theorem Legible.sorted (h : Legible n v) : Legible n v.sorted := by
  induction h with
  | null => exact .null
  | bool => exact .bool
  | nat hk => exact .nat hk
  | text => exact .text
  | array _ ih =>
    rw [Json.sorted, sortedItems_eq_map]
    exact legible_array_map ih
  | object _ ih =>
    refine .object fun g hg => ?_
    obtain ⟨f, hf, rfl⟩ := mem_sortedFields hg
    exact ih f hf

theorem Legible.mapTexts (h : Legible n v) : Legible n (v.mapTexts f) := by
  induction h with
  | null => exact .null
  | bool => exact .bool
  | nat hk => exact .nat hk
  | text => exact .text
  | array _ ih =>
    rw [Json.mapTexts, mapItems_eq_map]
    exact legible_array_map ih
  | object _ ih =>
    rw [Json.mapTexts, mapFields_eq_map]
    exact legible_object_map ih

open Text

theorem escapeChar_cases (c : Char) :
    escapeChar c = [c] ∨ ∃ s, escapeChar c = '\\' :: s ∧ '*' ∉ s := by
  unfold escapeChar
  split
  iterate 7 exact .inr ⟨_, rfl, by decide⟩
  next =>
    split
    next hcontrol =>
      have hdigit {n : Nat} (hn : n < 16) : '*' ≠ Digest.hexDigit n := by
        intro h
        have hvalue := Reader.hexValue_hexDigit hn
        rw [← h] at hvalue
        contradiction
      refine .inr ⟨_, rfl, ?_⟩
      simp [hdigit (show c.toNat / 16 < 16 by omega), hdigit (show c.toNat % 16 < 16 by omega)]
    next => exact .inl rfl

theorem head?_flatMap_escapeChar {s : List Char} (h : (s.flatMap escapeChar).head? = some '/') :
    s.head? = some '/' := by
  cases s with
  | nil => exact h
  | cons c s =>
    rw [List.flatMap_cons] at h
    obtain heq | ⟨t, heq, -⟩ := escapeChar_cases c
    · rw [heq] at h
      exact h
    · rw [heq] at h
      cases h

theorem protectChars_flatMap_escapeChar (s : List Char) :
    protectChars (s.flatMap escapeChar) = (protectChars s).flatMap escapeChar := by
  fun_induction protectChars s with
  | case1 => rfl
  | case2 r ih =>
    have hchars (t : List Char) : ('*' :: t).flatMap escapeChar = '*' :: t.flatMap escapeChar := rfl
    have hslash (t : List Char) : ('/' :: t).flatMap escapeChar = '/' :: t.flatMap escapeChar := rfl
    have hblank (t : List Char) : (' ' :: t).flatMap escapeChar = ' ' :: t.flatMap escapeChar := rfl
    rw [hchars, hchars, hslash, hblank, hslash, protectChars, ih]
  | case3 c r hne ih =>
    rw [List.flatMap_cons, List.flatMap_cons, ← ih]
    obtain heq | ⟨t, heq, ht⟩ := escapeChar_cases c
    · rw [heq]
      refine protectChars_cons fun h => ?_
      obtain ⟨t, ht⟩ := List.head?_eq_some_iff.1 (head?_flatMap_escapeChar h.2)
      exact hne t h.1 ht
    · rw [heq]
      exact protectChars_append_of_not_mem (by simpa using ht)

theorem protectChars_renderText (s : String) :
    protectChars (renderText s) = renderText (protect s) := by
  rw [renderText, renderText, List.cons_append, protectChars_cons (absurd ·.1 (by decide)),
    protectChars_append_cons (by decide) (by decide), protectChars_flatMap_escapeChar,
    toList_protect]
  rfl

theorem protectChars_renderItems {items : List Json}
    (h : ∀ v ∈ items, protectChars v.renderChars = (v.mapTexts protect).renderChars) :
    protectChars (renderItems items) = renderItems (mapItems protect items) := by
  induction items with
  | nil => rfl
  | cons v items ih =>
    obtain ⟨hv, hitems⟩ := List.forall_mem_cons.1 h
    cases items with
    | nil => exact hv
    | cons w items =>
      rw [renderItems_cons_cons, protectChars_append_cons (by decide) (by decide), hv, ih hitems]
      rfl

theorem protectChars_renderMember (key : String) {v : Json}
    (hv : protectChars v.renderChars = (v.mapTexts protect).renderChars) :
    protectChars (renderText key ++ ':' :: v.renderChars) =
      renderText (protect key) ++ ':' :: (v.mapTexts protect).renderChars := by
  rw [protectChars_append_cons (by decide) (by decide), protectChars_renderText, hv]

theorem protectChars_renderFields {fields : List (String × Json)}
    (h : ∀ f ∈ fields, protectChars f.2.renderChars = (f.2.mapTexts protect).renderChars) :
    protectChars (renderFields fields) = renderFields (mapFields protect fields) := by
  induction fields with
  | nil => rfl
  | cons f fields ih =>
    obtain ⟨hf, hfields⟩ := List.forall_mem_cons.1 h
    cases fields with
    | nil => exact protectChars_renderMember f.1 hf
    | cons g fields =>
      rw [renderFields_cons_cons, protectChars_append_cons (by decide) (by decide),
        protectChars_renderMember f.1 hf, ih hfields]
      rfl

theorem protectChars_renderChars (h : Legible n v) :
    protectChars v.renderChars = (v.mapTexts protect).renderChars := by
  induction h with
  | null => decide
  | @bool _ b => cases b <;> decide
  | @nat _ k =>
    have hstar : '*' ∉ Nat.toDigits 10 k := fun h =>
      absurd (Nat.isDigit_of_mem_toDigits (by decide) (by decide) h) (by decide)
    have hkept := protectChars_append_of_not_mem (b := []) hstar
    rwa [← Reader.renderChars_nat, protectChars, List.append_nil] at hkept
  | text => exact protectChars_renderText _
  | array _ ih =>
    rw [renderChars, List.cons_append, protectChars_cons (absurd ·.1 (by decide)),
      protectChars_append_cons (by decide) (by decide), protectChars_renderItems ih]
    rfl
  | object _ ih =>
    rw [renderChars, List.cons_append, protectChars_cons (absurd ·.1 (by decide)),
      protectChars_append_cons (by decide) (by decide), protectChars_renderFields ih]
    rfl

theorem Legible.protect_render (h : Legible n v) :
    protect v.render = (v.mapTexts protect).render := by
  rw [protect, render, String.toList_ofList, protectChars_renderChars h, render]

/-- A value is found again in its protected print, its keys being in order, unless one of its texts
would have closed a comment. -/
theorem sorted_mapTexts_eq_self (hsorted : v.sorted = v) :
    (v.mapTexts protect).sorted = v ↔ ∀ t, Mentions t v → ¬ Closes t.toList := by
  constructor
  · intro h t ht
    rw [← h] at ht
    obtain ⟨s, rfl⟩ := exists_of_mentions_mapTexts (mentions_of_sorted ht)
    rw [toList_protect]
    exact not_closes_protectChars s.toList
  · intro h
    rw [mapTexts_eq_self fun t ht => protect_eq_self.2 (h t ht), hsorted]

end TagTemplate.Json
