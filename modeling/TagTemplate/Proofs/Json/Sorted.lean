import TagTemplate.Json.Value

namespace TagTemplate.Json

@[elab_as_elim]
theorem byMembers {P : Json → Prop} (null : P .null) (bool : ∀ b, P (.bool b))
    (number : ∀ n, P (.number n)) (text : ∀ s, P (.text s))
    (array : ∀ items, (∀ v ∈ items, P v) → P (.array items))
    (object : ∀ fields, (∀ f ∈ fields, P f.2) → P (.object fields)) : (v : Json) → P v
  | .null => null
  | .bool b => bool b
  | .number n => number n
  | .text s => text s
  | .array items => array items fun v _ => byMembers null bool number text array object v
  | .object fields => object fields fun f hf =>
    have hsmaller : sizeOf f.2 < 1 + sizeOf fields := by
      have hmember := List.sizeOf_lt_of_mem hf
      rw [Prod.mk.sizeOf_spec] at hmember
      omega
    byMembers null bool number text array object f.2

variable {f g : String × Json} {fields acc : List (String × Json)} {v : Json}

def Ascending (fields : List (String × Json)) : Prop := fields.Pairwise fun f g => f.1 < g.1

theorem mem_insertField (h : g ∈ insertField f fields) : g = f ∨ g ∈ fields := by
  induction fields with
  | nil => exact .inl (List.mem_singleton.1 h)
  | cons d r ih =>
    unfold insertField at h
    split at h
    next => exact (List.mem_cons.1 h).imp_right (List.mem_cons_of_mem d)
    next =>
      split at h
      next => exact List.mem_cons.1 h
      next =>
        obtain rfl | h := List.mem_cons.1 h
        · exact .inr List.mem_cons_self
        · exact (ih h).imp_right (List.mem_cons_of_mem d)

theorem ascending_insertField (h : Ascending fields) : Ascending (insertField f fields) := by
  induction fields with
  | nil => exact List.pairwise_singleton ..
  | cons d r ih =>
    obtain ⟨hd, hr⟩ := List.pairwise_cons.1 h
    unfold insertField
    split
    next heq => exact List.pairwise_cons.2 ⟨fun g hg => heq ▸ hd g hg, hr⟩
    next hne =>
      split
      next hlt =>
        refine List.pairwise_cons.2 ⟨fun g hg => ?_, h⟩
        obtain rfl | hg := List.mem_cons.1 hg
        · exact hlt
        · exact String.lt_trans hlt (hd g hg)
      next hle =>
        have hlt : d.1 < f.1 := Std.lt_of_le_of_ne (String.not_lt.1 hle) (Ne.symm hne)
        refine List.pairwise_cons.2 ⟨fun g hg => ?_, ih hr⟩
        obtain rfl | hg := mem_insertField hg
        · exact hlt
        · exact hd g hg

theorem insertField_of_forall_lt (h : ∀ g ∈ fields, g.1 < f.1) :
    insertField f fields = fields ++ [f] := by
  induction fields with
  | nil => rfl
  | cons d r ih =>
    obtain ⟨hd, hr⟩ := List.forall_mem_cons.1 h
    have hne : f.1 ≠ d.1 := fun heq => String.lt_irrefl _ (heq ▸ hd)
    rw [insertField, if_neg hne, if_neg (String.lt_asymm hd), ih hr, List.cons_append]

theorem mem_foldl_insertField
    (h : g ∈ fields.foldl (fun acc f => insertField f acc) acc) : g ∈ acc ∨ g ∈ fields := by
  induction fields generalizing acc with
  | nil => exact .inl h
  | cons d r ih =>
    obtain h | h := ih h
    · obtain rfl | h := mem_insertField h
      · exact .inr List.mem_cons_self
      · exact .inl h
    · exact .inr (List.mem_cons_of_mem d h)

theorem mem_sortFields (h : g ∈ sortFields fields) : g ∈ fields :=
  (mem_foldl_insertField h).resolve_left List.not_mem_nil

theorem ascending_sortFields (fields : List (String × Json)) : Ascending (sortFields fields) := by
  have hfold (acc : List (String × Json)) (hacc : Ascending acc) :
      Ascending (fields.foldl (fun acc f => insertField f acc) acc) := by
    induction fields generalizing acc with
    | nil => exact hacc
    | cons d r ih => exact ih _ (ascending_insertField hacc)
  exact hfold [] List.Pairwise.nil

theorem sortFields_of_ascending (h : Ascending fields) : sortFields fields = fields := by
  have hfold (acc : List (String × Json)) (hacc : Ascending (acc ++ fields)) :
      fields.foldl (fun acc f => insertField f acc) acc = acc ++ fields := by
    induction fields generalizing acc with
    | nil => exact (List.append_nil acc).symm
    | cons d r ih =>
      have hlast : ∀ g ∈ acc, g.1 < d.1 := fun g hg =>
        (List.pairwise_append.1 hacc).2.2 g hg d List.mem_cons_self
      have hsplit : acc ++ d :: r = acc ++ [d] ++ r := (List.append_assoc acc [d] r).symm
      rw [List.foldl_cons, insertField_of_forall_lt hlast, hsplit]
      exact ih (List.pairwise_cons.1 h).2 _ (hsplit ▸ hacc)
  exact hfold [] h

theorem sortedItems_eq_map (items : List Json) : sortedItems items = items.map sorted := by
  induction items with
  | nil => rfl
  | cons v items ih => rw [sortedItems, ih, List.map_cons]

theorem sortedFields_eq_map (fields : List (String × Json)) :
    sortedFields fields = fields.map fun f => (f.1, f.2.sorted) := by
  induction fields with
  | nil => rfl
  | cons f fields ih =>
    rw [sortedFields, ih]
    rfl

theorem mem_sortedFields (h : g ∈ sortFields (sortedFields fields)) :
    ∃ f ∈ fields, g = (f.1, f.2.sorted) := by
  rw [sortedFields_eq_map] at h
  obtain ⟨f, hf, rfl⟩ := List.mem_map.1 (mem_sortFields h)
  exact ⟨f, hf, rfl⟩

theorem sorted_sorted (v : Json) : v.sorted.sorted = v.sorted := by
  induction v using byMembers with
  | array items ih =>
    rw [sorted, sorted, sortedItems_eq_map, sortedItems_eq_map, List.map_map]
    exact congrArg array (List.map_congr_left ih)
  | object fields ih =>
    have hvalues : sortedFields (sortFields (sortedFields fields)) =
        sortFields (sortedFields fields) := by
      have hvalue : ∀ g ∈ sortFields (sortedFields fields), (g.1, g.2.sorted) = id g := by
        intro g hg
        obtain ⟨f, hf, rfl⟩ := mem_sortedFields hg
        rw [ih f hf]
        rfl
      rw [sortedFields_eq_map (sortFields _), List.map_congr_left hvalue, List.map_id]
    rw [sorted, sorted, hvalues, sortFields_of_ascending (ascending_sortFields _)]
  | _ => rfl

end TagTemplate.Json
