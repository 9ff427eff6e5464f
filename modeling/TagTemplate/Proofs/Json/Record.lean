import TagTemplate.Json.Record
import TagTemplate.Proofs.Json.RoundTrip

namespace TagTemplate.Json

variable {α : Type} {fields : List (String × Json)} {names : List String} {name : String} {v : Json}

theorem record?_object (hnames : fields.map Prod.fst = names) (hnodup : names.Nodup) :
    record? names (.object fields) = some fields := by
  have hknown : fields.filter (fun f => names.contains f.1) = fields :=
    List.filter_eq_self.2 fun f hf => List.contains_iff_mem.2 (hnames ▸ List.mem_map_of_mem hf)
  simp only [record?, hknown, hnames, hnodup, if_true]

theorem readRecord_render {n : Nat} {f : List (String × Json) → Option α} {a : α}
    (hlegible : Legible n (.object fields)) (hn : n ≤ Reader.depthLimit)
    (hnames : fields.map Prod.fst = names) (hnodup : names.Nodup) (hf : f fields = some a) :
    readRecord names f (Json.object fields).render = .ok a := by
  have hread : readKnown names.contains (Json.object fields).render = .ok (.object fields) :=
    hlegible.readKnown_render hn fun k hk => List.contains_iff_mem.2 (hnames ▸ hk)
  have hfields : (record? names (.object fields)).bind f = some a := by
    rw [record?_object hnames hnodup, Option.bind_some, hf]
  simp only [readRecord, hread, hfields]

end TagTemplate.Json
