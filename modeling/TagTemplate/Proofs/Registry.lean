import TagTemplate.Proofs.Compile.Run
import TagTemplate.Proofs.Table

namespace TagTemplate

def Builtin.name : Builtin → String
  | .loop => "for"
  | .fallback => "forelse"
  | .endLoop => "forclose"
  | .include => "include"
  | .leftDelimiter => "ldelim"
  | .rightDelimiter => "rdelim"
  | .special => "private_special_variable"

theorem Registry.builtin_cases {name : String} {spec : TagSpec}
    (h : builtin.find? name = some spec) : ∃ b : Builtin, name = b.name ∧ spec = b.spec := by
  have hmem := Table.mem_of_find? h
  change (name, spec) ∈ [
    Builtin.loop, .fallback, .endLoop, .include, .leftDelimiter, .rightDelimiter, .special].map
      fun b => (b.name, b.spec) at hmem
  obtain ⟨b, -, hb⟩ := List.mem_map.1 hmem
  exact ⟨b, (congrArg Prod.fst hb).symm, (congrArg Prod.snd hb).symm⟩

theorem Registry.builtin_of_find? {name : String} {spec : TagSpec}
    (h : builtin.find? name = some spec) : ∃ b : Builtin, spec = b.spec := by
  obtain ⟨b, -, hspec⟩ := builtin_cases h
  exact ⟨b, hspec⟩

theorem Registry.find?_special :
    builtin.find? "private_special_variable" = some Builtin.special.spec :=
  rfl

theorem Registry.output_of_find? {name : String} {spec : TagSpec}
    (h : builtin.find? name = some spec) :
    spec.output = .expression ↔ name = Builtin.special.name := by
  obtain ⟨b, rfl, rfl⟩ := builtin_cases h
  cases b <;> decide

variable {env : Environment}

theorem Tag.Prepared.eq_special {t : Tag} {spec : TagSpec} {attrs : Attributes}
    {plugins plugins' : Plugins} (h : t.Prepared env spec attrs plugins plugins')
    (htags : env.tags = Registry.builtin) (hname : dispatchName t.name = Builtin.special.name) :
    spec = Builtin.special.spec := by
  have hknown := h.known
  rw [htags, hname, Builtin.name, Registry.find?_special] at hknown
  exact (Option.some.inj hknown).symm

theorem Merging.name_ne_special {t : Tag} {w : Work} (m : Merging env t w)
    (htags : env.tags = Registry.builtin) : dispatchName t.name ≠ Builtin.special.name := by
  intro hname
  have hinclude := m.isInclude
  rw [m.prepared.eq_special htags hname] at hinclude
  cases hinclude

end TagTemplate
