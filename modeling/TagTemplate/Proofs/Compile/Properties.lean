import TagTemplate.Proofs.Compile.Comments
import TagTemplate.Proofs.Json.Texts

namespace TagTemplate

theorem Dependency.legible_toJson (d : Dependency) : d.toJson.Legible 1 := by
  refine .object ?_
  simp only [List.forall_mem_cons]
  exact ⟨.text, .nat d.timestamp.toNat_lt, .text, nofun⟩

theorem Plugin.legible_toJson (p : Plugin) : p.toJson.Legible 1 := by
  refine .object ?_
  simp only [List.forall_mem_cons]
  exact ⟨.text, .text, nofun⟩

namespace Artifact

variable (a : Artifact)

def propertiesText : String := Text.protect a.properties.render

theorem legible_properties : a.properties.Legible 3 := by
  have hdependencies : a.dependencies.toJson.Legible 2 :=
    Json.legible_object_map fun f _ => f.2.legible_toJson
  have hplugins : a.plugins.toJson.Legible 2 :=
    Json.legible_object_map fun f _ => f.2.legible_toJson
  refine Json.Legible.sorted (.object ?_)
  simp only [List.forall_mem_cons]
  exact ⟨.text, .text, .bool, hdependencies, hplugins, Json.legible_texts 1 _, nofun⟩

theorem read_propertiesText :
    Json.read a.propertiesText = .ok (a.properties.mapTexts Text.protect) := by
  rw [propertiesText, a.legible_properties.protect_render]
  exact a.legible_properties.mapTexts.read_render (by decide)

theorem sorted_properties : a.properties.sorted = a.properties := Json.sorted_sorted _

end Artifact

/-- The JSON text in the header of an artifact is the print of its properties with each text in them
protected, keys too, and is read back as that. So it is read back as the properties themselves
unless one of these texts has a star followed by a slash. -/
theorem header_carries_properties (a : Artifact) :
    a.render = "<?php\n" ++ a.header ++ a.functionTexts ∧
    a.header = "/* stencil compiled \"" ++ Text.protect a.name ++ "\" " ++ a.propertiesText ++
      " */\n" ∧
    Json.read a.propertiesText = .ok (a.properties.mapTexts Text.protect) ∧
    ((Json.read a.propertiesText).map Json.sorted = .ok a.properties ↔
      ∀ t, Json.Mentions t a.properties → ¬ Text.Closes t.toList) := by
  refine ⟨a.render_eq, rfl, a.read_propertiesText, ?_⟩
  rw [← Json.sorted_mapTexts_eq_self a.sorted_properties, a.read_propertiesText]
  exact ⟨Except.ok.inj, congrArg Except.ok⟩

/-- A template whose path has a star before a slash. -/
theorem header_alters_properties : ∃ a trust,
    (compileArtifact (.ofNodes [.text "P"]) "a*/b" false).Yields {} a trust ∧
      (Json.read a.propertiesText).map Json.sorted ≠ .ok a.properties := by
  obtain ⟨a, trust, h, haltered⟩ : ∃ a trust,
      (compileArtifact (.ofNodes [.text "P"]) "a*/b" false).Yields {} a trust ∧
        ((a.properties.mapTexts Text.protect).sorted.render != a.properties.render) = true :=
    Step.exists_yields (by decide +kernel)
  refine ⟨a, trust, h, fun hread => ?_⟩
  rw [a.read_propertiesText] at hread
  exact bne_iff_ne.1 haltered (congrArg Json.render (Except.ok.inj hread))

end TagTemplate
