import TagTemplate.Proofs.Compile.Run
import TagTemplate.Proofs.Registry

namespace TagTemplate

variable {env : Environment}

def Occurs (code text : String) : Prop := ∃ before after, text = before ++ code ++ after

theorem Occurs.refl (code : String) : Occurs code code := ⟨"", "", by simp⟩

theorem Occurs.trans {a b c : String} (h : Occurs a b) (h' : Occurs b c) : Occurs a c := by
  obtain ⟨before, after, rfl⟩ := h
  obtain ⟨before', after', rfl⟩ := h'
  exact ⟨before' ++ before, after ++ after', by simp only [String.append_assoc]⟩

theorem Occurs.append_left {a b : String} (c : String) (h : Occurs a b) : Occurs a (c ++ b) := by
  obtain ⟨before, after, rfl⟩ := h
  exact ⟨c ++ before, after, by simp only [String.append_assoc]⟩

theorem Occurs.append_right {a b : String} (c : String) (h : Occurs a b) : Occurs a (b ++ c) := by
  obtain ⟨before, after, rfl⟩ := h
  exact ⟨before, after ++ c, by simp only [String.append_assoc]⟩

def Piece.fragment : Piece → String
  | .text _ => ""
  | .code fragment => fragment

theorem TagOutput.occurs_emit (output : TagOutput) (code : String) :
    Occurs code (output.emit code) := by
  cases output with
  | statement => exact .refl code
  | expression => exact ((Occurs.refl code).append_left "echo ").append_right ";\n"

theorem Body.occurs_join {fragment : String} {pieces : List Piece} (h : .code fragment ∈ pieces)
    (run : String) : Occurs fragment (join run pieces) := by
  induction pieces generalizing run with
  | nil => cases h
  | cons piece pieces ih =>
    rcases List.mem_cons.1 h with rfl | hmem
    · exact ((Occurs.refl fragment).append_left (echo run)).append_right (join "" pieces)
    · cases piece with
      | text content => exact ih hmem (run ++ content)
      | code other => exact (ih hmem "").append_left (echo run ++ other)

theorem Include.occurs_callCode (t : Target) (args : String) (assign : Option String) :
    Occurs (t.function ++ "($_tpl);\n") (callCode t args assign) := by
  unfold callCode
  iterate 4 apply Occurs.append_right
  rw [String.append_assoc]
  exact (Occurs.refl _).append_left _

/-! Nodes that emit code make a template one with code. -/

def Draft.Marks {α : Type} (step : Step Draft α) : Prop :=
  ∀ {d a d'}, step.Yields d a d' → d'.hasCode = true

theorem Draft.marks_bind {α β : Type} {x : Step Draft α} {f : α → Step Draft β}
    (h : ∀ a, Marks (f a)) : Marks (x >>= f) := by
  intro d b d' hb
  obtain ⟨a, d₁, -, hf⟩ := Step.yields_bind.1 hb
  exact h a hf

theorem Draft.marks_modify {α : Type} {f : Draft → Draft} (hf : ∀ d, (f d).hasCode = true)
    (a : α) : Marks (modify f >>= fun _ => pure a) := by
  intro d b d' h
  rw [Step.yields_modify_bind] at h
  obtain ⟨-, rfl⟩ := Step.yields_pure.1 h
  exact hf d

theorem Expr.marks_compilePrint (r : Rules) (e : Expr) : Draft.Marks (e.compilePrint r) := by
  apply Draft.marks_bind
  intro _
  apply Draft.marks_bind
  intro code
  exact Draft.marks_modify (fun _ => rfl) _

theorem Special.marks_compileTag (u : TagUse) (attrs : Attributes) :
    Draft.Marks (compileTag u attrs) := by
  apply Draft.marks_bind
  intro var
  apply Draft.marks_bind
  intro code
  exact Draft.marks_modify (fun _ => rfl) _

theorem Work.hasCode_withDraft {α : Type} {step : Step Draft α} {w w' : Work} {a : α}
    (hstep : Draft.Marks step) (h : (Work.withDraft step).Yields w a w') :
    w'.draft.hasCode = true := by
  obtain ⟨d, hd, rfl⟩ := Work.yields_withDraft.1 h
  exact hstep hd

theorem Builtin.hasCode_compile {b : Builtin} {merge : Option Include.Merger} {u : TagUse}
    {attrs : Attributes} {w w' : Work} {code : String}
    (h : (b.compile env merge u attrs).Yields w code w') : w'.draft.hasCode = true := by
  cases b with
  | «include» =>
    obtain ⟨file, vars, sc, t, w₁, -, -, -, rfl⟩ := Include.yields_compile.1 h
    rfl
  | loop =>
    exact Work.hasCode_withDraft (Draft.marks_bind fun _ => Draft.marks_modify (fun _ => rfl) _) h
  | fallback =>
    exact Work.hasCode_withDraft (Draft.marks_bind fun _ => Draft.marks_modify (fun _ => rfl) _) h
  | endLoop =>
    exact Work.hasCode_withDraft (Draft.marks_bind fun _ => Draft.marks_modify (fun _ => rfl) _) h
  | leftDelimiter => exact Work.hasCode_withDraft (Draft.marks_modify (fun _ => rfl) _) h
  | rightDelimiter => exact Work.hasCode_withDraft (Draft.marks_modify (fun _ => rfl) _) h
  | special => exact Work.hasCode_withDraft (Special.marks_compileTag u attrs) h

theorem Work.hasCode_markedBy {w : Work} (h : w.draft.hasCode = true) (code : String) :
    (w.markedBy code).draft.hasCode = true := by
  rwa [Work.markedBy_of_hasCode h]

theorem Tag.hasCode_compile {t : Tag} {merge : Option Include.Merger} {w w' : Work} {code : String}
    (htags : env.tags = Registry.builtin) (h : (t.compile env merge).Yields w code w') :
    w'.draft.hasCode = true := by
  obtain ⟨spec, attrs, plugins, fragment, w₁, hprepared, hspec, -, rfl⟩ := Tag.yields_compile.1 h
  have hknown := hprepared.known
  rw [htags] at hknown
  obtain ⟨b, rfl⟩ := Registry.builtin_of_find? hknown
  exact Work.hasCode_markedBy (Builtin.hasCode_compile hspec) fragment

theorem Node.hasCode_compile {n : Node} {merge : Option Include.Merger} {w w' : Work}
    {piece : Piece} (htags : env.tags = Registry.builtin)
    (h : (n.compile env merge).Yields w piece w')
    (hcode : w.draft.hasCode = true ∨ ∃ fragment, piece = .code fragment) :
    w'.draft.hasCode = true := by
  cases n with
  | text content =>
    obtain ⟨rfl, rfl⟩ := Node.yields_compile_text.1 h
    obtain hcode | ⟨_, hcode⟩ := hcode
    · exact hcode
    · cases hcode
  | print value line =>
    obtain ⟨code, d, hd, -, rfl⟩ := Node.yields_compile_print.1 h
    exact value.marks_compilePrint env.rules hd
  | tag t =>
    obtain ⟨code, ht, -⟩ := Node.yields_compile_tag.1 h
    exact Tag.hasCode_compile htags ht

theorem Run.hasCode {nodes : List Node} {w w' : Work} {pieces : List Piece}
    (htags : env.tags = Registry.builtin) (h : Run env nodes w pieces w')
    (hcode : w.draft.hasCode = true ∨ ∃ fragment, .code fragment ∈ pieces) :
    w'.draft.hasCode = true := by
  induction h with
  | nil =>
    obtain hcode | ⟨_, hcode⟩ := hcode
    · exact hcode
    · cases hcode
  | plain hn _ ih =>
    apply ih
    obtain hcode | ⟨fragment, hcode⟩ := hcode
    · exact .inl (Node.hasCode_compile htags hn (.inl hcode))
    · rcases List.mem_cons.1 hcode with heq | hmem
      · exact .inl (Node.hasCode_compile htags hn (.inr ⟨fragment, heq.symm⟩))
      · exact .inr ⟨fragment, hmem⟩
  | merge m _ _ _ _ _ ih => exact ih (.inl rfl)

end TagTemplate
