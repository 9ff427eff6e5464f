import TagTemplate.Proofs.Compile.Eligibility
import TagTemplate.Proofs.Host.Comment

namespace TagTemplate

open Text

def Text.naming (label text after : String) : String :=
  label ++ "\"" ++ protect text ++ "\"" ++ after

/-- The quotes keep what is around the text from closing the comment together with it. -/
theorem Text.not_closes_naming {label after : String} (hlabel : ¬ Closes label.toList)
    (hafter : ¬ Closes after.toList) (text : String) :
    ¬ Closes (naming label text after).toList := by
  have hparts : (naming label text after).toList =
      label.toList ++ '"' :: (protectChars text.toList ++ '"' :: after.toList) := by
    simp [naming, toList_protect]
  rw [hparts, closes_append_cons (by decide) (by decide),
    closes_append_cons (by decide) (by decide)]
  simp [hlabel, hafter, not_closes_protectChars]

theorem Host.comments_naming {label after : String} (hlabel : ¬ Closes label.toList)
    (hafter : ¬ Closes after.toList) (text rest : String) :
    Comments (naming label text after) ("/*" ++ naming label text after ++ "*/" ++ rest) rest :=
  comments_of_not_closes (not_closes_naming hlabel hafter text) rest

namespace Artifact

variable (a : Artifact)

def remark : String :=
  naming " stencil compiled " a.name (" " ++ protect a.properties.render ++ " ")

theorem header_eq : a.header = "/*" ++ a.remark ++ "*/" ++ "\n" := by
  unfold header remark naming
  generalize protect a.name = name
  generalize protect a.properties.render = properties
  have hopening : "/* stencil compiled \"" = "/*" ++ " stencil compiled " ++ "\"" := rfl
  have hquote : "\" " = "\"" ++ " " := rfl
  have hclosing : " */\n" = " " ++ "*/" ++ "\n" := rfl
  simp only [hopening, hquote, hclosing, String.append_assoc]

theorem comments_header : Host.Comments a.remark a.header "\n" := by
  have hproperties : ¬ Closes (" " ++ protect a.properties.render ++ " ").toList := by
    generalize a.properties.render = properties
    have hparts : (" " ++ protect properties ++ " ").toList =
        ' ' :: (protectChars properties.toList ++ [' ']) := by
      simp [toList_protect]
    rw [hparts, closes_cons_of_ne (by decide), closes_append_cons (by decide) (by decide)]
    simp [not_closes_protectChars]
  rw [header_eq]
  exact Host.comments_naming (by decide +kernel) hproperties a.name "\n"

def functionTexts : String :=
  String.join (a.functions.entries.map fun (name, body) => functionText name body) ++
    functionText a.function a.body

theorem render_eq : a.render = "<?php\n" ++ a.header ++ a.functionTexts := by
  rw [render, functionTexts, String.append_assoc]

end Artifact

namespace Include

def startRemark (template : String) : String :=
  naming "  Call merged included template " template " "

def endRemark (template : String) : String :=
  naming "  End of included template " template " "

theorem comments_startComment (template : String) :
    Host.Comments (startRemark template) (startComment template) "\n" := by
  have hcode : startComment template = "/*" ++ startRemark template ++ "*/" ++ "\n" := by
    unfold startComment startRemark naming
    generalize protect template = template
    have hopening : "/*  Call merged included template \"" =
      "/*" ++ "  Call merged included template " ++ "\"" := rfl
    have hclosing : "\" */\n" = "\"" ++ " " ++ "*/" ++ "\n" := rfl
    simp only [hopening, hclosing, String.append_assoc]
  rw [hcode]
  exact Host.comments_naming (by decide +kernel) (by decide +kernel) template "\n"

theorem comments_endComment (template : String) :
    Host.Comments (endRemark template) (endComment template) "\n" := by
  have hcode : endComment template = "/*" ++ endRemark template ++ "*/" ++ "\n" := by
    unfold endComment endRemark naming
    generalize protect template = template
    have hopening : "/*  End of included template \"" =
      "/*" ++ "  End of included template " ++ "\"" := rfl
    have hclosing : "\" */\n" = "\"" ++ " " ++ "*/" ++ "\n" := rfl
    simp only [hopening, hclosing, String.append_assoc]
  rw [hcode]
  exact Host.comments_naming (by decide +kernel) (by decide +kernel) template "\n"

def frameCode (t : Target) (args : String) (assign : Option String) : String :=
  "$_tpl_stack[] = $_tpl;\n" ++
  " $_tpl = $_tpl->setupInlineSubTemplate(" ++ args ++ ");\n" ++
  (if assign.isSome then "ob_start(); " else "") ++
  t.function ++ "($_tpl);\n" ++
  "$_tpl = array_pop($_tpl_stack); " ++
  (match assign with
    | some var => " " ++ Code.varAt var ++ " = new TplVar(ob_get_clean());"
    | none => "") ++
  "\n"

theorem callCode_eq (t : Target) (args : String) (assign : Option String) :
    callCode t args assign =
      startComment t.template ++ frameCode t args assign ++ endComment t.template := by
  unfold callCode frameCode
  generalize startComment t.template = start
  generalize endComment t.template = finish
  cases assign <;> simp only [String.append_assoc]

end Include

/-- A protected text closes no comment, and protecting it changes nothing if it would not have. So
the header of an artifact is one comment, which ends where its terminator is written, and so is each
of the two comments around the call of a merged template, whatever the names and the properties. -/
theorem comments_close_once :
    (∀ s, ¬ Closes (protect s).toList ∧ (protect s = s ↔ ¬ Closes s.toList) ∧
      protect (protect s) = protect s) ∧
    (∀ a : Artifact, a.render = "<?php\n" ++ a.header ++ a.functionTexts ∧
      a.header = "/*" ++ a.remark ++ "*/" ++ "\n" ∧ Host.Comments a.remark a.header "\n") ∧
    ∀ {env merge u attrs w fragment w'},
      (Include.compile env merge u attrs).Yields w fragment w' →
      ∃ file vars scope target, fragment = Include.codeFor attrs file vars scope target ∧
        ∀ t, target = some t → ∃ call,
          fragment = Include.startComment t.template ++ call ++ Include.endComment t.template ∧
          Host.Comments (Include.startRemark t.template) (Include.startComment t.template) "\n" ∧
          Host.Comments (Include.endRemark t.template) (Include.endComment t.template) "\n" := by
  refine ⟨fun s => ?_, fun a => ⟨a.render_eq, a.header_eq, a.comments_header⟩, ?_⟩
  · have hprotected : ¬ Closes (protect s).toList := by
      rw [toList_protect]
      exact not_closes_protectChars s.toList
    exact ⟨hprotected, protect_eq_self, protect_eq_self.2 hprotected⟩
  · intro env merge u attrs w fragment w' h
    obtain ⟨file, vars, scope, target, _, -, -, rfl, -⟩ := Include.yields_compile.1 h
    refine ⟨file, vars, scope, target, rfl, ?_⟩
    rintro t rfl
    exact ⟨_, Include.callCode_eq t _ _, Include.comments_startComment t.template,
      Include.comments_endComment t.template⟩

theorem comments_close_once_sample :
    ∃ env merge u attrs w fragment w', attrs.requireCode "file" = .ok "'x**/y'" ∧
      (Include.compile env merge u attrs).Yields w fragment w' ∧ ∃ t call,
        fragment = Include.startComment t ++ call ++ Include.endComment t ∧
        Host.Comments (Include.startRemark t) (Include.startComment t) "\n" ∧
        Host.Comments (Include.endRemark t) (Include.endComment t) "\n" := by
  let env := Environment.sample none
  let u : TagUse := ⟨env.rules, "include", 1, 0⟩
  let attrs : Attributes := { values := ⟨[("file", .code "'x**/y'")]⟩ }
  let k := Include.key "'x**/y'" none
  let records := (∅ : Table MergeKey Merged).insert k ⟨"content", k.template, ""⟩
  let w : Work := ⟨Draft.start .sample false, { session := { records } }⟩
  have hreads : Include.Reads u attrs "'x**/y'" "array()" .local := ⟨rfl, rfl, rfl⟩
  have hfunction : w.pass.session.function? k = some "content" := by
    simp [w, records, Session.function?]
  have htarget : (Include.target env none u attrs "'x**/y'").Yields w
      (some ⟨k.template, "content"⟩) w :=
    Include.yields_target.2 (.inr ⟨⟨rfl, rfl, by decide⟩, .inl ⟨"content", hfunction, rfl, rfl⟩⟩)
  have hyields := Include.yields_compile.2 ⟨_, _, _, _, _, hreads, htarget, rfl, rfl⟩
  obtain ⟨file, vars, scope, target, hcode, hcomments⟩ := comments_close_once.2.2 hyields
  refine ⟨env, none, u, attrs, w, _, _, rfl, hyields, ?_⟩
  cases target with
  | none =>
    have hcall : Include.dispatchCode (Include.arguments attrs file vars scope)
        (attrs.code? "assign") = Include.callCode ⟨k.template, "content"⟩ _ _ := hcode.symm
    exact (Include.dispatchCode_ne_callCode hcall).elim
  | some t =>
    obtain ⟨call, h⟩ := hcomments t rfl
    exact ⟨t.template, call, h⟩

end TagTemplate
