import TagTemplate.Proofs.Compile.Run
import TagTemplate.Proofs.Host.Integer
import TagTemplate.Proofs.Text.Quoting

namespace TagTemplate

theorem Text.mem_stripChars {p : Char → Bool} {c : Char} (hc : p c = false) {s : List Char} :
    c ∈ stripChars p s ↔ c ∈ s := by
  obtain ⟨a, b, heq, ha, hb⟩ := Host.stripChars_parts p s
  have hnot {t : List Char} (ht : t.all p = true) : c ∉ t := fun h =>
    Bool.false_ne_true (hc.symm.trans (List.all_eq_true.1 ht c h))
  conv_rhs => rw [heq]
  simp [hnot ha, hnot hb]

namespace Special

variable {r : Rules} {name : String} {member : Option String}

def names : List String := requestNames ++ [
  "foreach", "section", "capture", "now", "template", "template_object", "current_dir", "version",
  "const", "config", "ldelim", "rdelim"]

theorem code_unknown (name : String) : (unknown name).code = "STENCIL_E_SPECIAL_VAR" := rfl

theorem compile_of_not_mem_names (h : Text.stripQuotes name ∉ names) :
    compile r name member = .error (unknown (Text.stripQuotes name)) := by
  rw [names, List.mem_append, not_or] at h
  obtain ⟨hrequest, hother⟩ := h
  have hcontains : requestNames.contains (Text.stripQuotes name) = false := by
    simpa using hrequest
  simp only [compile, hcontains, Bool.false_eq_true, if_false]
  split
  all_goals first | rfl | simp_all

end Special

def Tag.ofSpecial (name : String) (member : Option String) (variant : UInt8) (line : Line) :
    Tag where
  name := "private_special_variable"
  args := (Text.quote name :: member.toList).map fun code => .positional (.expr (.code code))
  variant
  line

variable {env : Environment}

theorem Step.run_ofExcept {σ α : Type} (r : Except CompileError α) (s : σ) :
    (ofExcept r : Step σ α).run s = (r, s) := by
  cases r <;> rfl

def Work.printing (w : Work) : Except CompileError String → Except CompileError String × Work
  | .ok code => (.ok (Code.print code), { w with draft := w.draft.marked })
  | .error e => (.error e, w)

theorem Expr.run_compile_special (r : Rules) (name : String) (member : Option String)
    (plugins : Plugins) :
    ((Expr.special name member).compile r).run plugins =
      (Special.compile r name member, plugins) := by
  rw [Expr.compile, Step.run_ofExcept]

theorem Expr.run_compilePrint_special (henforced : env.config.enforcedModifiers = [])
    (name : String) (member : Option String) (w : Work) :
    (Work.withDraft ((Expr.special name member).compilePrint env.rules)).run w =
      w.printing (Special.compile env.rules name member) := by
  have hcheck : (Expr.special name member).checkEnforced env.rules.config = .ok () := by
    have hnames : env.rules.config.enforcedModifiers = [] := henforced
    simp [Expr.checkEnforced, hnames]
  have hcode : (Draft.withPlugins ((Expr.special name member).compile env.rules)).run w.draft =
      (Special.compile env.rules name member, w.draft) := by
    rw [Draft.withPlugins, Step.run_within, Expr.run_compile_special]
  rw [Work.withDraft, Step.run_within, Expr.compilePrint]
  simp only [Step.run_bind, Step.run_ofExcept, hcheck, hcode]
  cases Special.compile env.rules name member <;> rfl

theorem Rules.check_special (r : Rules) : r.check .tag "private_special_variable" = .ok () := by
  unfold check Policy.check
  split
  next p _ =>
    have hpermits : p.permits .tag "private_special_variable" = true := rfl
    rw [hpermits, if_pos rfl]
  next => rfl

def Special.reread (name : String) : String :=
  (Text.unquote (Text.quote name)).getD (Text.quote name)

def Special.arguments (name : String) (member : Option String) : List Arg :=
  (Text.quote name :: member.toList).map fun code => .positional (.code code)

def Special.attributes (name : String) : Option String → Attributes
  | some m => { values := ⟨[("var", .code (Text.quote name)), ("member", .code m)]⟩ }
  | none => { values := ⟨[("var", .code (Text.quote name))]⟩ }

theorem Special.resolve_arguments (name : String) (member : Option String) :
    Attributes.resolve contract (arguments name member) = .ok (attributes name member) := by
  cases member <;> rfl

theorem Tag.run_args_ofSpecial (name : String) (member : Option String) (variant : UInt8)
    (line : Line) (w : Work) :
    (Work.withDraft (Draft.withPlugins ((Tag.ofSpecial name member variant line).args.mapM
      (TagArg.compile env.rules)))).run w = (.ok (Special.arguments name member), w) := by
  cases member <;> rfl

theorem Special.run_compileTag (u : TagUse) (name : String) (member : Option String) (d : Draft) :
    (compileTag u (attributes name member)).run d =
      match compile u.rules (reread name) member with
      | .ok code => (.ok code, d.marked)
      | .error e => (.error e, d) := by
  have hvar : (attributes name member).requireCode "var" = .ok (Text.quote name) := by
    cases member <;> rfl
  have hmember : (attributes name member).code? "member" = member := by
    cases member <;> rfl
  have hrequire : u.require (.ok (Text.quote name)) = .ok (Text.quote name) := rfl
  have hreread : (Text.unquote (Text.quote name)).getD (Text.quote name) = reread name := rfl
  simp only [compileTag, hvar, hmember, hrequire, Step.run_bind, Step.run_ofExcept, hreread]
  cases compile u.rules (reread name) member <;> rfl

theorem Tag.run_compile_ofSpecial (merge : Option Include.Merger)
    (htag : env.tags.find? "private_special_variable" = some Builtin.special.spec) (name : String)
    (member : Option String) (variant : UInt8) (line : Line) (w : Work) :
    ((Tag.ofSpecial name member variant line).compile env merge).run w =
      w.printing (Special.compile env.rules (Special.reread name) member) := by
  have hname : dispatchName (Tag.ofSpecial name member variant line).name =
      "private_special_variable" :=
    (by decide : dispatchName "private_special_variable" = "private_special_variable")
  have hvariant : (Tag.ofSpecial name member variant line).variant = variant := rfl
  have hline : (Tag.ofSpecial name member variant line).line = line := rfl
  have hattrs : Attributes.resolve (Builtin.special.spec.contract variant)
      (Special.arguments name member) = .ok (Special.attributes name member) :=
    Special.resolve_arguments name member
  have hcode : ((Builtin.special.spec).compile env merge
      ⟨env.rules, "private_special_variable", line, variant⟩
      (Special.attributes name member)).run w =
      match Special.compile env.rules (Special.reread name) member with
      | .ok code => (.ok code, { w with draft := w.draft.marked })
      | .error e => (.error e, w) := by
    change (Work.withDraft (Special.compileTag _ _)).run w = _
    rw [Work.withDraft, Step.run_within, Special.run_compileTag]
    cases Special.compile env.rules (Special.reread name) member <;> rfl
  rw [Tag.compile, hname, Rules.check_special, htag]
  simp only [Step.run_bind, Step.run_ofExcept, Tag.run_args_ofSpecial, hvariant, hline, hattrs,
    hcode]
  cases Special.compile env.rules (Special.reread name) member with
  | ok code =>
    dsimp only
    split <;> rfl
  | error e => rfl

/-- A name that the tag cannot read back is the name of no special variable. -/
theorem Special.compile_reread (r : Rules) (name : String) (member : Option String) :
    compile r (reread name) member = compile r name member ∨
      ∃ e e', compile r (reread name) member = .error e ∧ compile r name member = .error e' ∧
        e.code = e'.code := by
  rw [reread, Text.unquote, Text.toList_quote, Text.trimChars_quoteChars,
    Text.unquoteChars_quoteChars]
  split
  next h =>
    -- The quotes around the literal are stripped from either text, but nothing else that matters.
    have hnames : ∀ known ∈ names, '(' ∉ known.toList ∧ '$' ∉ known.toList := by decide
    have hname (code : String) (hcode : '(' ∈ code.toList ∨ '$' ∈ code.toList) :
        Text.stripQuotes code ∉ names := by
      intro hmem
      have hclean := hnames _ hmem
      rw [Text.stripQuotes, Text.toList_strip, Text.mem_stripChars (by decide),
        Text.mem_stripChars (by decide)] at hclean
      exact hcode.elim hclean.1 hclean.2
    have hquoted : '(' ∈ (Text.quote name).toList ∨ '$' ∈ (Text.quote name).toList := by
      rwa [Text.toList_quote, Text.mem_quoteChars (by decide) (by decide),
        Text.mem_quoteChars (by decide) (by decide)]
    rw [Option.map_none, Option.getD_none, compile_of_not_mem_names (hname _ hquoted),
      compile_of_not_mem_names (hname _ h)]
    exact .inr ⟨_, _, rfl, rfl, (code_unknown _).trans (code_unknown _).symm⟩
  next => exact .inl (by rw [Option.map_some, String.ofList_toList, Option.getD_some])

theorem CompileError.code_atLine (e : CompileError) (line : Line) :
    (e.atLine line).code = e.code := by
  unfold atLine
  split <;> rfl

/-- From a state the steps yield the same and leave the same state, or they both fail, with errors
that have one code, and leave the same state. -/
inductive Step.Alike {σ α : Type} (x y : Step σ α) (s : σ) : Prop where
  | yields {a : α} {s' : σ} : x.run s = (.ok a, s') → y.run s = (.ok a, s') → Alike x y s
  | fails {e e' : CompileError} {s' : σ} : x.run s = (.error e, s') → y.run s = (.error e', s') →
    e.code = e'.code → Alike x y s

theorem Step.alike_of_run_eq {σ α : Type} {x y : Step σ α} {s : σ} (h : x.run s = y.run s) :
    Alike x y s := by
  rcases hy : (y.run s : Except CompileError α × σ) with ⟨r, s'⟩
  cases r with
  | ok a => exact .yields (h.trans hy) hy
  | error e => exact .fails (h.trans hy) hy rfl

theorem Step.Alike.bind_atLine {σ α β : Type} {x y : Step σ α} {s : σ} (h : Alike x y s)
    (line line' : Line) (f : α → Step σ β) :
    Alike (atLine line x >>= f) (atLine line' y >>= f) s := by
  cases h with
  | yields hx hy =>
    refine alike_of_run_eq ?_
    rw [run_bind, run_bind, run_atLine, run_atLine, hx, hy]
    rfl
  | @fails e e' s' hx hy hcode =>
    have hx' : (atLine line x >>= f).run s = (.error (e.atLine line), s') := by
      rw [run_bind, run_atLine, hx]
      rfl
    have hy' : (atLine line' y >>= f).run s = (.error (e'.atLine line'), s') := by
      rw [run_bind, run_atLine, hy]
      rfl
    refine .fails hx' hy' ?_
    rw [CompileError.code_atLine, CompileError.code_atLine, hcode]

/-- Where no modifier is enforced, a special variable may as well be written as a tag with the
literal of its name, whatever the policy: the two print the same code and leave the same state, or
they fail with the same code. -/
theorem special_spellings_alike (henforced : env.config.enforcedModifiers = [])
    (htag : env.tags.find? "private_special_variable" = some Builtin.special.spec)
    (merge : Option Include.Merger) (name : String) (member : Option String) (variant : UInt8)
    (line line' : Line) (w : Work) :
    Step.Alike ((Node.tag (.ofSpecial name member variant line)).compile env merge)
      ((Node.print (.special name member) line').compile env merge) w := by
  have htagged := Tag.run_compile_ofSpecial merge htag name member variant line w
  have hprinted := Expr.run_compilePrint_special henforced name member w
  refine Step.Alike.bind_atLine ?_ line line' _
  obtain h | ⟨e, e', h, h', hcode⟩ := Special.compile_reread env.rules name member
  · rw [h] at htagged
    exact Step.alike_of_run_eq (htagged.trans hprinted.symm)
  · rw [h] at htagged
    rw [h'] at hprinted
    exact .fails htagged hprinted hcode

theorem special_spellings_alike_sample :
    let env := Environment.sample none
    let w : Work := ⟨Draft.start .sample false, {}⟩
    let tag (name : String) := (Node.tag (.ofSpecial name (some "'q'") 0 3)).compile env none
    let print (name : String) := (Node.print (.special name (some "'q'")) 3).compile env none
    env.config.enforcedModifiers = [] ∧
    env.tags.find? "private_special_variable" = some Builtin.special.spec ∧
    Step.Alike (tag "get") (print "get") w ∧
    (∃ w', (print "get").Yields w (.code "echo tpl_safe_lookup($_GET, 'q', 1);\n") w') ∧
    Step.Alike (tag "'(get)") (print "'(get)") w ∧
    (print "'(get)").Fails w (.located (.specialVariable "$smarty.(get)") 3) := by
  intro env w tag print
  have htag : env.tags.find? "private_special_variable" = some Builtin.special.spec := rfl
  have halike (name : String) : Step.Alike (tag name) (print name) w :=
    special_spellings_alike rfl htag none name (some "'q'") 0 3 3 w
  obtain ⟨piece, w', hyields, hpiece⟩ : ∃ piece w', (print "get").Yields w piece w' ∧
      (piece == .code "echo tpl_safe_lookup($_GET, 'q', 1);\n") = true :=
    Step.exists_yields (by decide +kernel)
  obtain ⟨e, hfails, he⟩ : ∃ e, (print "'(get)").Fails w e ∧
      (e == .located (.specialVariable "$smarty.(get)") 3) = true :=
    Step.exists_fails (by decide +kernel)
  rw [beq_iff_eq.1 hpiece] at hyields
  rw [beq_iff_eq.1 he] at hfails
  exact ⟨rfl, htag, halike "get", ⟨w', hyields⟩, halike "'(get)", hfails⟩

end TagTemplate
