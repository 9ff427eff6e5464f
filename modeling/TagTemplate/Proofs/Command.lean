import Mathlib.Data.List.Induction
import Mathlib.Data.List.Perm.Basic
import TagTemplate.Command

namespace TagTemplate

theorem Flag.ofText?_eq_some_iff {s : String} {flag : Flag} :
    Flag.ofText? s = some flag ↔ flag.text = s := by
  constructor
  · intro h
    simpa using List.find?_some h
  · rintro rfl
    cases flag <;> rfl

theorem Flag.ofText?_eq_none_iff {s : String} :
    Flag.ofText? s = none ↔ ∀ flag : Flag, flag.text ≠ s := by
  rw [Option.eq_none_iff_forall_ne_some]
  exact forall_congr' fun flag => not_congr ofText?_eq_some_iff

theorem Flag.text_injective : Function.Injective Flag.text := by
  intro flag other h
  rw [← Option.some_inj, ← ofText?_eq_some_iff.2 h, ofText?_eq_some_iff.2 rfl]

namespace Command

def Dashed (token : String) : Prop := "--".toList <+: token.toList

instance (token : String) : Decidable (Dashed token) := inferInstanceAs (Decidable (_ <+: _))

inductive Word where
  | name (text : String)
  | option (flag : Flag) (value : String)
  deriving Repr, DecidableEq

def Word.tokens : Word → List String
  | .name text => [text]
  | .option flag value => [flag.text, value]

/-- A name may not look like a flag, the value of a flag may. -/
def Word.Fits : Word → Prop
  | .name text => ¬ Dashed text
  | .option _ _ => True

instance : DecidablePred Word.Fits
  | .name text => inferInstanceAs (Decidable (¬ Dashed text))
  | .option _ _ => .isTrue trivial

def Word.name? : Word → Option String
  | .name text => some text
  | .option _ _ => none

def Word.value? (flag : Flag) : Word → Option String
  | .name _ => none
  | .option other value => if other = flag then some value else none

def line (ws : List Word) : List String := ws.flatMap Word.tokens

def names (ws : List Word) : List String := ws.filterMap Word.name?

def lastValue (ws : List Word) (flag : Flag) : Option String :=
  (ws.filterMap (Word.value? flag)).getLast?

def wordsOf (dir entry : String) (values : Flag → Option String) : List Word :=
  .name dir :: .name entry ::
    [Flag.policy, .config, .out].filterMap fun flag => (values flag).map (.option flag)

inductive Refused : List String → CommandError → Prop
  | unknownFlag {token rest} : Dashed token → (∀ flag : Flag, flag.text ≠ token) →
      Refused (token :: rest) (.unknownFlag token)
  | missingValue (flag : Flag) : Refused [flag.text] (.missingValue flag)

/-- Arguments are read as words up to a rest that begins with none. -/
structure ReadAs (args : List String) (ws : List Word) (rest : List String) : Prop where
  line : args = line ws ++ rest
  fits : ∀ w ∈ ws, w.Fits
  stop : rest = [] ∨ ∃ e, Refused rest e

/-! Words of a command line -/

theorem dashed_text (flag : Flag) : Dashed flag.text := by
  cases flag <;> decide

theorem line_cons (w : Word) (ws : List Word) : line (w :: ws) = w.tokens ++ line ws := rfl

theorem Refused.not_fits {w : Word} {more : List String} {e : CommandError}
    (h : Refused (w.tokens ++ more) e) : ¬ w.Fits := by
  generalize hargs : w.tokens ++ more = args at h
  cases w with
  | name text =>
    cases h with
    | unknownFlag hdashed _ =>
      rw [← (List.cons.inj hargs).1] at hdashed
      exact not_not_intro hdashed
    | missingValue flag =>
      have hdashed := dashed_text flag
      rw [← (List.cons.inj hargs).1] at hdashed
      exact not_not_intro hdashed
  | option flag value =>
    cases h with
    | unknownFlag _ hunknown => exact absurd (List.cons.inj hargs).1 (hunknown flag)
    | missingValue other => cases (List.cons.inj hargs).2

theorem tokens_append_inj {w w' : Word} (hw : w.Fits) (hw' : w'.Fits) {more more' : List String}
    (h : w.tokens ++ more = w'.tokens ++ more') : w = w' ∧ more = more' := by
  cases w with
  | name text =>
    cases w' with
    | name text' => simpa [Word.tokens] using h
    | option flag value => exact absurd ((List.cons.inj h).1 ▸ dashed_text flag) hw
  | option flag value =>
    cases w' with
    | name text => exact absurd ((List.cons.inj h).1 ▸ dashed_text flag) hw'
    | option flag' value' =>
      simp only [Word.tokens, List.cons_append, List.cons.injEq, List.nil_append] at h
      obtain ⟨hflag, rfl, rfl⟩ := h
      rw [Flag.text_injective hflag]
      exact ⟨rfl, rfl⟩

theorem ReadAs.not_fits {w : Word} {args rest : List String}
    (h : ReadAs (w.tokens ++ args) [] rest) : ¬ w.Fits := by
  have hrest : rest = w.tokens ++ args := h.line.symm
  subst hrest
  rcases h.stop with hnil | ⟨e, he⟩
  · cases w <;> cases hnil
  · exact he.not_fits

theorem ReadAs.tail {w : Word} {args rest : List String} {ws : List Word}
    (h : ReadAs (w.tokens ++ args) (w :: ws) rest) : ReadAs args ws rest where
  line := by
    have hline := h.line
    rwa [line_cons, List.append_assoc, List.append_cancel_left_eq] at hline
  fits w' hw' := h.fits w' (List.mem_cons_of_mem w hw')
  stop := h.stop

theorem ReadAs.cons {w : Word} (hw : w.Fits) {args rest : List String} {ws : List Word}
    (h : ReadAs args ws rest) : ReadAs (w.tokens ++ args) (w :: ws) rest where
  line := by rw [line_cons, List.append_assoc, ← h.line]
  fits := List.forall_mem_cons.2 ⟨hw, h.fits⟩
  stop := h.stop

theorem ReadAs.unique {args rest rest' : List String} {ws ws' : List Word} (h : ReadAs args ws rest)
    (h' : ReadAs args ws' rest') : ws = ws' ∧ rest = rest' := by
  induction ws generalizing args ws' with
  | nil =>
    cases ws' with
    | nil => exact ⟨rfl, h.line.symm.trans h'.line⟩
    | cons w ws' =>
      have hw := h'.fits w List.mem_cons_self
      rw [h'.line, line_cons, List.append_assoc] at h
      exact absurd hw h.not_fits
  | cons w ws ih =>
    have hw := h.fits w List.mem_cons_self
    have hargs := h.line
    rw [line_cons, List.append_assoc] at hargs
    subst hargs
    cases ws' with
    | nil => exact absurd hw h'.not_fits
    | cons w' ws' =>
      have hargs' := h'.line
      rw [line_cons, List.append_assoc] at hargs'
      obtain ⟨rfl, -⟩ := tokens_append_inj hw (h'.fits w' List.mem_cons_self) hargs'
      obtain ⟨rfl, rfl⟩ := ih h.tail h'.tail
      exact ⟨rfl, rfl⟩

theorem exists_readAs (o : Options) (args : List String) : ∃ ws rest, ReadAs args ws rest := by
  fun_induction Options.read o args with
  | case1 => exact ⟨[], [], rfl, nofun, .inl rfl⟩
  | case2 o token flag hflag =>
    rw [Flag.ofText?_eq_some_iff] at hflag
    subst hflag
    exact ⟨[], [flag.text], rfl, nofun, .inr ⟨_, .missingValue flag⟩⟩
  | case3 o token flag hflag value rest ih =>
    rw [Flag.ofText?_eq_some_iff] at hflag
    subst hflag
    obtain ⟨ws, stop, h⟩ := ih
    exact ⟨.option flag value :: ws, stop, h.cons (w := .option flag value) trivial⟩
  | case4 o token rest hflag hdashed =>
    rw [List.isPrefixOf_iff_prefix] at hdashed
    rw [Flag.ofText?_eq_none_iff] at hflag
    exact ⟨[], token :: rest, rfl, nofun, .inr ⟨_, .unknownFlag hdashed hflag⟩⟩
  | case5 o token rest hflag hdashed ih =>
    rw [List.isPrefixOf_iff_prefix] at hdashed
    obtain ⟨ws, stop, h⟩ := ih
    exact ⟨.name token :: ws, stop, h.cons (w := .name token) hdashed⟩

end Command

/-! What is read of words -/

namespace Options

open Command

def take (o : Options) : Word → Options
  | .name text => { o with names := text :: o.names }
  | .option flag value => o.give flag value

def value? (o : Options) : Flag → Option String
  | .policy => o.policy
  | .config => o.config
  | .out => o.out

theorem read_tokens {w : Word} (hw : w.Fits) (o : Options) (args : List String) :
    o.read (w.tokens ++ args) = (o.take w).read args := by
  cases w with
  | name text =>
    have hnone : Flag.ofText? text = none := by
      rw [Flag.ofText?_eq_none_iff]
      rintro flag rfl
      exact hw (dashed_text flag)
    have hplain : ¬ "--".toList.isPrefixOf text.toList := by
      rw [List.isPrefixOf_iff_prefix]
      exact hw
    rw [Word.tokens, List.singleton_append, read, hnone]
    exact if_neg hplain
  | option flag value =>
    have hsome : Flag.ofText? flag.text = some flag := Flag.ofText?_eq_some_iff.2 rfl
    rw [Word.tokens, List.cons_append, List.singleton_append, read, hsome]
    rfl

theorem read_line {ws : List Word} (h : ∀ w ∈ ws, w.Fits) (o : Options) (rest : List String) :
    o.read (line ws ++ rest) = (ws.foldl take o).read rest := by
  induction ws generalizing o with
  | nil => rfl
  | cons w ws ih =>
    rw [List.forall_mem_cons] at h
    rw [line_cons, List.append_assoc, read_tokens h.1, ih h.2, List.foldl_cons]

theorem read_refused {rest : List String} {e : CommandError} (h : Refused rest e) (o : Options) :
    o.read rest = .error e := by
  cases h with
  | unknownFlag hdashed hunknown =>
    rw [read, Flag.ofText?_eq_none_iff.2 hunknown]
    exact if_pos (List.isPrefixOf_iff_prefix.2 hdashed)
  | missingValue flag =>
    rw [read, Flag.ofText?_eq_some_iff.2 rfl]

theorem names_foldl (ws : List Word) (o : Options) :
    (ws.foldl take o).names = (Command.names ws).reverse ++ o.names := by
  induction ws generalizing o with
  | nil => rfl
  | cons w ws ih =>
    rw [List.foldl_cons, ih]
    cases w with
    | name text => simp [Command.names, Word.name?, take]
    | option flag value => cases flag <;> rfl

theorem value?_take (o : Options) (w : Word) (flag : Flag) :
    (o.take w).value? flag = (w.value? flag).or (o.value? flag) := by
  cases w with
  | name text => cases flag <;> rfl
  | option other value => cases other <;> cases flag <;> rfl

theorem value?_foldl (ws : List Word) (flag : Flag) :
    (ws.foldl take {}).value? flag = lastValue ws flag := by
  induction ws using List.reverseRecOn with
  | nil => cases flag <;> rfl
  | append_singleton ws w ih =>
    rw [List.foldl_concat, value?_take, ih, lastValue, lastValue, List.filterMap_append,
      List.getLast?_append]
    cases h : w.value? flag with
    | none => rw [List.filterMap_cons_none h]; rfl
    | some value => rw [List.filterMap_cons_some h]; rfl

end Options

namespace Command

theorem parse_line {ws : List Word} (h : ∀ w ∈ ws, w.Fits) :
    parse ("compile" :: line ws) = match names ws with
      | [] => .error .missingDir
      | [_] => .error .missingEntry
      | [dir, entry] => .ok (.compile dir entry
          (lastValue ws .policy) (lastValue ws .config) (lastValue ws .out))
      | _ => .error .tooManyNames := by
  have hread : Options.read {} (line ws) = .ok (ws.foldl Options.take {}) := by
    rw [← List.append_nil (line ws), Options.read_line h]
    rfl
  have hnames : (ws.foldl Options.take {}).names.reverse = names ws := by
    rw [Options.names_foldl, List.append_nil, List.reverse_reverse]
  have hpolicy := Options.value?_foldl ws .policy
  have hconfig := Options.value?_foldl ws .config
  have hout := Options.value?_foldl ws .out
  simp only [parse, hread, Except.bind, Options.command, hnames]
  rw [← hpolicy, ← hconfig, ← hout]
  rfl

theorem parse_refused {ws : List Word} (h : ∀ w ∈ ws, w.Fits) {rest : List String}
    {e : CommandError} (hrest : Refused rest e) :
    parse ("compile" :: (line ws ++ rest)) = .error e := by
  rw [parse, Options.read_line h, Options.read_refused hrest]
  rfl

theorem lastValue_of_perm {dir entry : String} {values : Flag → Option String} {ws : List Word}
    (h : ws.Perm (wordsOf dir entry values)) (flag : Flag) : lastValue ws flag = values flag := by
  have hperm := h.filterMap (Word.value? flag)
  have hgiven : (wordsOf dir entry values).filterMap (Word.value? flag) = (values flag).toList := by
    have hone : ∀ other, ((values other).map (Word.option other)).bind (Word.value? flag) =
        if other = flag then values other else none := by
      intro other
      cases values other <;> simp [Word.value?]
    rw [wordsOf, List.filterMap_cons_none rfl, List.filterMap_cons_none rfl,
      List.filterMap_filterMap]
    simp only [hone]
    cases hvalue : values flag <;> cases flag <;> simp [hvalue]
  rw [hgiven] at hperm
  rw [lastValue]
  cases hvalue : values flag with
  | none =>
    rw [hvalue] at hperm
    rw [hperm.eq_nil]
    rfl
  | some value =>
    rw [hvalue] at hperm
    rw [List.perm_singleton.1 hperm]
    rfl

theorem fits_of_mem_wordsOf {dir entry : String} {values : Flag → Option String}
    (hdir : ¬ Dashed dir) (hentry : ¬ Dashed entry) : ∀ w ∈ wordsOf dir entry values, w.Fits := by
  refine List.forall_mem_cons.2 ⟨hdir, List.forall_mem_cons.2 ⟨hentry, fun w hw => ?_⟩⟩
  obtain ⟨flag, -, hflag⟩ := List.mem_filterMap.1 hw
  obtain ⟨value, -, rfl⟩ := Option.map_eq_some_iff.1 hflag
  trivial

/-- Two names and flags with their values are read alike in every order that keeps the names in
theirs, whatever the values look like. Any arguments are words up to a rest that begins with none,
in one way. Where there is such a rest, its first argument is the error; else the number of names
decides, and of several values of a flag the last one counts. -/
theorem parse_compile :
    (∀ {dir entry : String} {values : Flag → Option String} {ws : List Word},
      ¬ Dashed dir → ¬ Dashed entry → ws.Perm (wordsOf dir entry values) →
      names ws = [dir, entry] → parse ("compile" :: line ws) =
        .ok (.compile dir entry (values .policy) (values .config) (values .out))) ∧
    (∀ args, ∃! r : List Word × List String, ReadAs args r.1 r.2) ∧
    ∀ {args ws rest}, ReadAs args ws rest →
      (∀ e, Refused rest e → parse ("compile" :: args) = .error e) ∧
      (rest = [] →
        (names ws = [] → parse ("compile" :: args) = .error .missingDir) ∧
        (∀ name, names ws = [name] → parse ("compile" :: args) = .error .missingEntry) ∧
        (2 < (names ws).length → parse ("compile" :: args) = .error .tooManyNames) ∧
        ∀ dir entry, names ws = [dir, entry] → parse ("compile" :: args) = .ok (.compile dir entry
          (lastValue ws .policy) (lastValue ws .config) (lastValue ws .out))) := by
  refine ⟨fun hdir hentry hperm hnames => ?_, fun args => ?_,
    fun {args ws rest} h => ⟨fun e he => ?_, fun hrest => ?_⟩⟩
  · rw [parse_line fun w hw => fits_of_mem_wordsOf hdir hentry w (hperm.mem_iff.1 hw), hnames]
    simp only [lastValue_of_perm hperm]
  · obtain ⟨ws, rest, h⟩ := exists_readAs {} args
    refine ⟨(ws, rest), h, fun r hr => ?_⟩
    obtain ⟨hws, hrest⟩ := hr.unique h
    exact Prod.ext hws hrest
  · rw [h.line]
    exact parse_refused h.fits he
  · have hargs : args = line ws := by rw [h.line, hrest, List.append_nil]
    rw [hargs, parse_line h.fits]
    refine ⟨fun hnames => ?_, fun name hnames => ?_, fun hlength => ?_, fun dir entry hnames => ?_⟩
    · rw [hnames]
    · rw [hnames]
    · match names ws, hlength with
      | _ :: _ :: _ :: _, _ => rfl
    · rw [hnames]

theorem parse_compile_sample :
    let values : Flag → Option String
      | .policy => some "--out"
      | .config => none
      | .out => some "--config"
    let ws : List Word :=
      [.option .out "--config", .name "tpl", .option .policy "--out", .name "main.json"]
    let again : List Word := [.name "tpl", .option .out "a", .name "main.json", .option .out "b"]
    (¬ Dashed "tpl" ∧ ¬ Dashed "main.json" ∧ ws.Perm (wordsOf "tpl" "main.json" values) ∧
      parse ["compile", "--out", "--config", "tpl", "--policy", "--out", "main.json"] =
        .ok (.compile "tpl" "main.json" (some "--out") none (some "--config"))) ∧
    (ReadAs ["--fast", "--policy"] [] ["--fast", "--policy"] ∧
      parse ["compile", "--fast", "--policy"] = .error (.unknownFlag "--fast")) ∧
    ReadAs ["tpl", "--out", "a", "main.json", "--out", "b"] again [] ∧
      parse ["compile", "tpl", "--out", "a", "main.json", "--out", "b"] =
        .ok (.compile "tpl" "main.json" none none (some "b")) := by
  intro values ws again
  obtain ⟨hwords, -, hread⟩ := parse_compile
  have hdir : ¬ Dashed "tpl" := by decide
  have hentry : ¬ Dashed "main.json" := by decide
  have hperm : ws.Perm (wordsOf "tpl" "main.json" values) := by decide
  have hfast : Refused ["--fast", "--policy"] (.unknownFlag "--fast") :=
    .unknownFlag (by decide) fun flag => by cases flag <;> decide
  have hrefused : ReadAs ["--fast", "--policy"] [] ["--fast", "--policy"] :=
    ⟨rfl, nofun, .inr ⟨_, hfast⟩⟩
  have hagain : ReadAs ["tpl", "--out", "a", "main.json", "--out", "b"] again [] :=
    ⟨rfl, by decide, .inl rfl⟩
  exact ⟨⟨hdir, hentry, hperm, hwords hdir hentry hperm rfl⟩,
    ⟨hrefused, (hread hrefused).1 _ hfast⟩,
    hagain, ((hread hagain).2 rfl).2.2.2 "tpl" "main.json" rfl⟩

end Command

end TagTemplate
