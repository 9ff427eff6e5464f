import TagTemplate.Json.Reader
import TagTemplate.Proofs.Json.Number

namespace TagTemplate.Json

/-- Values with at most so many containers around each other that any reader keeps as they are. -/
inductive Legible : Nat → Json → Prop where
  | null {n : Nat} : Legible n .null
  | bool {n : Nat} {b : Bool} : Legible n (.bool b)
  | nat {n k : Nat} : k < UInt64.size → Legible n (.nat k)
  | text {n : Nat} {s : String} : Legible n (.text s)
  | array {n : Nat} {items : List Json} :
    (∀ v ∈ items, Legible n v) → Legible (n + 1) (.array items)
  | object {n : Nat} {fields : List (String × Json)} :
    (∀ f ∈ fields, Legible n f.2) → Legible (n + 1) (.object fields)

theorem legible_array_map {α : Type} {g : α → Json} {xs : List α} {n : Nat}
    (h : ∀ x ∈ xs, Legible n (g x)) : Legible (n + 1) (.array (xs.map g)) :=
  .array (List.forall_mem_map.2 h)

theorem legible_object_map {α : Type} {g : α → String × Json} {xs : List α} {n : Nat}
    (h : ∀ x ∈ xs, Legible n (g x).2) : Legible (n + 1) (.object (xs.map g)) :=
  .object (List.forall_mem_map.2 h)

theorem legible_texts (n : Nat) (xs : List String) : Legible (n + 1) (texts xs) :=
  legible_array_map fun _ _ => .text

theorem renderItems_cons_cons (v w : Json) (items : List Json) :
    renderItems (v :: w :: items) = v.renderChars ++ ',' :: renderItems (w :: items) := rfl

theorem renderFields_cons_cons (key : String) (v : Json) (f : String × Json)
    (fields : List (String × Json)) :
    renderFields ((key, v) :: f :: fields) =
      renderText key ++ ':' :: v.renderChars ++ ',' :: renderFields (f :: fields) := rfl

def keys : Json → List String
  | .object fields => fields.map Prod.fst
  | _ => []

namespace Reader

variable {known : String → Bool} {stack : List Frame} {r r' : Reader} {c : Char} {s t : List Char}
  {v : Json} {n : Nat}

/-- End a word, which only shows to have ended by what follows it. -/
def settle (known : String → Bool) (r : Reader) : Option Reader :=
  match r.mode with
  | .word letters => endWord known r.stack letters
  | _ => some r

def run (known : String → Bool) (r : Reader) (s : List Char) : Option Reader :=
  (s.foldlM (step known) r).bind (settle known)

theorem run_cons : run known r (c :: s) = (step known r c).bind fun r' => run known r' s := by
  rw [run, List.foldlM_cons]
  exact Option.bind_assoc _ _ _

theorem run_step (h : step known r c = some r') : run known r (c :: s) = run known r' s := by
  rw [run_cons, h, Option.bind_some]

theorem deliver_mode (h : deliver v stack = some r) : r.mode = .next ∨ r.mode = .done v := by
  unfold deliver at h
  split at h
  next => exact .inr (Option.some.inj h ▸ rfl)
  next => exact .inl (Option.some.inj h ▸ rfl)
  next => exact .inl (Option.some.inj h ▸ rfl)
  next => contradiction

theorem settle_deliver : (deliver v stack).bind (settle known) = deliver v stack := by
  cases h : deliver v stack with
  | none => rfl
  | some r =>
    have hsettle : settle known r = some r := by
      unfold settle
      obtain hmode | hmode := deliver_mode h <;> rw [hmode]
    exact hsettle

theorem step_of_delivered (h : r.mode = .next ∨ r.mode = .done v) :
    step known r c = if isSpace c then some r else between known r.stack r.mode c := by
  unfold step
  obtain h | h := h <;> rw [h]

theorem step_of_not_wordChar (hc : isWordChar c = false) :
    step known r c = (settle known r).bind fun r' => step known r' c := by
  obtain ⟨stack, mode⟩ := r
  cases mode with
  | word letters =>
    have hword : step known ⟨stack, .word letters⟩ c = (endWord known stack letters).bind fun r =>
        if isSpace c then some r else between known r.stack r.mode c :=
      if_neg (hc ▸ Bool.false_ne_true)
    have hsettle : settle known ⟨stack, .word letters⟩ = endWord known stack letters := rfl
    rw [hword, hsettle]
    cases h : endWord known stack letters with
    | none => rfl
    | some r =>
      obtain ⟨v, -, hdeliver⟩ := Option.bind_eq_some_iff.1 h
      exact (step_of_delivered (deliver_mode hdeliver)).symm
  | _ => rfl

theorem run_append_cons (hc : isWordChar c = false) :
    run known r (s ++ c :: t) = (run known r s).bind fun r' => run known r' (c :: t) := by
  have hstep (r : Reader) :
      run known r (c :: t) = (settle known r).bind fun r' => run known r' (c :: t) := by
    rw [run_cons, step_of_not_wordChar hc, Option.bind_assoc]
    exact congrArg _ (funext fun r' => run_cons.symm)
  -- What comes before is read in the same way on both sides, so only its end matters.
  induction s generalizing r with
  | nil => exact hstep r
  | cons d s ih =>
    rw [List.cons_append, run_cons, run_cons, Option.bind_assoc]
    exact congrArg _ (funext fun _ => ih)

theorem ofChars?_eq : ofChars? known s = (run known {} s).bind (finish known) := by
  have hfinish (r : Reader) : finish known r = (settle known r).bind (finish known) := by
    obtain ⟨stack, mode⟩ := r
    cases mode with
    | word letters =>
      simp only [finish, settle]
      cases h : endWord known stack letters with
      | none => rfl
      | some r =>
        obtain ⟨v, -, hdeliver⟩ := Option.bind_eq_some_iff.1 h
        obtain ⟨stack, mode⟩ := r
        obtain hmode | hmode := deliver_mode hdeliver <;> cases hmode <;> rfl
    | _ => rfl
  rw [ofChars?, run, Option.bind_assoc]
  exact congrArg _ (funext hfinish)

/-! Texts -/

theorem hexValue_hexDigit (h : n < 16) : hexValue (Digest.hexDigit n) = some n := by
  revert n
  decide

theorem endEscape_none (skip : Bool) (hn : n < 0x20) :
    endEscape skip none n = some (some (Char.ofNat n), .plain) := by
  rw [endEscape, if_neg (by omega), if_neg (by omega)]

theorem run_escapeChar (isKey : Bool) (chars : List Char) (c : Char) :
    run known ⟨stack, .string isKey chars .plain⟩ (escapeChar c ++ s) =
      run known ⟨stack, .string isKey (c :: chars) .plain⟩ s := by
  unfold escapeChar
  split
  iterate 7 exact (run_step rfl).trans (run_step rfl)
  next hquote hslash _ _ _ _ _ =>
    split
    next hcontrol =>
      have hvalue : 16 * (c.toNat / 16) + c.toNat % 16 = c.toNat := by omega
      have hhigh : step known ⟨stack, .string isKey chars (.digits none 2 0)⟩
          (Digest.hexDigit (c.toNat / 16)) =
            some ⟨stack, .string isKey chars (.digits none 1 (c.toNat / 16))⟩ := by
        simp [step, inString, hexValue_hexDigit (show c.toNat / 16 < 16 by omega)]
      have hlow : step known ⟨stack, .string isKey chars (.digits none 1 (c.toNat / 16))⟩
          (Digest.hexDigit (c.toNat % 16)) = some ⟨stack, .string isKey (c :: chars) .plain⟩ := by
        simp [step, inString, hexValue_hexDigit (show c.toNat % 16 < 16 by omega), hvalue,
          endEscape_none _ hcontrol]
      calc
        _ = run known ⟨stack, .string isKey chars (.digits none 2 0)⟩
            (Digest.hexDigit (c.toNat / 16) :: Digest.hexDigit (c.toNat % 16) :: s) :=
          (run_step rfl).trans ((run_step rfl).trans ((run_step rfl).trans (run_step rfl)))
        _ = _ := (run_step hhigh).trans (run_step hlow)
    next hcontrol =>
      refine run_step ?_
      simp only [step, inString]
      rw [if_neg (hquote ·), if_neg (hslash ·), if_neg hcontrol]

theorem run_flatMap_escapeChar (isKey : Bool) (chars text : List Char) :
    run known ⟨stack, .string isKey chars .plain⟩ (text.flatMap escapeChar ++ s) =
      run known ⟨stack, .string isKey (text.reverse ++ chars) .plain⟩ s := by
  induction text generalizing chars with
  | nil => rfl
  | cons c text ih =>
    rw [List.flatMap_cons, List.append_assoc, run_escapeChar, ih, List.reverse_cons,
      List.append_assoc]
    rfl

theorem run_text (isKey : Bool) (text : String) :
    run known ⟨stack, .string isKey [] .plain⟩ (text.toList.flatMap escapeChar ++ '"' :: s) =
      (endString isKey text.toList.reverse stack).bind fun r => run known r s := by
  rw [run_flatMap_escapeChar, List.append_nil, run_cons]
  rfl

theorem endString_key (text : List Char) (done : List (String × Json)) :
    endString true text.reverse (.fields done :: stack) =
      some ⟨.member done (String.ofList text) :: stack, .colon⟩ := by
  rw [endString, if_pos rfl, List.reverse_reverse]

theorem endString_value (text : List Char) :
    endString false text.reverse stack = deliver (.text (String.ofList text)) stack := by
  unfold endString
  split
  next => rfl
  next => rw [if_neg Bool.false_ne_true, List.reverse_reverse]

/-! Values -/

def Reads (known : String → Bool) (stack : List Frame) (v : Json) : Prop :=
  run known ⟨stack, .value⟩ v.renderChars = deliver v stack

theorem reads_text (text : String) : Reads known stack (.text text) := by
  have htext : renderChars (.text text) = '"' :: (text.toList.flatMap escapeChar ++ ['"']) := rfl
  have hquote : step known ⟨stack, .value⟩ '"' = some ⟨stack, .string false [] .plain⟩ := rfl
  rw [Reads, htext, run_step hquote, run_text, endString_value, String.ofList_toList]
  exact settle_deliver

/-! Words -/

theorem ne_of_isWordChar {d : Char} (hc : isWordChar c = true) (hd : isWordChar d = false) :
    c ≠ d := by
  rintro rfl
  exact Bool.false_ne_true (hd.symm.trans hc)

theorem isSpace_of_isWordChar (hc : isWordChar c = true) : isSpace c = false := by
  simp [isSpace, ne_of_isWordChar hc (d := ' ') rfl, ne_of_isWordChar hc (d := '\t') rfl,
    ne_of_isWordChar hc (d := '\n') rfl, ne_of_isWordChar hc (d := '\r') rfl]

theorem isWordChar_of_mem_toDigits {k : Nat} (h : c ∈ Nat.toDigits 10 k) : isWordChar c = true := by
  simp [isWordChar, Char.isAlphanum, Nat.isDigit_of_mem_toDigits (by decide) (by decide) h]

theorem step_word (hc : isWordChar c = true) (letters : List Char) :
    step known ⟨stack, .word letters⟩ c = some ⟨stack, .word (c :: letters)⟩ :=
  if_pos hc

theorem step_value_word (hc : isWordChar c = true) :
    step known ⟨stack, .value⟩ c = some ⟨stack, .word [c]⟩ := by
  have hspace := isSpace_of_isWordChar hc
  have harray := ne_of_isWordChar hc (d := '[') rfl
  have hobject := ne_of_isWordChar hc (d := '{') rfl
  have hquote := ne_of_isWordChar hc (d := '"') rfl
  simp [step, between, begin, hspace, hc, harray, hobject, hquote]

theorem run_word {letters : List Char} (hword : s.all isWordChar = true) :
    run known ⟨stack, .word letters⟩ s = endWord known stack (s.reverse ++ letters) := by
  induction s generalizing letters with
  | nil => rfl
  | cons c s ih =>
    rw [List.all_cons, Bool.and_eq_true] at hword
    obtain ⟨hc, hs⟩ := hword
    rw [run_step (step_word hc letters), ih hs, List.reverse_cons, List.append_assoc]
    rfl

theorem run_value_word (hnil : s ≠ []) (hword : s.all isWordChar = true)
    (h : wordValue (skipping known stack) s = some v) :
    run known ⟨stack, .value⟩ s = deliver v stack := by
  cases s with
  | nil => contradiction
  | cons c s =>
    rw [List.all_cons, Bool.and_eq_true] at hword
    obtain ⟨hc, hs⟩ := hword
    rw [run_step (step_value_word hc), run_word hs, endWord, ← List.reverse_cons,
      List.reverse_reverse, h, Option.bind_some]

theorem renderChars_nat (k : Nat) : renderChars (.nat k) = Nat.toDigits 10 k :=
  Number.render_nat k

theorem wordValue_toDigits {k : Nat} (hk : k < UInt64.size) :
    wordValue false (Nat.toDigits 10 k) = some (.nat k) := by
  have hne {word : List Char} (hword : word.any (!·.isDigit) = true) :
      Nat.toDigits 10 k ≠ word := by
    rintro rfl
    obtain ⟨c, hc, hdigit⟩ := List.any_eq_true.1 hword
    simp [Nat.isDigit_of_mem_toDigits (by decide) (by decide) hc] at hdigit
  rw [wordValue, if_neg (hne (by decide)), if_neg (hne (by decide)), if_neg (hne (by decide)),
    if_neg Bool.false_ne_true, Number.read_toDigits hk]
  rfl

/-! Containers -/

theorem renderChars_start (h : Legible n v) :
    ∃ c s, v.renderChars = c :: s ∧ c ≠ ']' ∧ isSpace c = false := by
  cases h with
  | null => exact ⟨_, _, rfl, by decide, rfl⟩
  | @bool _ b => cases b <;> exact ⟨_, _, rfl, by decide, rfl⟩
  | @nat _ k hk =>
    rw [renderChars_nat]
    obtain ⟨c, s, h⟩ := List.exists_cons_of_ne_nil (Nat.toDigits_ne_nil (n := k) (b := 10))
    have hc : isWordChar c = true := isWordChar_of_mem_toDigits (h ▸ List.mem_cons_self)
    exact ⟨c, s, h, ne_of_isWordChar hc rfl, isSpace_of_isWordChar hc⟩
  | text => exact ⟨_, _, rfl, by decide, rfl⟩
  | array => exact ⟨_, _, rfl, by decide, rfl⟩
  | object => exact ⟨_, _, rfl, by decide, rfl⟩

theorem run_firstItem (h : Legible n v) (items : List Json) :
    run known ⟨stack, .firstItem⟩ (renderItems (v :: items) ++ s) =
      run known ⟨stack, .value⟩ (renderItems (v :: items) ++ s) := by
  obtain ⟨c, t, hchars, hc, hspace⟩ := renderChars_start h
  obtain ⟨rest, hrest⟩ : ∃ rest, renderItems (v :: items) = c :: rest := by
    cases items with
    | nil => exact ⟨t, hchars⟩
    | cons w items =>
      rw [renderItems_cons_cons, hchars]
      exact ⟨_, rfl⟩
  have hstep : step known ⟨stack, .firstItem⟩ c = step known ⟨stack, .value⟩ c := by
    simp [step, between, hc, hspace]
  rw [hrest, List.cons_append, run_cons, run_cons, hstep]

theorem run_items {items : List Json} (hv : ∀ done, Reads known (.items done :: stack) v)
    (hitems : ∀ w ∈ items, ∀ done, Reads known (.items done :: stack) w) (done : List Json) :
    run known ⟨.items done :: stack, .value⟩ (renderItems (v :: items) ++ [']']) =
      deliver (.array (done.reverse ++ v :: items)) stack := by
  induction items generalizing v done with
  | nil =>
    have hclose : step known ⟨.items (v :: done) :: stack, .next⟩ ']' =
        deliver (.array (v :: done).reverse) stack := rfl
    rw [renderItems, run_append_cons rfl, hv, deliver, Option.bind_some, run_cons, hclose,
      List.reverse_cons]
    exact settle_deliver
  | cons w items ih =>
    have hcomma : step known ⟨.items (v :: done) :: stack, .next⟩ ',' =
        some ⟨.items (v :: done) :: stack, .value⟩ := rfl
    obtain ⟨hw, hitems⟩ := List.forall_mem_cons.1 hitems
    rw [renderItems_cons_cons, List.append_assoc, List.cons_append, run_append_cons rfl, hv,
      deliver, Option.bind_some, run_step hcomma, ih hw hitems, List.reverse_cons,
      List.append_assoc]
    rfl

theorem run_member {mode : Mode} (hmode : mode = .firstKey ∨ mode = .key) {key : String}
    {done : List (String × Json)} (hv : Reads known (.member done key :: stack) v)
    (hc : isWordChar c = false) :
    run known ⟨.fields done :: stack, mode⟩ (renderText key ++ ':' :: v.renderChars ++ c :: t) =
      run known ⟨.fields ((key, v) :: done) :: stack, .next⟩ (c :: t) := by
  have hchars : renderText key ++ ':' :: v.renderChars ++ c :: t =
      '"' :: (key.toList.flatMap escapeChar ++ '"' :: ':' :: (v.renderChars ++ c :: t)) := by
    simp [renderText]
  have hquote : step known ⟨.fields done :: stack, mode⟩ '"' =
      some ⟨.fields done :: stack, .string true [] .plain⟩ := by
    obtain rfl | rfl := hmode <;> rfl
  have hcolon : step known ⟨.member done key :: stack, .colon⟩ ':' =
      some ⟨.member done key :: stack, .value⟩ := rfl
  rw [hchars, run_step hquote, run_text, endString_key, String.ofList_toList, Option.bind_some,
    run_step hcolon, run_append_cons hc, hv, deliver, Option.bind_some]

theorem run_fields {mode : Mode} (hmode : mode = .firstKey ∨ mode = .key) {key : String}
    {fields : List (String × Json)} (hv : ∀ done, Reads known (.member done key :: stack) v)
    (hfields : ∀ f ∈ fields, ∀ done, Reads known (.member done f.1 :: stack) f.2)
    (done : List (String × Json)) :
    run known ⟨.fields done :: stack, mode⟩ (renderFields ((key, v) :: fields) ++ ['}']) =
      deliver (.object (done.reverse ++ (key, v) :: fields)) stack := by
  induction fields generalizing mode key v done with
  | nil =>
    have hclose : step known ⟨.fields ((key, v) :: done) :: stack, .next⟩ '}' =
        deliver (.object ((key, v) :: done).reverse) stack := rfl
    rw [renderFields, run_member hmode (hv done) rfl, run_cons, hclose, List.reverse_cons]
    exact settle_deliver
  | cons f fields ih =>
    have hcomma : step known ⟨.fields ((key, v) :: done) :: stack, .next⟩ ',' =
        some ⟨.fields ((key, v) :: done) :: stack, .key⟩ := rfl
    obtain ⟨hf, hfields⟩ := List.forall_mem_cons.1 hfields
    rw [renderFields_cons_cons, List.append_assoc, List.cons_append, run_member hmode (hv done) rfl,
      run_step hcomma, ih (.inr rfl) hf hfields, List.reverse_cons, List.append_assoc]
    rfl

theorem skipping_cons {f : Frame} (hskip : skipping known stack = false)
    (hf : stack = [] → skipping known [f] = false) : skipping known (f :: stack) = false := by
  cases stack with
  | nil => exact hf rfl
  | cons g stack => rwa [skipping, List.getLast?_cons_cons]

/-- The values of the unknown fields of the outermost object apart, a value is read if the
containers around it leave enough room. -/
theorem reads_of_legible (h : Legible n v) (hskip : skipping known stack = false)
    (hkeys : stack = [] → ∀ k ∈ v.keys, known k = true) (hroom : stack.length + n ≤ depthLimit) :
    Reads known stack v := by
  induction h generalizing stack with
  | null => exact run_value_word (List.cons_ne_nil _ _) rfl rfl
  | @bool _ b => cases b <;> exact run_value_word (List.cons_ne_nil _ _) rfl rfl
  | @nat _ k hk =>
    rw [Reads, renderChars_nat]
    have hword : (Nat.toDigits 10 k).all isWordChar = true :=
      List.all_eq_true.2 fun c => isWordChar_of_mem_toDigits
    refine run_value_word Nat.toDigits_ne_nil hword ?_
    rw [hskip]
    exact wordValue_toDigits hk
  | text => exact reads_text _
  | @array n items hitems ih =>
    have hopen : step known ⟨stack, .value⟩ '[' = some ⟨.items [] :: stack, .firstItem⟩ := by
      have hfits : stack.length < depthLimit := by omega
      simp [step, between, begin, isSpace, hfits]
    have hread : ∀ w ∈ items, ∀ done, Reads known (.items done :: stack) w := fun w hw done =>
      ih w hw (skipping_cons hskip fun _ => rfl) nofun (by rw [List.length_cons]; omega)
    rw [Reads, renderChars, List.cons_append, run_step hopen]
    cases items with
    | nil => exact run_cons.trans settle_deliver
    | cons w items =>
      obtain ⟨hw, hread⟩ := List.forall_mem_cons.1 hread
      rw [run_firstItem (hitems w List.mem_cons_self), run_items hw hread]
      rfl
  | @object n fields hfields ih =>
    have hopen : step known ⟨stack, .value⟩ '{' = some ⟨.fields [] :: stack, .firstKey⟩ := by
      have hfits : stack.length < depthLimit := by omega
      simp [step, between, begin, isSpace, hfits]
    -- Only the outermost object is below no frame, and all its fields are known.
    have hread : ∀ f ∈ fields, ∀ done, Reads known (.member done f.1 :: stack) f.2 := by
      intro f hf done
      refine ih f hf (skipping_cons hskip fun hnil => ?_) nofun (by rw [List.length_cons]; omega)
      have hknown := hkeys hnil f.1 (List.mem_map_of_mem hf)
      simp [skipping, hknown]
    rw [Reads, renderChars, List.cons_append, run_step hopen]
    cases fields with
    | nil => exact run_cons.trans settle_deliver
    | cons f fields =>
      obtain ⟨hf, hread⟩ := List.forall_mem_cons.1 hread
      exact run_fields (.inl rfl) hf hread []

end Reader

variable {v : Json} {known : String → Bool} {n : Nat}

theorem Legible.readKnown_render (h : Legible n v) (hn : n ≤ Reader.depthLimit)
    (hkeys : ∀ k ∈ v.keys, known k = true) : readKnown known v.render = .ok v := by
  have hread : Reader.run known {} v.renderChars = some ⟨[], .done v⟩ :=
    Reader.reads_of_legible h rfl (fun _ => hkeys) ((Nat.zero_add n).symm ▸ hn)
  have hchars : ofChars? known v.render.toList = some v := by
    rw [render, String.toList_ofList, Reader.ofChars?_eq, hread]
    rfl
  rw [readKnown, hchars]

theorem Legible.read_render (h : Legible n v) (hn : n ≤ Reader.depthLimit) :
    read v.render = .ok v :=
  h.readKnown_render hn fun _ _ => rfl

end TagTemplate.Json
