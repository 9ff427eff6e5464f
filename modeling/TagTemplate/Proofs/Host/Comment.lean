import TagTemplate.Proofs.Text.Comment

namespace TagTemplate.Host

def splitComment : List Char → Option (List Char × List Char)
  | [] => none
  | '*' :: '/' :: r => some ([], r)
  | c :: r => (splitComment r).map fun (text, rest) => (c :: text, rest)

def readComment : List Char → Option (List Char × List Char)
  | '/' :: '*' :: r => splitComment r
  | _ => none

open Text

variable {c : Char} {s text rest : List Char}

theorem splitComment_cons (h : ¬ (c = '*' ∧ s.head? = some '/')) :
    splitComment (c :: s) = (splitComment s).map fun (text, rest) => (c :: text, rest) := by
  rw [splitComment]
  rintro r rfl rfl
  exact h ⟨rfl, rfl⟩

theorem splitComment_eq_some_iff :
    splitComment s = some (text, rest) ↔ s = text ++ '*' :: '/' :: rest ∧ ¬ Closes text := by
  constructor
  · intro h
    fun_induction splitComment s generalizing text with
    | case1 => cases h
    | case2 r =>
      cases h
      exact ⟨rfl, not_closes_nil⟩
    | case3 c r hne ih =>
      obtain ⟨⟨text, _⟩, hr, heq⟩ := Option.map_eq_some_iff.1 h
      cases heq
      obtain ⟨rfl, htext⟩ := ih hr
      refine ⟨rfl, fun hcloses => ?_⟩
      obtain ⟨hc, hhead⟩ := (closes_cons.1 hcloses).resolve_right htext
      obtain ⟨t, rfl⟩ := List.head?_eq_some_iff.1 hhead
      exact hne _ hc rfl
  · rintro ⟨rfl, h⟩
    induction text with
    | nil => rfl
    | cons c text ih =>
      rw [closes_cons, not_or] at h
      have hhead : ¬ (c = '*' ∧ (text ++ '*' :: '/' :: rest).head? = some '/') := by
        cases text with
        | nil => simp
        | cons d text => exact h.1
      rw [List.cons_append, splitComment_cons hhead, ih h.2]
      rfl

/-- The code starts with a comment of the given text, which ends where the other code begins,
whatever follows. -/
def Comments (text code after : String) : Prop :=
  ∀ rest, readComment (code.toList ++ rest) = some (text.toList, after.toList ++ rest)

theorem comments_of_not_closes {text : String} (h : ¬ Closes text.toList) (after : String) :
    Comments text ("/*" ++ text ++ "*/" ++ after) after := by
  intro rest
  have hcode : ("/*" ++ text ++ "*/" ++ after).toList ++ rest =
      '/' :: '*' :: (text.toList ++ '*' :: '/' :: (after.toList ++ rest)) := by
    simp
  rw [hcode, readComment]
  exact splitComment_eq_some_iff.2 ⟨rfl, h⟩

end TagTemplate.Host
