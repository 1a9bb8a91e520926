import DraftBoard.Text.Lowercase

/-!
# Lower-casing character by character

A text is lowered character by character, but for the shape that a capital sigma takes.
Nothing that makes no difference between the two shapes depends on the context.
-/

namespace DraftBoard.Text

theorem lowerChar_of_ascii {c : Char} (ascii : c.toNat < 128) : lowerChar c = [c.toLower] := by
  rw [lowerChar, if_pos ascii]

theorem lowerChar_sigma : lowerChar 'Σ' = ['σ'] := by
  decide

section

variable {α : Type} {view : Char → α}

theorem view_lowerSigma (alike : view 'ς' = view 'σ') (before after : List Char) :
    view (lowerSigma before after) = view 'σ' := by
  unfold lowerSigma
  split
  · exact alike
  · rfl

theorem map_lowercaseAfter (alike : view 'ς' = view 'σ') (before text : List Char) :
    (lowercaseAfter before text).map view = (text.flatMap lowerChar).map view := by
  induction text generalizing before with
  | nil => rfl
  | cons c rest ih =>
      rw [lowercaseAfter, List.map_append, ih, List.flatMap_cons, List.map_append]
      congr 1
      by_cases sigma : c = 'Σ'
      · subst sigma
        rw [if_pos rfl, lowerChar_sigma, List.map_singleton, List.map_singleton,
          view_lowerSigma alike]
      · rw [if_neg sigma]

theorem map_lowercaseChars (alike : view 'ς' = view 'σ') (text : List Char) :
    (lowercaseChars text).map view = (text.flatMap lowerChar).map view :=
  map_lowercaseAfter alike [] text

end

theorem lowercaseAfter_of_small {text : List Char}
    (small : ∀ c ∈ text, c.toNat < 128 ∧ c.toLower = c) (before : List Char) :
    lowercaseAfter before text = text := by
  induction text generalizing before with
  | nil => rfl
  | cons c rest ih =>
      obtain ⟨ascii, lowered⟩ := small c List.mem_cons_self
      have notSigma : c ≠ 'Σ' := by
        rintro rfl
        exact absurd ascii (by decide)
      rw [lowercaseAfter, if_neg notSigma, lowerChar_of_ascii ascii, lowered,
        ih (fun d member => small d (List.mem_cons_of_mem c member)), List.singleton_append]

/-- Nothing is lowered in an ASCII text without capitals. -/
theorem lowercaseChars_of_small {text : List Char}
    (small : ∀ c ∈ text, c.toNat < 128 ∧ c.toLower = c) : lowercaseChars text = text :=
  lowercaseAfter_of_small small []

end DraftBoard.Text
