import DraftBoard.Proofs.Title.Marks

/-!
# Laws of the draft form and the reference form

Both forms are settled, and a title and its draft form have one reference form.  The titles that
are their own reference forms are those that bear the reference mark.  Of the draft marks at the
end of a title the reference form drops the last one alone.
-/

namespace DraftBoard.Title

theorem exists_spelled_of_endsIn {mark title : String} (ended : EndsIn mark title) :
    ∃ base text, title = base ++ text ∧ Spells mark text := by
  obtain ⟨head, tail, split, same⟩ := ended
  refine ⟨String.ofList head, String.ofList tail, ?_, ?_⟩
  · rw [← String.ofList_append, ← split, String.ofList_toList]
  · rw [Spells, String.toList_ofList]
    exact same

/-- One draft mark is dropped, however it is spelled and whatever is in front of it. -/
theorem reference_append_spelled {text : String} (spelled : Spells draftMark text)
    (base : String) :
    reference (base ++ text) =
      if EndsIn referenceMark base then base else base ++ referenceMark := by
  rw [reference_eq, undrafted_append_spelled spelled]

theorem endsIn_draft (title : String) : EndsIn draftMark (draft title) := by
  by_cases marked : EndsIn draftMark title
  · rw [draft_of_endsIn marked]
    exact marked
  · rw [draft_of_not_endsIn marked]
    exact endsIn_append title draftMark

theorem draft_draft (title : String) : draft (draft title) = draft title :=
  draft_of_endsIn (endsIn_draft title)

theorem reference_reference (title : String) : reference (reference title) = reference title :=
  reference_of_endsIn (endsIn_reference title)

theorem reference_draft (title : String) : reference (draft title) = reference title := by
  by_cases marked : EndsIn draftMark title
  · rw [draft_of_endsIn marked]
  · rw [draft_of_not_endsIn marked, reference_append_draftMark marked]

theorem reference_eq_self_iff {title : String} :
    reference title = title ↔ EndsIn referenceMark title := by
  constructor
  · intro same
    rw [← same]
    exact endsIn_reference title
  · exact reference_of_endsIn

/-- The laws of the two forms of a title. -/
theorem forms_settle (title : String) :
    draft (draft title) = draft title ∧
    reference (reference title) = reference title ∧
    reference (draft title) = reference title ∧
    (reference title = title ↔ EndsIn referenceMark title) ∧
    (EndsIn referenceMark title → reference (draft title) = title) ∧
    EndsIn referenceMark (reference title) ∧
    EndsIn draftMark (draft title) ∧
    ∀ base text, Spells draftMark text → reference (base ++ text) =
      if EndsIn referenceMark base then base else base ++ referenceMark := by
  refine ⟨draft_draft title, reference_reference title, reference_draft title,
    reference_eq_self_iff, ?_, endsIn_reference title, endsIn_draft title, ?_⟩
  · intro referenced
    rw [reference_draft, reference_of_endsIn referenced]
  · intro base text spelled
    exact reference_append_spelled spelled base

/-- A mark in mixed case, and a draft of a draft. -/
theorem forms_settle_sample :
    (EndsIn referenceMark "Disk-rEf" ∧ reference (draft "Disk-rEf") = "Disk-rEf") ∧
    Spells draftMark " (wIp)" ∧
    reference ("Disk (WIP)" ++ " (wIp)") = "Disk (WIP)" ++ referenceMark := by
  obtain ⟨_, _, _, _, back, _, _, dropped⟩ := forms_settle "Disk-rEf"
  have referenced : EndsIn referenceMark "Disk-rEf" := by decide
  have spelled : Spells draftMark " (wIp)" := by decide
  refine ⟨⟨referenced, back referenced⟩, spelled, ?_⟩
  rw [dropped "Disk (WIP)" " (wIp)" spelled, if_neg (by decide)]

end DraftBoard.Title
