import DraftBoard.Proofs.Title.Spellings
import DraftBoard.Proofs.Transfer.Saving

/-!
# What a saved dashboard is known by

The uid of a saved dashboard and the stem of its file are one slug, that of its title.  Such a
slug is its own slug.  Without a title of its own a dashboard is known by the slug of the
reference form of its draft's title, and how the reference mark is spelled does not matter to it
unless the slug parts the mark.
-/

namespace DraftBoard

open Title

variable {σ : Type}

/-- What a saving leaves behind is known by one stem: the file is named for it, and the document
in the file has it as its uid. -/
structure SavedAs (saving : Saving) (files : FileTree) (stem : String) : Prop where
  file : saving.path.components.getLast? = some (.name (stem ++ ".json").toList)
  uid : ∃ document, files.content? saving.path = some (provisionedText document) ∧
    document.get? "uid" = some (.string stem)

/-- A saving that succeeds has found a draft and is known by the slug of its new title. -/
theorem savedAs_of_save {catalogue : Catalogue (StateM (World σ))} {title : String}
    {options : SaveOptions} {world after : World σ} {saving : Saving}
    (saved : carryOut (save catalogue World.machine title options) world =
      (.ok saving, after)) :
    ∃ hit definition looked,
      carryOut (find catalogue World.machine (draft title)) world =
        (.ok (hit, definition), looked) ∧
      SavedAs saving after.files (slug (options.titleFor definition.dashboard)) := by
  obtain ⟨hit, definition, looked, found, rfl, _, content⟩ := save_ok saved
  refine ⟨hit, definition, looked, found, ?_, ?_⟩
  · rw [SaveOptions.savingFor_path, SaveOptions.pathFor]
    exact getLast?_provisionedPath options.outDir options.folder (slash_not_mem_slug _)
  · rw [SaveOptions.savingFor_path]
    exact ⟨_, content, (options.identified definition.dashboard looked.clock).uid⟩

/-- Every slug is of the shape of slugs and holds what a slug keeps of the lowered title, and the
titles of that shape are their own slugs: among them what saved dashboards are known by. -/
theorem slugs_settle (title : String) :
    IsSlug (slug title).toList ∧
    (slug title).toList.filter (KeptInSlug ·) =
      (Text.lowercase title).toList.filter (KeptInSlug ·) ∧
    (slug title = title ↔ IsSlug title.toList) ∧
    slug (slug title) = slug title ∧
    ∀ (catalogue : Catalogue (StateM (World σ))) (asked : String) (options : SaveOptions)
      (world after : World σ) (saving : Saving),
      carryOut (save catalogue World.machine asked options) world = (.ok saving, after) →
      ∃ stem, SavedAs saving after.files stem ∧ slug stem = stem := by
  refine ⟨isSlug_slug title, ?_, slug_eq_self_iff, slug_slug title, ?_⟩
  · rw [← filter_isSlugChar, ← filter_isSlugChar, slug, Text.lowercase, String.toList_ofList,
      String.toList_ofList, filter_slugChars]
  · intro catalogue asked options world after saving saved
    obtain ⟨_, definition, _, _, savedAs⟩ := savedAs_of_save saved
    exact ⟨_, savedAs, slug_slug _⟩

theorem slugs_settle_sample :
    sampleRun = (.ok sampleSaving, sampleRun.2) ∧
    ∃ stem, SavedAs sampleSaving sampleRun.2.files stem ∧ slug stem = stem := by
  have ran : sampleRun = (.ok sampleSaving, sampleRun.2) := rfl
  obtain ⟨_, _, _, _, saves⟩ := @slugs_settle Shelf "Disk"
  exact ⟨ran, saves _ _ _ _ _ _ ran⟩

/-- The stem of a reference title ends in the reference mark unless it parts that mark, and
titles that differ in a draft mark and in the spelling of the reference mark have one stem as
long as it is not parted.  Without a title of its own a dashboard is saved under that stem. -/
theorem unparted_marks_share_stems :
    (∀ title, referenceMark.toList <:+ (slug (reference title)).toList ↔
      ¬ EndsParted (reference title)) ∧
    (∀ base mark tail, Spells referenceMark mark → (tail = "" ∨ Spells draftMark tail) →
      (slug (reference (base ++ mark ++ tail)) = slug (base ++ referenceMark) ↔
        mark ∉ partedMarks)) ∧
    (∀ (catalogue : Catalogue (StateM (World σ))) (asked : String) (options : SaveOptions)
      (world after : World σ) (saving : Saving), options.title = none →
      carryOut (save catalogue World.machine asked options) world = (.ok saving, after) →
      ∃ hit definition looked,
        carryOut (find catalogue World.machine (draft asked)) world =
          (.ok (hit, definition), looked) ∧
        SavedAs saving after.files (slug (reference definition.dashboard.title))) := by
  refine ⟨slug_reference_ends_iff, ?_, ?_⟩
  · intro base mark tail spelled drafted
    rw [reference_append_marks spelled drafted]
    exact slug_append_mark_eq_iff spelled base
  · intro catalogue asked options world after saving untitled saved
    obtain ⟨hit, definition, looked, found, savedAs⟩ := savedAs_of_save saved
    rw [SaveOptions.titleFor, untitled, Option.getD_none] at savedAs
    exact ⟨hit, definition, looked, found, savedAs⟩

theorem unparted_marks_share_stems_sample :
    (Spells referenceMark "-REF" ∧ Spells draftMark " (wip)" ∧
      slug (reference ("Disk" ++ "-REF" ++ " (wip)")) = slug ("Disk" ++ referenceMark)) ∧
    sampleOptions.title = none ∧ sampleRun = (.ok sampleSaving, sampleRun.2) ∧
    ∃ (definition : Definition),
      SavedAs sampleSaving sampleRun.2.files (slug (reference definition.dashboard.title)) := by
  obtain ⟨_, stems, saves⟩ := @unparted_marks_share_stems Shelf
  have spelled : Spells referenceMark "-REF" := by decide
  have drafted : Spells draftMark " (wip)" := by decide
  have untitled : sampleOptions.title = none := rfl
  have ran : sampleRun = (.ok sampleSaving, sampleRun.2) := rfl
  obtain ⟨_, definition, _, _, savedAs⟩ := saves _ _ _ _ _ _ untitled ran
  exact ⟨⟨spelled, drafted, (stems "Disk" "-REF" " (wip)" spelled (.inr drafted)).mpr (by decide)⟩,
    untitled, ran, definition, savedAs⟩

/-- A draft whose title has the reference mark with a capital behind a small letter. -/
def partedWorld : World Shelf :=
  shelved ⟨"Disk (WIP)", "draft-1", none⟩ ⟨[("title", .string "Disk-rEf (WIP)")]⟩ 7

/-- A mark with a capital behind a small letter is parted, and its dashboard is saved beside the
one that has the mark in small letters. -/
theorem parted_mark_changes_stem :
    Spells referenceMark "-rEf" ∧
    slug (reference ("Disk" ++ "-rEf" ++ " (WIP)")) = "disk-r-ef" ∧
    slug (reference ("Disk" ++ "-ref" ++ " (WIP)")) = "disk-ref" ∧
    ¬ referenceMark.toList <:+ "disk-r-ef".toList ∧
    (carryOut (save (World.catalogue Shelf.catalogue) World.machine "Disk" sampleOptions)
      partedWorld).1 =
        .ok ⟨"General", "Disk (WIP)", .ofString "/out/hosts/disk-r-ef.json", "Disk-rEf"⟩ := by
  refine ⟨by decide, by decide, by decide, by decide, ?_⟩
  rfl

end DraftBoard
