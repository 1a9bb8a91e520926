import DraftBoard.Proofs.Dashboard.Differences
import DraftBoard.Proofs.Transfer.Saving

/-!
# Host selections stay on the server

What is saved of a draft does not depend on the hosts that its editor last looked at,
unless the selections are to be kept.
-/

namespace DraftBoard

open Json

variable {σ τ : Type}

/-- A lookup from a world finds a hit and a document, and leaves another world. -/
def FindsDraft (catalogue : Catalogue (StateM (World σ))) (title : String) (world : World σ)
    (hit : Hit) (draft : Dashboard) (looked : World σ) : Prop :=
  ∃ about, carryOut (find catalogue World.machine (Title.draft title)) world =
    (.ok (hit, ⟨draft, about⟩), looked)

theorem SaveOptions.titleFor_of_same (options : SaveOptions) {left right : Dashboard}
    (same : left.SameButSelections right) : options.titleFor left = options.titleFor right := by
  rw [titleFor, titleFor, same.title_eq]

theorem SaveOptions.documentFor_of_same {options : SaveOptions}
    (resets : options.keepSelections = false) {left right : Dashboard}
    (same : left.SameButSelections right) (version : Int) :
    options.documentFor left version = options.documentFor right version := by
  have settled : options.settled left = options.settled right := by
    simp only [settled, resets, Bool.false_eq_true, if_false, same.resetHostSelections_eq]
  rw [documentFor, documentFor, settled, options.titleFor_of_same same]

/-- Two documents that differ in host selections alone are put back to one document, with
the same count.  So two savings that reset selections and find such documents under one
hit, with the same files and the same time, end in the same way and leave the same
files. -/
theorem no_selection_leaks {left right : Dashboard} (same : left.SameButSelections right) :
    left.resetHostSelections = right.resetHostSelections ∧
    ∀ {catalogue : Catalogue (StateM (World σ))} {other : Catalogue (StateM (World τ))}
      {title : String} {options : SaveOptions} {hit : Hit} {world looked after : World σ}
      {site seen behind : World τ} {outcome result : Except TransferError Saving},
      options.keepSelections = false →
      FindsDraft catalogue title world hit left looked →
      FindsDraft other title site hit right seen →
      looked.files = seen.files → looked.clock = seen.clock →
      carryOut (save catalogue World.machine title options) world = (outcome, after) →
      carryOut (save other World.machine title options) site = (result, behind) →
      outcome = result ∧ after.files = behind.files ∧
      ∀ saving, outcome = .ok saving → ∃ text,
        after.files.content? saving.path = some text ∧
        behind.files.content? saving.path = some text := by
  refine ⟨same.resetHostSelections_eq, ?_⟩
  intro catalogue other title options hit world looked after site seen behind outcome result
    resets found foundToo files clock ran ranToo
  obtain ⟨about, found⟩ := found
  obtain ⟨aboutToo, foundToo⟩ := foundToo
  obtain ⟨log, saves⟩ := save_of_found options found
  obtain ⟨logToo, savesToo⟩ := save_of_found options foundToo
  have path : options.pathFor left = options.pathFor right := by
    rw [SaveOptions.pathFor, SaveOptions.pathFor, options.titleFor_of_same same]
  have document : options.documentFor left looked.clock =
      options.documentFor right seen.clock := by
    rw [clock, SaveOptions.documentFor_of_same resets same]
  have saving : options.savingFor (Title.draft title) hit left =
      options.savingFor (Title.draft title) hit right := by
    rw [SaveOptions.savingFor, SaveOptions.savingFor, path, options.titleFor_of_same same]
  rw [ran, path, document, files, saving] at saves
  rw [ranToo] at savesToo
  have outcomes : outcome = result :=
    (congrArg Prod.fst saves).trans (congrArg Prod.fst savesToo).symm
  have filesToo : after.files = behind.files :=
    (congrArg (·.2.files) saves).trans (congrArg (·.2.files) savesToo).symm
  refine ⟨outcomes, filesToo, ?_⟩
  intro saving success
  subst success
  obtain ⟨_, _, _, _, report, _, content⟩ := save_ok ran
  have reported := (congrArg Saving.path report).trans (SaveOptions.savingFor_path ..)
  rw [← reported] at content
  exact ⟨_, content, filesToo ▸ content⟩

/-- One draft as it is left behind by a look at a host. -/
def lookedAt (host allValue : Json) : Dashboard where
  fields := [("title", .string "Disk (WIP)"), ("templating", .object [("list", .array [
    .object [("name", .string "interval"), ("current", .string "5s")],
    .object [("current", .object [("value", host)]), ("name", .string "Instance"),
      ("includeAll", .bool true), ("allValue", allValue)]])])]

def firstLook : Dashboard := lookedAt (.string "web1") .null

def secondLook : Dashboard := lookedAt (.array [.string "db2"]) (.string "db.*")

theorem firstLook_same : firstLook.SameButSelections secondLook := by
  refine ⟨⟨by decide, rfl, ?_⟩, .list ⟨by decide, rfl, ?_⟩ rfl rfl
    (.cons (.same _) (.cons (.selection rfl ⟨by decide, rfl, ?_⟩) .nil))⟩
  · intro key unexcepted
    have elsewhere : key ≠ "templating" := by simpa using unexcepted
    simp only [firstLook, secondLook, lookedAt, Fields.get?_cons, elsewhere, if_false]
  · intro key unexcepted
    have elsewhere : key ≠ "list" := by simpa using unexcepted
    simp only [Fields.get?_cons, elsewhere, if_false]
  · intro key unexcepted
    have elsewhere : key ∉ ["allValue", "current"] := unexcepted
    simp only [List.mem_cons, List.not_mem_nil, or_false, not_or] at elsewhere
    simp only [Fields.get?_cons, elsewhere, if_false]

def draftHit : Hit := ⟨"Disk (WIP)", "draft-1", none⟩

/-- A look alone on a shelf. -/
def lookWorld (look : Dashboard) : World Shelf := shelved draftHit look 7

/-- What saving a look comes to. -/
def lookSaving (look : Dashboard) : Except TransferError Saving × World Shelf :=
  carryOut (save (World.catalogue Shelf.catalogue) World.machine "Disk" sampleOptions)
    (lookWorld look)

/-- What looking a look up comes to. -/
def lookFinding (look : Dashboard) : Except TransferError (Hit × Definition) × World Shelf :=
  carryOut (find (World.catalogue Shelf.catalogue) World.machine (Title.draft "Disk"))
    (lookWorld look)

theorem no_selection_leaks_sample :
    firstLook.resetHostSelections = secondLook.resetHostSelections ∧
    (lookSaving firstLook).1 = .ok sampleSaving ∧
    (lookSaving secondLook).1 = .ok sampleSaving ∧
    ∃ text, (lookSaving firstLook).2.files.content? sampleSaving.path = some text ∧
      (lookSaving secondLook).2.files.content? sampleSaving.path = some text := by
  have found : lookFinding firstLook =
    (.ok (draftHit, ⟨firstLook, Shelf.about⟩), (lookFinding firstLook).2) := rfl
  have foundToo : lookFinding secondLook =
    (.ok (draftHit, ⟨secondLook, Shelf.about⟩), (lookFinding secondLook).2) := rfl
  have first : lookSaving firstLook = (.ok sampleSaving, (lookSaving firstLook).2) := rfl
  have second : lookSaving secondLook = (.ok sampleSaving, (lookSaving secondLook).2) := rfl
  have resets : sampleOptions.keepSelections = false := rfl
  obtain ⟨settled, saved⟩ := @no_selection_leaks Shelf Shelf _ _ firstLook_same
  obtain ⟨_, _, writes⟩ := saved resets ⟨_, found⟩ ⟨_, foundToo⟩ rfl rfl first second
  exact ⟨settled, rfl, rfl, writes sampleSaving rfl⟩

end DraftBoard
