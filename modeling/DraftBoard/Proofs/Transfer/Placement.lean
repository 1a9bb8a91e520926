import DraftBoard.Proofs.Files.Parents
import DraftBoard.Proofs.Files.Places
import DraftBoard.Proofs.Transfer.Saving

/-!
# Where saved dashboards are put

The title of a saved dashboard decides on the name of its file and on nothing else: whatever the
title is, the file stands in the folder that the options name.  Where that folder is depends on
how it is written.  A relative folder that does not go up is below the output directory.
-/

namespace DraftBoard

open Title

variable {σ : Type}

theorem nul_not_mem_slug (title : String) : '\x00' ∉ (slug title).toList := by
  intro member
  rcases mem_slug member with kept | hyphen
  · exact absurd kept (by decide)
  · exact absurd hyphen (by decide)

theorem provisionedPath_inj {outDir : Path} {folder left right : String}
    (plainLeft : '/' ∉ left.toList) (plainRight : '/' ∉ right.toList)
    (same : (provisionedPath outDir folder left).components =
      (provisionedPath outDir folder right).components) : left = right := by
  rw [components_provisionedPath outDir folder plainLeft,
    components_provisionedPath outDir folder plainRight] at same
  have names := Path.Component.name.inj (List.singleton_inj.mp (List.append_cancel_left same))
  rw [String.toList_append, String.toList_append] at names
  exact String.toList_inj.mp (List.append_cancel_right names)

/-- What a successful saving reports as its file is the provisioned path of its title, and the
document is there. -/
theorem path_of_save {catalogue : Catalogue (StateM (World σ))} {title : String}
    {options : SaveOptions} {world after : World σ} {saving : Saving}
    (saved : carryOut (save catalogue World.machine title options) world =
      (.ok saving, after)) :
    saving.path = provisionedPath options.outDir options.folder (slug saving.title) ∧
    ∃ document, after.files.content? saving.path = some (provisionedText document) := by
  obtain ⟨hit, definition, looked, _, rfl, _, content⟩ := save_ok saved
  rw [SaveOptions.savingFor_path, SaveOptions.savingFor_title]
  exact ⟨SaveOptions.pathFor.eq_def .., _, content⟩

/-- A file that stands in a directory under a name, wherever that directory is. -/
structure Path.StandsIn (path directory : Path) (name : List Char) : Prop where
  isName : IsName name
  nulFree : '\x00' ∉ name
  components : path.components = directory.components ++ [.name name]
  parent : ∃ parent, path.parent? = some parent ∧ parent.components = directory.components
  place : ∀ tree : FileTree, tree.destination path = tree.destination directory ++ [name]

theorem standsIn_provisionedPath (outDir : Path) (folder title : String) :
    (provisionedPath outDir folder (slug title)).StandsIn (outDir.join (.ofString folder))
      (slug title ++ ".json").toList where
  isName := Path.isName_provisioned (slash_not_mem_slug title)
  nulFree := by
    rw [String.toList_append, List.mem_append, not_or]
    exact ⟨nul_not_mem_slug title, by decide⟩
  components := components_provisionedPath outDir folder (slash_not_mem_slug title)
  parent := Path.exists_parent?
    (components_provisionedPath outDir folder (slash_not_mem_slug title))
  place tree := tree.destination_provisionedPath outDir folder (slash_not_mem_slug title)

/-- The file of a title stands in the folder under the slug of the title, and two titles have
one file exactly if they have one slug. -/
theorem titles_stay_in_folder (outDir : Path) (folder title : String) :
    (provisionedPath outDir folder (slug title)).StandsIn (outDir.join (.ofString folder))
      (slug title ++ ".json").toList ∧
    (∀ other, provisionedPath outDir folder (slug title) =
      provisionedPath outDir folder (slug other) ↔ slug title = slug other) ∧
    (∀ other, (provisionedPath outDir folder (slug title)).components =
      (provisionedPath outDir folder (slug other)).components ↔ slug title = slug other) ∧
    ∀ (catalogue : Catalogue (StateM (World σ))) (asked : String) (options : SaveOptions)
      (world after : World σ) (saving : Saving),
      carryOut (save catalogue World.machine asked options) world = (.ok saving, after) →
      saving.path.StandsIn (options.outDir.join (.ofString options.folder))
        (slug saving.title ++ ".json").toList := by
  have inj : ∀ other, (provisionedPath outDir folder (slug title)).components =
      (provisionedPath outDir folder (slug other)).components → slug title = slug other :=
    fun other same => provisionedPath_inj (slash_not_mem_slug title) (slash_not_mem_slug other) same
  refine ⟨standsIn_provisionedPath outDir folder title, ?_, ?_, ?_⟩
  · intro other
    exact ⟨fun same => inj other (congrArg Path.components same), fun same => by rw [same]⟩
  · intro other
    exact ⟨inj other, fun same => by rw [same]⟩
  · intro catalogue asked options world after saving saved
    obtain ⟨written, _⟩ := path_of_save saved
    rw [written]
    exact standsIn_provisionedPath options.outDir options.folder saving.title

/-- A draft is to be saved under a title that looks like a path. -/
def climbingOptions : SaveOptions := { sampleOptions with title := some "../../etc/passwd\x00" }

def climbingSaving : Saving where
  sourceFolder := "General"
  sourceTitle := "Disk (WIP)"
  path := .ofString "/out/hosts/-etc-passwd-.json"
  title := "../../etc/passwd\x00"

def climbingRun : Except TransferError Saving × World Shelf :=
  carryOut (save (World.catalogue Shelf.catalogue) World.machine "Disk" climbingOptions)
    sampleWorld

theorem titles_stay_in_folder_sample :
    climbingRun = (.ok climbingSaving, climbingRun.2) ∧
    (Path.ofString "/out/hosts/-etc-passwd-.json").StandsIn (.ofString "/out/hosts")
      "-etc-passwd-.json".toList := by
  have ran : climbingRun = (.ok climbingSaving, climbingRun.2) := rfl
  obtain ⟨_, _, _, saves⟩ :=
    @titles_stay_in_folder Shelf (.ofString "/out") "hosts" "../../etc/passwd\x00"
  have stands := saves _ _ _ _ _ _ ran
  exact ⟨ran, stands⟩

/-- A path is below another one if it goes on from there and never goes up. -/
def Path.IsBelow (path directory : Path) : Prop :=
  ∃ rest, path.components = directory.components ++ rest ∧ Component.up ∉ rest

theorem Path.isBelow_of_append {path directory : Path} {rest : List Component}
    (goesOn : path.components = directory.components ++ rest) :
    path.IsBelow directory ↔ Component.up ∉ rest := by
  constructor
  · rintro ⟨other, whole, straight⟩
    rw [goesOn] at whole
    rwa [List.append_cancel_left whole]
  · intro straight
    exact ⟨rest, goesOn, straight⟩

/-- With one name more a path is below all that it has been below before, and below itself. -/
theorem Path.isBelow_concat_iff {path above directory : Path} {name : List Char}
    (ends : path.components = above.components ++ [.name name]) :
    path.IsBelow directory ↔ above.IsBelow directory ∨ directory.components = path.components := by
  constructor
  · rintro ⟨rest, whole, straight⟩
    cases rest using List.reverseRecOn with
    | nil => exact .inr (by rw [whole, List.append_nil])
    | append_singleton rest last =>
        rw [ends, ← List.append_assoc] at whole
        obtain ⟨same, _⟩ := List.append_inj' whole rfl
        refine .inl ⟨rest, same, ?_⟩
        intro goesUp
        exact straight (List.mem_append_left _ goesUp)
  · rintro (⟨rest, whole, straight⟩ | same)
    · refine ⟨rest ++ [.name name], ?_, by simpa using straight⟩
      rw [ends, whole, List.append_assoc]
    · exact ⟨[], by rw [same, List.append_nil], List.not_mem_nil⟩

/-- The components that a relative folder adds to an output directory. -/
def Path.addedBy (folder outDir : Path) : List Component :=
  if outDir.chars = [] then folder.components else folder.components.filter (· ≠ .here)

theorem Path.components_join_addedBy {outDir folder : Path} (relative : folder.isAbsolute = false) :
    (outDir.join folder).components = outDir.components ++ folder.addedBy outDir := by
  by_cases empty : outDir.chars = []
  · obtain ⟨chars⟩ := outDir
    obtain rfl : chars = [] := empty
    rw [join_of_empty rfl]
    rfl
  · rw [components_join empty relative, addedBy, if_neg empty]

theorem Path.up_mem_addedBy {outDir folder : Path} :
    Component.up ∈ folder.addedBy outDir ↔ Component.up ∈ folder.components := by
  unfold addedBy
  split
  · exact Iff.rfl
  · simp

/-- Where the folder that the options name is, and with it the file, seen from the output
directory. -/
structure FolderPlaced (outDir folder path : Path) (name : List Char) : Prop where
  relative : folder.isAbsolute = false →
    path.components = outDir.components ++ folder.addedBy outDir ++ [.name name]
  absolute : folder.isAbsolute = true → path.components = folder.components ++ [.name name]
  below_iff : path.IsBelow outDir ↔
    if folder.isAbsolute then folder.IsBelow outDir ∨ outDir.components = path.components
    else .up ∉ folder.components

theorem folderPlaced_provisionedPath (outDir : Path) (folder title : String) :
    FolderPlaced outDir (.ofString folder) (provisionedPath outDir folder (slug title))
      (slug title ++ ".json").toList := by
  have whole := components_provisionedPath outDir folder (slash_not_mem_slug title)
  cases absolute : (Path.ofString folder).isAbsolute with
  | true =>
      rw [Path.join_of_isAbsolute outDir absolute] at whole
      refine ⟨?_, fun _ => whole, ?_⟩
      · intro relative
        rw [absolute] at relative
        cases relative
      · rw [if_pos absolute]
        exact Path.isBelow_concat_iff whole
  | false =>
      rw [Path.components_join_addedBy absolute] at whole
      refine ⟨fun _ => whole, ?_, ?_⟩
      · intro rooted
        rw [absolute] at rooted
        cases rooted
      · rw [if_neg (by rw [absolute]; decide), Path.isBelow_of_append
          (whole.trans (List.append_assoc ..)), List.mem_append, Path.up_mem_addedBy]
        simp

/-- The file of a title is below the output directory exactly if its folder is relative and does
not go up, or is absolute and below that directory by itself.  So is every file that is saved. -/
theorem savings_below_iff (outDir : Path) (folder title : String) :
    FolderPlaced outDir (.ofString folder) (provisionedPath outDir folder (slug title))
      (slug title ++ ".json").toList ∧
    ∀ (catalogue : Catalogue (StateM (World σ))) (asked : String) (options : SaveOptions)
      (world after : World σ) (saving : Saving),
      carryOut (save catalogue World.machine asked options) world = (.ok saving, after) →
      (∃ document, after.files.content? saving.path = some (provisionedText document)) ∧
      FolderPlaced options.outDir (.ofString options.folder) saving.path
        (slug saving.title ++ ".json").toList := by
  refine ⟨folderPlaced_provisionedPath outDir folder title, ?_⟩
  intro catalogue asked options world after saving saved
  obtain ⟨written, content⟩ := path_of_save saved
  refine ⟨content, ?_⟩
  rw [written]
  exact folderPlaced_provisionedPath options.outDir options.folder saving.title

theorem savings_below_iff_sample :
    sampleRun = (.ok sampleSaving, sampleRun.2) ∧
    (∃ document, sampleRun.2.files.content? sampleSaving.path =
      some (provisionedText document)) ∧
    sampleSaving.path.IsBelow sampleOptions.outDir := by
  have ran : sampleRun = (.ok sampleSaving, sampleRun.2) := rfl
  obtain ⟨_, saves⟩ := @savings_below_iff Shelf (.ofString "/out") "hosts" "Disk"
  obtain ⟨content, placed⟩ := saves _ _ _ _ _ _ ran
  have straight : Path.Component.up ∉ (Path.ofString "hosts").components := by decide
  refine ⟨ran, content, placed.below_iff.mpr ?_⟩
  rw [if_neg (by decide)]
  exact straight

/-- What saving the draft below another folder comes to. -/
def savedBelow (folder : String) : Except TransferError Saving :=
  (carryOut (save (World.catalogue Shelf.catalogue) World.machine "Disk"
    { sampleOptions with folder := folder }) sampleWorld).1

/-- An absolute folder takes the place of the output directory, and one that goes up leaves it. -/
theorem folders_leave_outDir :
    savedBelow "/srv" = .ok { sampleSaving with path := .ofString "/srv/disk-ref.json" } ∧
    ¬ (Path.ofString "/srv/disk-ref.json").IsBelow sampleOptions.outDir ∧
    savedBelow "../srv" =
      .ok { sampleSaving with path := .ofString "/out/../srv/disk-ref.json" } ∧
    ¬ (Path.ofString "/out/../srv/disk-ref.json").IsBelow sampleOptions.outDir := by
  refine ⟨rfl, ?_, rfl, ?_⟩
  · rintro ⟨rest, whole, _⟩
    have second : some (Path.Component.name "srv".toList) = some (.name "out".toList) :=
      congrArg (fun components => components[1]?) whole
    exact absurd second (by decide)
  · have goesOn : (Path.ofString "/out/../srv/disk-ref.json").components =
        sampleOptions.outDir.components ++
          [.up, .name "srv".toList, .name "disk-ref.json".toList] := by decide
    rw [Path.isBelow_of_append goesOn]
    simp

end DraftBoard
