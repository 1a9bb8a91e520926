import DraftBoard.Proofs.Transfer.FileFrame
import DraftBoard.Proofs.Transfer.Reprovisioning

/-!
# A folder of saved dashboards

Over any sequence of savings, a folder maps each slug to the dashboard that was saved under
it last.  Savings that fail on the way leave no mark on any file.
-/

namespace DraftBoard

variable {σ : Type}

/-- A saving that is asked for: where the draft is looked for and under which title, how it
is saved, and the time. -/
structure SaveCall (σ : Type) where
  catalogue : Catalogue (StateM (World σ))
  /-- The files of the machine are none of the server's. -/
  keepsFiles : catalogue.KeepsFiles
  title : String
  newTitle : Option String
  keepSelections : Bool
  clock : Int

namespace SaveCall

def options (call : SaveCall σ) (outDir : Path) (folder : String) : SaveOptions where
  folder := folder
  title := call.newTitle
  outDir := outDir
  keepSelections := call.keepSelections

/-- Looks for the draft of a call. -/
def look (call : SaveCall σ) (world : World σ) :
    Except TransferError (Hit × Definition) × World σ :=
  carryOut (find call.catalogue World.machine (Title.draft call.title))
    { world with clock := call.clock }

/-- Carries out a call. -/
def run (call : SaveCall σ) (outDir : Path) (folder : String) (world : World σ) :
    Except TransferError Saving × World σ :=
  carryOut (save call.catalogue World.machine call.title (call.options outDir folder))
    { world with clock := call.clock }

/-- What a call saves if it succeeds: the slug of the title that it reports, and the
document that comes from the draft that it has found. -/
def saved? (call : SaveCall σ) (outDir : Path) (folder : String) (world : World σ) :
    Option (String × Dashboard) :=
  match call.look world, (call.run outDir folder world).1 with
  | (.ok (_, definition), looked), .ok saving =>
      some (Title.slug saving.title,
        (call.options outDir folder).documentFor definition.dashboard looked.clock)
  | _, _ => none

/-- A call saves something exactly if it succeeds. -/
theorem isSome_saved? (call : SaveCall σ) (outDir : Path) (folder : String)
    (world : World σ) :
    (call.saved? outDir folder world).isSome = (call.run outDir folder world).1.isOk := by
  unfold saved?
  cases found : call.look world with
  | mk outcome looked =>
      cases outcome with
      | error error =>
          have ran : call.run outDir folder world = (.error error, looked) :=
            save_of_not_found found
          rw [ran]
          rfl
      | ok result =>
          cases (call.run outDir folder world).1 <;> rfl

end SaveCall

/-- The document that was saved last under a slug. -/
def lastSaved (saves : List (String × Dashboard)) (slug : String) : Option Dashboard :=
  saves.reverse.lookup slug

theorem lastSaved_append (earlier later : List (String × Dashboard)) (slug : String) :
    lastSaved (earlier ++ later) slug =
      (lastSaved later slug).or (lastSaved earlier slug) := by
  rw [lastSaved, List.reverse_append, List.lookup_append]
  rfl

theorem lastSaved_eq_none_iff {saves : List (String × Dashboard)} {slug : String} :
    lastSaved saves slug = none ↔ ∀ save ∈ saves, save.1 ≠ slug := by
  rw [lastSaved, List.lookup_eq_none_iff]
  constructor
  · intro absent save member
    exact Ne.symm (bne_iff_ne.mp (absent save (List.mem_reverse.mpr member)))
  · intro absent save member
    exact bne_iff_ne.mpr (Ne.symm (absent save (List.mem_reverse.mp member)))

theorem mem_of_lastSaved {saves : List (String × Dashboard)} {slug : String}
    {document : Dashboard} (found : lastSaved saves slug = some document) :
    (slug, document) ∈ saves := by
  obtain ⟨before, after, split, _⟩ := List.lookup_eq_some_iff.mp found
  rw [← List.mem_reverse, split]
  simp

/-- What one call does to the files: nothing is saved and no file changes, or the document
is provisioned at the path of its slug. -/
inductive CallEffect (outDir : Path) (folder : String) (before after : FileTree) :
    Option (String × Dashboard) → Prop where
  | nothing (changes : FileTree.ChangesAt ∅ before after) :
      CallEffect outDir folder before after none
  | saved {title : String} {document : Dashboard}
      (provisioned : FileTree.provision (provisionedPath outDir folder (Title.slug title))
        (provisionedText document) before = (.ok (), after)) :
      CallEffect outDir folder before after (some (Title.slug title, document))

namespace SaveCall

theorem files_of_look {call : SaveCall σ} {world looked : World σ}
    {outcome : Except TransferError (Hit × Definition)}
    (found : call.look world = (outcome, looked)) : looked.files = world.files := by
  have kept := find_leavesFiles call.keepsFiles (Title.draft call.title)
    { world with clock := call.clock }
  unfold look at found
  rw [found] at kept
  exact kept

/-- A draft that has been found is provisioned, and that decides how the call ends. -/
theorem run_of_found (call : SaveCall σ) (outDir : Path) (folder : String)
    {world looked : World σ} {hit : Hit} {definition : Definition}
    (found : call.look world = (.ok (hit, definition), looked)) :
    ∃ log, call.run outDir folder world =
      ((world.files.provision ((call.options outDir folder).pathFor definition.dashboard)
          (provisionedText ((call.options outDir folder).documentFor definition.dashboard
            looked.clock))).1.map
          (fun _ => (call.options outDir folder).savingFor (Title.draft call.title) hit
            definition.dashboard),
        { looked with
          files := (world.files.provision
            ((call.options outDir folder).pathFor definition.dashboard)
            (provisionedText ((call.options outDir folder).documentFor definition.dashboard
              looked.clock))).2
          log := log }) := by
  obtain ⟨log, ran⟩ := save_of_found (call.options outDir folder) found
  rw [files_of_look found] at ran
  exact ⟨log, ran⟩

theorem run_effect (call : SaveCall σ) (outDir : Path) (folder : String) (world : World σ) :
    CallEffect outDir folder world.files (call.run outDir folder world).2.files
      (call.saved? outDir folder world) := by
  cases found : call.look world with
  | mk outcome looked =>
      cases outcome with
      | error error =>
          have ran : call.run outDir folder world = (.error error, looked) :=
            save_of_not_found found
          have unsaved : call.saved? outDir folder world = none := by
            simp only [saved?, found]
          rw [unsaved, ran, files_of_look found]
          exact .nothing (.refl ∅ _)
      | ok result =>
          obtain ⟨hit, definition⟩ := result
          obtain ⟨log, ran⟩ := call.run_of_found outDir folder found
          cases provisioned : FileTree.provision
            ((call.options outDir folder).pathFor definition.dashboard)
            (provisionedText ((call.options outDir folder).documentFor definition.dashboard
              looked.clock)) world.files with
          | mk result after =>
              rw [provisioned] at ran
              cases result with
              | error error =>
                  have unsaved : call.saved? outDir folder world = none := by
                    simp only [saved?, found, ran, Except.map]
                  rw [unsaved, ran]
                  exact .nothing (FileTree.changesAt_provision_error provisioned)
              | ok done =>
                  have saved : call.saved? outDir folder world =
                      some (Title.slug ((call.options outDir folder).titleFor
                        definition.dashboard),
                      (call.options outDir folder).documentFor definition.dashboard
                        looked.clock) := by
                    simp only [saved?, found, ran, Except.map, SaveOptions.savingFor_title]
                  rw [saved, ran]
                  exact .saved provisioned

end SaveCall

/-- The places of the files that savings have gone to. -/
def savedPlaces (outDir : Path) (folder : String) (tree : FileTree)
    (saves : List (String × Dashboard)) : Set Place :=
  {place | ∃ save ∈ saves, place = tree.destination (provisionedPath outDir folder save.1)}

/-- What savings have made of the files: a folder that maps each slug to what was saved
under it last, and no other change. -/
structure FolderMap (outDir : Path) (folder : String) (saves : List (String × Dashboard))
    (before after : FileTree) : Prop where
  changes : FileTree.ChangesAt (savedPlaces outDir folder before saves) before after
  last : ∀ slug document, lastSaved saves slug = some document →
    after.fileAt? (before.destination (provisionedPath outDir folder slug)) =
      some (provisionedText document)
  ready : ∀ save ∈ saves, FileTree.Ready after (provisionedPath outDir folder save.1)
  slugs : ∀ save ∈ saves, '/' ∉ save.1.toList

namespace FolderMap

variable {outDir : Path} {folder : String} {saves later : List (String × Dashboard)}
variable {before between after : FileTree}

/-- A file that nothing has been saved to is as it was. -/
theorem unsaved (map : FolderMap outDir folder saves before after) {slug : String}
    (plain : '/' ∉ slug.toList) (absent : lastSaved saves slug = none) :
    after.fileAt? (before.destination (provisionedPath outDir folder slug)) =
      before.fileAt? (before.destination (provisionedPath outDir folder slug)) := by
  apply map.changes.elsewhere
  rintro ⟨save, member, same⟩
  have sameSlug := FileTree.eq_of_destination_eq before outDir folder plain
    (map.slugs save member) same
  exact lastSaved_eq_none_iff.mp absent save member sameSlug.symm

theorem trans (first : FolderMap outDir folder saves before between)
    (second : FolderMap outDir folder later between after) :
    FolderMap outDir folder (saves ++ later) before after := by
  have samePlaces : ∀ path, between.destination path = before.destination path :=
    first.changes.destination
  refine ⟨?_, ?_, ?_, ?_⟩
  · refine (first.changes.mono ?_).trans (second.changes.mono ?_)
    · rintro place ⟨save, member, same⟩
      exact ⟨save, List.mem_append_left _ member, same⟩
    · rintro place ⟨save, member, same⟩
      rw [samePlaces] at same
      exact ⟨save, List.mem_append_right _ member, same⟩
  · intro slug document found
    rw [lastSaved_append] at found
    cases again : lastSaved later slug with
    | some other =>
        rw [again, Option.some_or] at found
        cases found
        rw [← samePlaces]
        exact second.last slug document again
    | none =>
        -- What was saved before is still there: only files of other slugs came behind it.
        rw [again, Option.none_or] at found
        have plain := first.slugs _ (mem_of_lastSaved found)
        have kept := second.unsaved plain again
        rw [samePlaces] at kept
        rw [kept]
        exact first.last slug document found
  · intro save member
    rcases List.mem_append.mp member with earlier | now
    · exact second.changes.ready (first.ready save earlier)
    · exact second.ready save now
  · intro save member
    rcases List.mem_append.mp member with earlier | now
    · exact first.slugs save earlier
    · exact second.slugs save now

end FolderMap

end DraftBoard
