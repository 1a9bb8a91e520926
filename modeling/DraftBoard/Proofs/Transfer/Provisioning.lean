import DraftBoard.Proofs.Files.Writing
import DraftBoard.Proofs.Transfer.Lookup
import DraftBoard.Transfer.Provision

/-!
# Provisioning on a file tree

Writing a dashboard touches the files of a world and its log.  `provision` is
what becomes of the files, `takes` the condition under which it succeeds; neither
depends on what is written.
-/

namespace DraftBoard

namespace FileTree

/-- Makes the directories above a path. -/
def makeAbove (path : Path) (tree : FileTree) : Except TransferError Unit × FileTree :=
  match path.parent? with
  | none => (.ok (), tree)
  | some parent =>
      let (outcome, made) := makeDirectories parent tree
      (outcome.mapError (.filesystem parent), made)

/-- Writes a file, making the directories above it first. -/
def provision (path : Path) (content : String) (tree : FileTree) :
    Except TransferError Unit × FileTree :=
  match makeAbove path tree with
  | (.error error, made) => (.error error, made)
  | (.ok (), made) =>
      let (outcome, written) := writeFile path content made
      (outcome.mapError (.filesystem path), written)

/-- Whether a file can be written at a path, the directories above it made first. -/
def takes (tree : FileTree) (path : Path) : Bool :=
  (provision path "" tree).1.isOk

theorem writeFile_outcome (path : Path) (left right : String) (tree : FileTree) :
    (writeFile path left tree).1 = (writeFile path right tree).1 := by
  unfold writeFile
  split
  · rfl
  · rfl
  · split
    · rfl
    · split
      · rfl
      · split <;> rfl

theorem provision_outcome (path : Path) (left right : String) (tree : FileTree) :
    (provision path left tree).1 = (provision path right tree).1 := by
  unfold provision
  split
  · rfl
  · next made _ =>
      exact congrArg (Except.mapError (TransferError.filesystem path))
        (writeFile_outcome path left right made)

theorem eq_of_mapError {ε : Type} {blame : ε → TransferError} {outcome : Except ε Unit}
    {error : TransferError} (failed : outcome.mapError blame = .error error) :
    ∃ cause, outcome = .error cause ∧ error = blame cause := by
  cases outcome with
  | ok done => cases failed
  | error cause =>
      cases failed
      exact ⟨cause, rfl, rfl⟩

/-- Where the directories above a path cannot be made, its parent is to blame. -/
theorem makeAbove_error {tree : FileTree} {path : Path} {error : TransferError}
    (failed : (makeAbove path tree).1 = .error error) :
    ∃ parent cause, path.parent? = some parent ∧
      (makeDirectories parent tree).1 = .error cause ∧ error = .filesystem parent cause := by
  unfold makeAbove at failed
  split at failed
  · cases failed
  · next parent found =>
      obtain ⟨cause, refused, same⟩ := eq_of_mapError failed
      exact ⟨parent, cause, found, refused, same⟩

theorem makeDirectories_of_makeAbove {tree made : FileTree} {path parent : Path}
    (ran : makeAbove path tree = (.ok (), made)) (found : path.parent? = some parent) :
    makeDirectories parent tree = (.ok (), made) := by
  unfold makeAbove at ran
  rw [found] at ran
  cases above : makeDirectories parent tree with
  | mk outcome left =>
      simp only [above] at ran
      cases outcome with
      | error cause => cases ran
      | ok done =>
          cases ran
          rfl

/-- What cannot be provisioned is refused by the file system: at the parent if the
directories above the path could not be made, and at the path itself otherwise. -/
theorem provision_blames {tree : FileTree} {path : Path} {content : String}
    {error : TransferError} (failed : (provision path content tree).1 = .error error) :
    (∃ parent cause, path.parent? = some parent ∧
      (makeDirectories parent tree).1 = .error cause ∧ error = .filesystem parent cause) ∨
    ((∀ parent, path.parent? = some parent → (makeDirectories parent tree).1 = .ok ()) ∧
      ∃ cause, error = .filesystem path cause) := by
  unfold provision at failed
  split at failed
  · next above =>
      cases failed
      exact .inl (makeAbove_error (congrArg Prod.fst above))
  · next above =>
      obtain ⟨cause, _, same⟩ := eq_of_mapError failed
      refine .inr ⟨?_, cause, same⟩
      intro parent found
      rw [makeDirectories_of_makeAbove above found]

theorem provision_error {tree : FileTree} {path : Path} {content : String}
    {error : TransferError} (failed : (provision path content tree).1 = .error error) :
    ∃ blamed cause, error = .filesystem blamed cause := by
  rcases provision_blames failed with ⟨parent, cause, _, _, same⟩ | ⟨_, cause, same⟩
  · exact ⟨parent, cause, same⟩
  · exact ⟨path, cause, same⟩

/-- What a provisioning that succeeds has gone through. -/
theorem provision_ok {tree after : FileTree} {path : Path} {content : String}
    (provisioned : provision path content tree = (.ok (), after)) :
    ∃ made, makeAbove path tree = (.ok (), made) ∧
      writeFile path content made = (.ok (), after) := by
  unfold provision at provisioned
  split at provisioned
  · cases provisioned
  · next made above =>
      cases outcome : writeFile path content made with
      | mk result left =>
          rw [outcome] at provisioned
          cases result with
          | error cause => cases provisioned
          | ok done =>
              cases provisioned
              exact ⟨made, above, outcome⟩

/-- A file that was provisioned holds what was written. -/
theorem content?_of_provision {tree after : FileTree} {path : Path} {content : String}
    (provisioned : provision path content tree = (.ok (), after)) :
    after.content? path = some content := by
  obtain ⟨made, _, written⟩ := provision_ok provisioned
  exact content?_of_writeFile written

theorem provision_of_takes {tree : FileTree} {path : Path}
    (taken : tree.takes path = true) (content : String) :
    ∃ after, provision path content tree = (.ok (), after) ∧
      after.content? path = some content := by
  have succeeds : (provision path content tree).1 = .ok () := by
    rw [provision_outcome path content "" tree]
    unfold takes at taken
    cases outcome : (provision path "" tree).1 with
    | error error =>
        rw [outcome] at taken
        cases taken
    | ok done => rfl
  refine ⟨(provision path content tree).2, ?_, ?_⟩
  · exact Prod.ext succeeds rfl
  · exact content?_of_provision (Prod.ext succeeds rfl)

end FileTree

variable {σ : Type}

private theorem carryOut_blaming (path : Path)
    (step : FileTree → Except FileError Unit × FileTree) (world : World σ) :
    carryOut (blaming path (World.onFiles step)) world =
      ((step world.files).1.mapError (.filesystem path),
        { world with files := (step world.files).2 }) := by
  unfold blaming
  rw [carryOut_bind]
  simp only [liftM, carryOut_lift]
  have ran : (World.onFiles step).run world =
      ((step world.files).1, { world with files := (step world.files).2 }) := rfl
  rw [ran]
  cases (step world.files).1 <;> rfl

private theorem carryOut_blaming_note (path : Path)
    (step : FileTree → Except FileError Unit × FileTree) (event : Event)
    (world : World σ) :
    ∃ log, carryOut (do
        blaming path (World.onFiles step)
        liftM ((World.machine : Machine (StateM (World σ))).note event)) world =
      ((step world.files).1.mapError (.filesystem path),
        { world with files := (step world.files).2, log := log }) := by
  rw [carryOut_bind, carryOut_blaming]
  cases (step world.files).1 with
  | error cause => exact ⟨world.log, rfl⟩
  | ok done => exact ⟨_, rfl⟩

/-- Writing a dashboard is provisioning its text; the rest of the world but the log
stays as it is. -/
theorem carryOut_writeDashboard (path : Path) (dashboard : Dashboard) (world : World σ) :
    ∃ log, carryOut (writeDashboard World.machine path dashboard) world =
      ((world.files.provision path (provisionedText dashboard)).1,
        { world with
          files := (world.files.provision path (provisionedText dashboard)).2
          log := log }) := by
  have write := carryOut_blaming_note (σ := σ) path
    (FileTree.writeFile path (provisionedText dashboard))
    ⟨.debug, .files, "Wrote " ++ path.text⟩
  unfold writeDashboard FileTree.provision FileTree.makeAbove
  cases path.parent? with
  | none => exact write world
  | some parent =>
      have make := carryOut_blaming parent (FileTree.makeDirectories parent) world
      simp only
      cases outcome : FileTree.makeDirectories parent world.files with
      | mk result made =>
          rw [outcome] at make
          cases result with
          | error cause =>
              refine ⟨world.log, ?_⟩
              exact carryOut_bind_of_error make _
          | ok done =>
              obtain ⟨log, written⟩ := write { world with files := made }
              refine ⟨log, ?_⟩
              exact (carryOut_bind_of_ok make _).trans written

end DraftBoard
