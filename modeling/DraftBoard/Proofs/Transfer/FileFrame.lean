import DraftBoard.Proofs.Transfer.Saving
import DraftBoard.Transfer.Promote

/-!
# Files that stay as they are

Finding and promoting leave the files alone, and so does a saving that fails for any other
reason than a refusal of the file system.  What the calls to the catalogue themselves do to
the files is up to the catalogue.
-/

namespace DraftBoard

variable {σ α β : Type}

/-- An action that leaves the files of the machine as they are. -/
def LeavesFiles (action : ExceptT TransferError (StateM (World σ)) α) : Prop :=
  ∀ world, (carryOut action world).2.files = world.files

namespace LeavesFiles

theorem pure (result : α) :
    LeavesFiles (Pure.pure result : ExceptT TransferError (StateM (World σ)) α) := by
  intro world
  rfl

theorem throw (error : TransferError) :
    LeavesFiles (MonadExcept.throw error : ExceptT TransferError (StateM (World σ)) α) := by
  intro world
  rfl

theorem lift {step : StateM (World σ) α}
    (leaves : ∀ world, (step.run world).2.files = world.files) :
    LeavesFiles (monadLift step : ExceptT TransferError (StateM (World σ)) α) := by
  intro world
  rw [carryOut_lift]
  exact leaves world

theorem note (event : Event) :
    LeavesFiles (liftM ((World.machine : Machine (StateM (World σ))).note event) :
      ExceptT TransferError (StateM (World σ)) Unit) := by
  intro world
  rfl

theorem bind {first : ExceptT TransferError (StateM (World σ)) α}
    {next : α → ExceptT TransferError (StateM (World σ)) β} (left : LeavesFiles first)
    (right : ∀ result, LeavesFiles (next result)) : LeavesFiles (first >>= next) := by
  intro world
  have firstFiles := left world
  rw [carryOut_bind]
  cases ran : carryOut first world with
  | mk outcome between =>
      rw [ran] at firstFiles
      cases outcome with
      | error error => exact firstFiles
      | ok result => exact (right result between).trans firstFiles

end LeavesFiles

/-- A catalogue none of whose calls touches the files of the machine. -/
structure Catalogue.KeepsFiles (catalogue : Catalogue (StateM (World σ))) : Prop where
  search : ∀ query, LeavesFiles (catalogue.search query)
  fetch : ∀ uid, LeavesFiles (catalogue.fetch uid)
  upload : ∀ request, LeavesFiles (catalogue.upload request)

theorem World.catalogue_keepsFiles (server : Catalogue (StateM σ)) :
    (World.catalogue server).KeepsFiles where
  search _ _ := rfl
  fetch _ _ := rfl
  upload _ _ := rfl

variable {catalogue : Catalogue (StateM (World σ))}

theorem find_leavesFiles (keeps : catalogue.KeepsFiles) (title : String) :
    LeavesFiles (find catalogue World.machine title) := by
  unfold find
  apply (keeps.search title).bind
  intro hits
  apply (LeavesFiles.note _).bind
  intro noted
  cases hits.find? (fun hit => hit.title == title) with
  | none => exact .throw _
  | some hit =>
      apply (keeps.fetch hit.uid).bind
      intro definition
      apply (LeavesFiles.note _).bind
      intro noted
      exact .pure _

theorem promote_leavesFiles (keeps : catalogue.KeepsFiles) (title : String) :
    LeavesFiles (promote catalogue World.machine title) := by
  unfold promote
  apply (find_leavesFiles keeps title).bind
  intro found
  apply (keeps.upload _).bind
  intro stored
  exact .pure _

/-- Where a saving fails and the file system is not to blame, no file has changed. -/
theorem files_of_save_error (keeps : catalogue.KeepsFiles) {title : String}
    {options : SaveOptions} {world after : World σ} {error : TransferError}
    (failed : carryOut (save catalogue World.machine title options) world =
      (.error error, after))
    (unblamed : ∀ path cause, error ≠ .filesystem path cause) : after.files = world.files := by
  have lookedFiles := find_leavesFiles keeps (Title.draft title) world
  cases found : carryOut (find catalogue World.machine (Title.draft title)) world with
  | mk outcome between =>
      rw [found] at lookedFiles
      cases outcome with
      | error cause =>
          rw [save_of_not_found found] at failed
          cases failed
          exact lookedFiles
      | ok result =>
          -- Behind the lookup there is only the file to write, and whatever goes wrong
          -- there is a refusal of the file system.
          obtain ⟨hit, definition⟩ := result
          obtain ⟨log, run⟩ := save_of_found options found
          have outcome := congrArg Prod.fst (run.symm.trans failed)
          cases provisioned : (between.files.provision (options.pathFor definition.dashboard)
            (provisionedText (options.documentFor definition.dashboard between.clock))).1 with
          | error cause =>
              obtain ⟨path, refusal, rfl⟩ := FileTree.provision_error provisioned
              rw [provisioned] at outcome
              cases outcome
              exact absurd rfl (unblamed path refusal)
          | ok done =>
              rw [provisioned] at outcome
              cases outcome

end DraftBoard
