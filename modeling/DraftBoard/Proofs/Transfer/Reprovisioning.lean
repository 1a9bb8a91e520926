import DraftBoard.Proofs.Files.Changes
import DraftBoard.Proofs.Transfer.Provisioning

/-!
# Provisioning again

Provisioning changes no file but the one that it writes.  A path that has been provisioned
is ready: it can be provisioned again, whatever has been written in between.
-/

namespace DraftBoard.FileTree

variable {places : Set Place} {before after tree : FileTree}

theorem grows_makeAbove (path : Path) (tree : FileTree) :
    Grows ∅ {above | above.IsAbove path} tree (makeAbove path tree).2 := by
  unfold makeAbove
  split
  · exact .refl ∅ _ tree
  · next parent found =>
      exact (grows_makeDirectories parent tree).mono (Set.empty_subset _)
        fun _ climbs => ⟨parent, found, climbs⟩

theorem grows_provision_error {path : Path} {content : String} {error : TransferError}
    (failed : provision path content tree = (.error error, after)) :
    Grows ∅ {above | above.IsAbove path} tree after := by
  have above := grows_makeAbove path tree
  unfold provision at failed
  split at failed
  · next ran =>
      rw [ran] at above
      cases failed
      exact above
  · next made ran =>
      rw [ran] at above
      cases written : writeFile path content made with
      | mk outcome left =>
          rw [written] at failed
          cases outcome with
          | ok done => cases failed
          | error cause =>
              cases failed
              rw [writeFile_error written]
              exact above

theorem grows_provision {path : Path} {content : String}
    (provisioned : provision path content tree = (.ok (), after)) :
    Grows {tree.destination path} {above | above.IsAbove path} tree after := by
  obtain ⟨made, ran, written⟩ := provision_ok provisioned
  have above := grows_makeAbove path tree
  rw [ran] at above
  have file := grows_writeFile path content made
  rw [written, above.destination] at file
  exact (above.mono (Set.empty_subset _) subset_rfl).trans
    (file.mono subset_rfl (Set.empty_subset _))

theorem changesAt_provision_error {path : Path} {content : String} {error : TransferError}
    (failed : provision path content tree = (.error error, after)) : ChangesAt ∅ tree after :=
  (grows_provision_error failed).toChangesAt

theorem changesAt_provision {path : Path} {content : String}
    (provisioned : provision path content tree = (.ok (), after)) :
    ChangesAt {tree.destination path} tree after :=
  (grows_provision provisioned).toChangesAt

/-- What it takes to write to a path where everything above it is there already. -/
structure Ready (tree : FileTree) (path : Path) : Prop where
  above : ∀ parent, path.parent? = some parent →
    parent.chars.isEmpty = true ∨ tree.isDirectory parent = true
  target : ∃ place name, Written tree path place name ∧
    (tree.fileAt? (place ++ [name])).isSome

theorem ChangesAt.ready (changes : ChangesAt places before after) {path : Path}
    (ready : Ready before path) : Ready after path := by
  obtain ⟨place, name, target, present⟩ := ready.target
  have kept := changes.files _ present
  refine ⟨?_, place, name, changes.written target kept, kept⟩
  intro parent found
  exact (ready.above parent found).imp_right changes.isDirectory

end DraftBoard.FileTree
