import DraftBoard.Proofs.Files.Places
import Mathlib.Data.Set.Insert
import Mathlib.Logic.Relation

/-!
# What writing changes

Making directories adds directories where there was nothing, and writing a file changes
the file at one place.  Neither takes anything away, so a path that has been written to
can be written to again, whatever is written in between.  Whatever is new is the file or a
directory that the path itself climbs to, parent by parent.
-/

namespace DraftBoard

/-- One path is reached from another by taking parents. -/
def Path.ClimbsTo : Path → Path → Prop :=
  Relation.ReflTransGen fun path parent => path.parent? = some parent

/-- One path is above another: it is the parent or reached from the parent. -/
def Path.IsAbove (above path : Path) : Prop :=
  ∃ parent, path.parent? = some parent ∧ parent.ClimbsTo above

namespace FileTree

/-- The files at some places may change; no file and no directory goes away. -/
structure ChangesAt (places : Set Place) (before after : FileTree) : Prop where
  workingDirectory : after.workingDirectory = before.workingDirectory
  directories : ∀ place, before.entry? place = some .directory →
    after.entry? place = some .directory
  files : ∀ place, (before.fileAt? place).isSome → (after.fileAt? place).isSome
  elsewhere : ∀ place, place ∉ places → after.fileAt? place = before.fileAt? place

variable {places larger : Set Place} {paths more : Set Path}
variable {before between after tree : FileTree}

namespace ChangesAt

theorem refl (places : Set Place) (tree : FileTree) : ChangesAt places tree tree where
  workingDirectory := rfl
  directories _ directory := directory
  files _ present := present
  elsewhere _ _ := rfl

theorem trans (first : ChangesAt places before between)
    (second : ChangesAt places between after) : ChangesAt places before after where
  workingDirectory := second.workingDirectory.trans first.workingDirectory
  directories place directory := second.directories place (first.directories place directory)
  files place present := second.files place (first.files place present)
  elsewhere place outside :=
    (second.elsewhere place outside).trans (first.elsewhere place outside)

theorem mono (changes : ChangesAt places before after) (included : places ⊆ larger) :
    ChangesAt larger before after where
  workingDirectory := changes.workingDirectory
  directories := changes.directories
  files := changes.files
  elsewhere place outside :=
    changes.elsewhere place fun inside => outside (included inside)

theorem start (changes : ChangesAt places before after) (path : Path) :
    after.start path = before.start path := by
  rw [FileTree.start, FileTree.start, changes.workingDirectory]

theorem destination (changes : ChangesAt places before after) (path : Path) :
    after.destination path = before.destination path := by
  rw [FileTree.destination, FileTree.destination, changes.start]

theorem entry (changes : ChangesAt places before after) {place : Place} {entry : Entry}
    (present : before.entry? place = some entry) : ∃ left, after.entry? place = some left := by
  cases entry with
  | directory => exact ⟨_, changes.directories place present⟩
  | file content =>
      have held : (before.fileAt? place).isSome := by
        rw [fileAt?_of_file present]
        rfl
      obtain ⟨left, kept⟩ := Option.isSome_iff_exists.mp (changes.files place held)
      exact ⟨_, entry?_of_fileAt? kept⟩

/-- Nothing that a walk passes goes away, so it ends as it did. -/
theorem walk (changes : ChangesAt places before after) {place found : Place}
    {pieces : List (List Char)} (walked : before.walk place pieces = .ok found) :
    after.walk place pieces = .ok found := by
  induction pieces generalizing place with
  | nil =>
      cases walked
      rfl
  | cons piece rest ih =>
      obtain ⟨next, followed, walked⟩ := walk_cons_ok_iff.mp walked
      refine walk_cons_ok_iff.mpr ⟨next, ?_, ih walked⟩
      cases followed with
      | idle => exact .idle
      | here directory => exact .here (changes.directories _ directory)
      | up directory => exact .up (changes.directories _ directory)
      | down directory named plain short present =>
          obtain ⟨left, kept⟩ := changes.entry present
          exact .down (changes.directories _ directory) named plain short kept

theorem resolve (changes : ChangesAt places before after) {path : Path} {place : Place}
    (resolved : before.resolve path = .ok place) : after.resolve path = .ok place := by
  obtain ⟨allowed, walked⟩ := resolve_ok resolved
  rw [FileTree.resolve, allowed, changes.start]
  exact changes.walk walked

/-- What could be read stays readable where it does not change. -/
theorem content? (changes : ChangesAt places before after) {path : Path} {content : String}
    (read : before.content? path = some content)
    (outside : before.destination path ∉ places) : after.content? path = some content := by
  obtain ⟨unslashed, place, resolved, held⟩ := content?_eq_some read
  rw [destination_of_resolve resolved] at outside
  exact content?_of_resolve unslashed (changes.resolve resolved)
    ((changes.elsewhere place outside).trans held)

theorem located (changes : ChangesAt places before after) {path : Path} {place : Place}
    {name : List Char} (located : Located before path place name) :
    Located after path place name where
  allowed := located.allowed
  last := located.last
  walked := by
    rw [changes.start]
    exact changes.walk located.walked
  directory := changes.directories place located.directory
  plain := located.plain

/-- What has been written to can be written to again where its file is still there. -/
theorem written (changes : ChangesAt places before after) {path : Path} {place : Place}
    {name : List Char} (target : Written before path place name)
    (present : (after.fileAt? (place ++ [name])).isSome) : Written after path place name where
  toLocated := changes.located target.toLocated
  unslashed := target.unslashed
  short := target.short
  free := entry?_ne_directory present

end ChangesAt

/-- The files at some places may change, and all that is new elsewhere are directories, each
with a path among some paths that leads to it. -/
structure Grows (places : Set Place) (paths : Set Path) (before after : FileTree) : Prop
    extends ChangesAt places before after where
  new : ∀ place, place ∉ places → before.entry? place = none → after.entry? place ≠ none →
    after.entry? place = some .directory ∧ ∃ path ∈ paths, after.resolve path = .ok place

namespace Grows

theorem refl (places : Set Place) (paths : Set Path) (tree : FileTree) :
    Grows places paths tree tree where
  toChangesAt := .refl places tree
  new _ _ nothing present := absurd nothing present

theorem trans (first : Grows places paths before between)
    (second : Grows places paths between after) : Grows places paths before after where
  toChangesAt := first.toChangesAt.trans second.toChangesAt
  new place outside nothing present := by
    by_cases still : between.entry? place = none
    · exact second.new place outside still present
    · obtain ⟨directory, path, listed, leads⟩ := first.new place outside nothing still
      exact ⟨second.directories place directory, path, listed, second.resolve leads⟩

theorem mono (grows : Grows places paths before after) (included : places ⊆ larger)
    (listed : paths ⊆ more) : Grows larger more before after where
  toChangesAt := grows.toChangesAt.mono included
  new place outside nothing present := by
    obtain ⟨directory, path, member, leads⟩ :=
      grows.new place (fun inside => outside (included inside)) nothing present
    exact ⟨directory, path, listed member, leads⟩

end Grows

theorem changesAt_put_directory {place : Place} (inside : place ≠ [])
    (nothing : tree.entry? place = none) :
    ChangesAt ∅ tree (tree.put place .directory) := by
  have kept : ∀ other entry, tree.entry? other = some entry →
      entry? (tree.put place .directory) other = some entry := by
    intro other entry present
    have elsewhere : other ≠ place := by
      rintro rfl
      rw [nothing] at present
      cases present
    rw [entry?_put inside, if_neg elsewhere, present]
  have sameFiles : ∀ other, fileAt? (tree.put place .directory) other = tree.fileAt? other := by
    intro other
    rw [fileAt?, fileAt?, entry?_put inside]
    by_cases here : other = place
    · rw [if_pos here, here, nothing]
    · rw [if_neg here]
  exact ⟨rfl, fun other directory => kept other _ directory,
    fun other present => by rwa [sameFiles other], fun other _ => sameFiles other⟩

theorem changesAt_put_file {place : Place} (inside : place ≠ [])
    (free : tree.entry? place ≠ some .directory) (content : String) :
    ChangesAt {place} tree (tree.put place (.file content)) := by
  have files : ∀ other, fileAt? (tree.put place (.file content)) other =
      if other = place then some content else tree.fileAt? other := by
    intro other
    rw [fileAt?, fileAt?, entry?_put inside]
    by_cases here : other = place
    · rw [if_pos here, if_pos here]
    · rw [if_neg here, if_neg here]
  refine ⟨rfl, ?_, ?_, ?_⟩
  · intro other directory
    have elsewhere : other ≠ place := by
      rintro rfl
      exact free directory
    rw [entry?_put inside, if_neg elsewhere, directory]
  · intro other present
    rw [files]
    split
    · rfl
    · exact present
  · intro other outside
    rw [files, if_neg (by simpa using outside)]

theorem isDirectory_iff {path : Path} : tree.isDirectory path = true ↔
    ∃ place, tree.resolve path = .ok place ∧ tree.entry? place = some .directory := by
  unfold isDirectory
  cases tree.resolve path with
  | error error => simp
  | ok place => simp

theorem ChangesAt.isDirectory (changes : ChangesAt places before after) {path : Path}
    (directory : before.isDirectory path = true) : after.isDirectory path = true := by
  obtain ⟨place, resolved, present⟩ := isDirectory_iff.mp directory
  exact isDirectory_iff.mpr ⟨place, changes.resolve resolved, changes.directories place present⟩

theorem makeDirectory_ok {path : Path} (made : makeDirectory path tree = (.ok (), after)) :
    ∃ place name, Located tree path place name ∧ byteSize name ≤ nameLimit ∧
      tree.entry? (place ++ [name]) = none ∧
      after = tree.put (place ++ [name]) .directory := by
  unfold makeDirectory at made
  split at made
  · cases made
  · cases made
  · next place name located =>
      split at made
      · cases made
      · next short =>
          split at made
          · cases made
          · next nothing =>
              cases made
              exact ⟨place, name, locate_ok located, Nat.le_of_not_lt short, nothing, rfl⟩

theorem makeDirectory_error {path : Path} {error : FileError}
    (failed : makeDirectory path tree = (.error error, after)) : after = tree := by
  unfold makeDirectory at failed
  split at failed
  · cases failed
    rfl
  · cases failed
    rfl
  · split at failed
    · cases failed
      rfl
    · split at failed
      · cases failed
        rfl
      · cases failed

theorem changesAt_makeDirectory (path : Path) (tree : FileTree) :
    ChangesAt ∅ tree (makeDirectory path tree).2 := by
  cases outcome : makeDirectory path tree with
  | mk result after =>
      cases result with
      | error error =>
          rw [makeDirectory_error outcome]
          exact .refl ∅ tree
      | ok done =>
          obtain ⟨place, name, _, _, nothing, rfl⟩ := makeDirectory_ok outcome
          exact changesAt_put_directory (by simp) nothing

/-- The directory that is made is the one that its path leads to. -/
theorem grows_makeDirectory (path : Path) (tree : FileTree) :
    Grows ∅ {path} tree (makeDirectory path tree).2 := by
  have changes := changesAt_makeDirectory path tree
  cases outcome : makeDirectory path tree with
  | mk result after =>
      rw [outcome] at changes
      cases result with
      | error error =>
          rw [makeDirectory_error outcome]
          exact .refl ∅ _ tree
      | ok done =>
          obtain ⟨place, name, located, short, nothing, same⟩ := makeDirectory_ok outcome
          have entries : ∀ other, after.entry? other =
              if other = place ++ [name] then some .directory else tree.entry? other := by
            intro other
            rw [same, entry?_put (by simp)]
          refine ⟨changes, ?_⟩
          intro other _ missing present
          by_cases here : other = place ++ [name]
          · have made : after.entry? (place ++ [name]) = some .directory := by
              rw [entries, if_pos rfl]
            have leads := (changes.located located).resolve short made
            rw [here]
            exact ⟨made, path, rfl, leads⟩
          · rw [entries, if_neg here] at present
            exact absurd missing present

/-- How an attempt to make a directory ends: a refusal does not matter if the directory is
there. -/
def settle (path : Path) : Except FileError Unit × FileTree → Except FileError Unit × FileTree
  | (.ok (), made) => (.ok (), made)
  | (.error error, left) => (if left.isDirectory path then .ok () else .error error, left)

theorem settle_snd (path : Path) (tried : Except FileError Unit × FileTree) :
    (settle path tried).2 = tried.2 := by
  obtain ⟨outcome, left⟩ := tried
  cases outcome <;> rfl

theorem run_unlessThere (path : Path) (error : FileError) (tree : FileTree) :
    (directories.unlessThere path error).run tree = settle path (.error error, tree) := by
  have there : (directories.isThere path).run tree = (tree.isDirectory path, tree) := rfl
  unfold Directories.unlessThere
  rw [StateT.run_bind, there]
  simp only [settle]
  cases tree.isDirectory path <;> rfl

theorem run_makeAllUpTo_succ (levels : Nat) {path : Path} (named : path.chars.isEmpty = false)
    (tree : FileTree) :
    (directories.makeAllUpTo (levels + 1) path).run tree =
      match makeDirectory path tree with
      | (.error .notFound, left) =>
          match path.parent? with
          | none => (.error .noStart, left)
          | some parent =>
              match (directories.makeAllUpTo levels parent).run left with
              | (.error error, made) => (.error error, made)
              | (.ok (), made) => settle path (makeDirectory path made)
      | tried => settle path tried := by
  have make : ∀ tree, (directories.make path).run tree = makeDirectory path tree := fun _ => rfl
  rw [Directories.makeAllUpTo]
  simp only [named, Bool.false_eq_true, if_false, StateT.run_bind, make]
  cases makeDirectory path tree with
  | mk outcome left =>
      cases outcome with
      | ok done => rfl
      | error error =>
          cases error with
          | notFound =>
              cases path.parent? with
              | none => rfl
              | some parent =>
                  show StateT.run (directories.makeAllUpTo levels parent >>= _) left = _
                  rw [StateT.run_bind]
                  dsimp only
                  cases (directories.makeAllUpTo levels parent).run left with
                  | mk above made =>
                      cases above with
                      | error error => rfl
                      | ok done =>
                          show StateT.run (directories.make path >>= _) made =
                            settle path (makeDirectory path made)
                          rw [StateT.run_bind, make]
                          cases makeDirectory path made with
                          | mk again both =>
                              cases again with
                              | ok done => rfl
                              | error error => exact run_unlessThere path error both
          | _ => exact run_unlessThere path _ left

theorem run_makeAllUpTo_of_empty (levels : Nat) {path : Path}
    (empty : path.chars.isEmpty = true) (tree : FileTree) :
    (directories.makeAllUpTo (levels + 1) path).run tree = (.ok (), tree) := by
  rw [Directories.makeAllUpTo]
  simp only [empty, if_true]
  rfl

/-- Directories are made only where the path climbs to. -/
theorem grows_makeAllUpTo (levels : Nat) (path : Path) (tree : FileTree) :
    Grows ∅ {above | path.ClimbsTo above} tree
      ((directories.makeAllUpTo levels path).run tree).2 := by
  induction levels generalizing path tree with
  | zero => exact .refl ∅ _ tree
  | succ levels ih =>
      have single : ∀ tree, Grows ∅ {above | path.ClimbsTo above} tree
          (makeDirectory path tree).2 := fun tree =>
        (grows_makeDirectory path tree).mono (Set.empty_subset _)
          (Set.singleton_subset_iff.mpr .refl)
      cases empty : path.chars.isEmpty with
      | true =>
          rw [run_makeAllUpTo_of_empty levels empty]
          exact .refl ∅ _ tree
      | false =>
          have first := single tree
          rw [run_makeAllUpTo_succ levels empty]
          split
          · next left tried =>
              rw [tried] at first
              split
              · exact first
              · next parent found =>
                  have above : Grows ∅ {above | path.ClimbsTo above} left
                      ((directories.makeAllUpTo levels parent).run left).2 :=
                    (ih parent left).mono (Set.empty_subset _) fun _ climbs => .head found climbs
                  split
                  · next made ran =>
                      rw [ran] at above
                      exact first.trans above
                  · next made ran =>
                      rw [ran] at above
                      rw [settle_snd]
                      exact (first.trans above).trans (single made)
          · rw [settle_snd]
            exact first

theorem grows_makeDirectories (path : Path) (tree : FileTree) :
    Grows ∅ {above | path.ClimbsTo above} tree (makeDirectories path tree).2 :=
  grows_makeAllUpTo _ path tree

theorem writeFile_error {path : Path} {content : String} {error : FileError}
    (failed : writeFile path content tree = (.error error, after)) : after = tree := by
  unfold writeFile at failed
  split at failed
  · cases failed
    rfl
  · cases failed
    rfl
  · split at failed
    · cases failed
      rfl
    · split at failed
      · cases failed
        rfl
      · split at failed
        · cases failed
          rfl
        · cases failed

theorem changesAt_writeFile (path : Path) (content : String) (tree : FileTree) :
    ChangesAt {tree.destination path} tree (writeFile path content tree).2 := by
  cases outcome : writeFile path content tree with
  | mk result after =>
      cases result with
      | error error =>
          rw [writeFile_error outcome]
          exact .refl _ tree
      | ok done =>
          obtain ⟨place, name, target, rfl⟩ := writeFile_ok outcome
          rw [target.destination]
          exact changesAt_put_file (by simp) target.free content

/-- All that writing adds is the file itself. -/
theorem grows_writeFile (path : Path) (content : String) (tree : FileTree) :
    Grows {tree.destination path} ∅ tree (writeFile path content tree).2 := by
  refine ⟨changesAt_writeFile path content tree, ?_⟩
  intro place outside nothing present
  cases outcome : writeFile path content tree with
  | mk result after =>
      rw [outcome] at present
      cases result with
      | error error =>
          rw [writeFile_error outcome] at present
          exact absurd nothing present
      | ok done =>
          obtain ⟨parent, name, target, rfl⟩ := writeFile_ok outcome
          rw [target.destination] at outside
          rw [entry?_put (by simp), if_neg (by simpa using outside)] at present
          exact absurd nothing present

end FileTree

end DraftBoard
