import DraftBoard.Proofs.Files.Paths
import DraftBoard.Proofs.Files.Writing
import Mathlib.Data.List.TakeWhile

/-!
# Where paths lead

A path names a place whether or not anything is there.  Wherever a walk succeeds it ends
at that place, and the files of different slugs below one folder are at different places.
-/

namespace DraftBoard

/-- One piece further: empty pieces and single dots stay, two dots go up. -/
def Place.descend (place : Place) (piece : List Char) : Place :=
  if piece = [] ∨ piece = ['.'] then place
  else if piece = ['.', '.'] then place.dropLast
  else place ++ [piece]

theorem Place.descend_name (place : Place) {name : List Char} (named : name ≠ [])
    (plain : FileTree.isDots name = false) : Place.descend place name = place ++ [name] := by
  have notDots : ¬ name = ['.'] ∧ ¬ name = ['.', '.'] := by
    simpa [FileTree.isDots] using plain
  simp [descend, named, notDots.1, notDots.2]

namespace FileTree

/-- The place that a path names. -/
def destination (tree : FileTree) (path : Path) : Place :=
  (Path.pieces path.chars).foldl Place.descend (tree.start path)

/-- The text of the regular file at a place. -/
def fileAt? (tree : FileTree) (place : Place) : Option String :=
  match tree.entry? place with
  | some (.file content) => some content
  | _ => none

theorem fileAt?_of_file {tree : FileTree} {place : Place} {content : String}
    (present : tree.entry? place = some (.file content)) :
    tree.fileAt? place = some content := by
  rw [fileAt?, present]

theorem entry?_of_fileAt? {tree : FileTree} {place : Place} {content : String}
    (present : tree.fileAt? place = some content) :
    tree.entry? place = some (.file content) := by
  unfold fileAt? at present
  split at present
  · next held found =>
      cases present
      exact found
  · cases present

theorem entry?_ne_directory {tree : FileTree} {place : Place}
    (present : (tree.fileAt? place).isSome) : tree.entry? place ≠ some .directory := by
  intro directory
  rw [fileAt?, directory] at present
  cases present

theorem Follows.eq_descend {tree : FileTree} {place next : Place} {piece : List Char}
    (followed : Follows tree place piece next) : next = Place.descend place piece := by
  cases followed with
  | idle => rfl
  | here => rfl
  | up => rfl
  | down _ named plain _ _ => exact (Place.descend_name place named plain).symm

theorem eq_foldl_of_walk {tree : FileTree} {place found : Place} {pieces : List (List Char)}
    (walked : tree.walk place pieces = .ok found) :
    found = pieces.foldl Place.descend place := by
  induction pieces generalizing place with
  | nil =>
      cases walked
      rfl
  | cons piece rest ih =>
      obtain ⟨next, followed, walked⟩ := walk_cons_ok_iff.mp walked
      rw [List.foldl_cons, ← followed.eq_descend]
      exact ih walked

theorem resolve_ok {tree : FileTree} {path : Path} {place : Place}
    (resolved : tree.resolve path = .ok place) :
    refuses? path = none ∧ tree.walk (tree.start path) (Path.pieces path.chars) = .ok place := by
  unfold resolve at resolved
  split at resolved
  · cases resolved
  · next allowed => exact ⟨allowed, resolved⟩

/-- An entry that a path leads to is at the place that the path names. -/
theorem destination_of_resolve {tree : FileTree} {path : Path} {place : Place}
    (resolved : tree.resolve path = .ok place) : tree.destination path = place :=
  (eq_foldl_of_walk (resolve_ok resolved).2).symm

theorem content?_eq_some {tree : FileTree} {path : Path} {content : String}
    (read : tree.content? path = some content) :
    path.chars.getLast? ≠ some '/' ∧
      ∃ place, tree.resolve path = .ok place ∧ tree.fileAt? place = some content := by
  unfold content? at read
  split at read
  · next place resolved =>
      split at read
      · next held present =>
          split at read
          · cases read
          · next unslashed =>
              cases read
              exact ⟨unslashed, place, resolved, fileAt?_of_file present⟩
      · cases read
  · cases read

theorem content?_of_resolve {tree : FileTree} {path : Path} {place : Place} {content : String}
    (unslashed : path.chars.getLast? ≠ some '/') (resolved : tree.resolve path = .ok place)
    (present : tree.fileAt? place = some content) : tree.content? path = some content := by
  simp [content?, resolved, entry?_of_fileAt? present, unslashed]

theorem named_of_last {path : Path} {name : List Char}
    (last : (namedPieces path).getLast? = some name) : name ≠ [] := by
  rintro rfl
  rw [namedPieces, List.getLast?_reverse] at last
  have stopped := List.head?_dropWhile_not List.isEmpty (Path.pieces path.chars).reverse
  rw [last] at stopped
  cases stopped

theorem pieces_eq_namedPieces_append (path : Path) :
    ∃ empties : List (List Char), (∀ piece ∈ empties, piece = []) ∧
      Path.pieces path.chars = namedPieces path ++ empties := by
  refine ⟨((Path.pieces path.chars).reverse.takeWhile List.isEmpty).reverse, ?_, ?_⟩
  · intro piece member
    have blank := List.mem_takeWhile_imp (List.mem_reverse.mp member)
    simpa using blank
  · rw [namedPieces, ← List.reverse_append, List.takeWhile_append_dropWhile,
      List.reverse_reverse]

theorem foldl_descend_empties {empties : List (List Char)}
    (blank : ∀ piece ∈ empties, piece = []) (place : Place) :
    empties.foldl Place.descend place = place := by
  induction empties with
  | nil => rfl
  | cons piece rest ih =>
      have first := blank piece List.mem_cons_self
      subst first
      exact ih fun other member => blank other (List.mem_cons_of_mem _ member)

theorem walk_empties {empties : List (List Char)} (blank : ∀ piece ∈ empties, piece = [])
    (tree : FileTree) (place : Place) : tree.walk place empties = .ok place := by
  induction empties with
  | nil => rfl
  | cons piece rest ih =>
      have first := blank piece List.mem_cons_self
      subst first
      exact walk_cons_ok_iff.mpr
        ⟨place, .idle, ih fun other member => blank other (List.mem_cons_of_mem _ member)⟩

theorem Located.destination {tree : FileTree} {path : Path} {place : Place}
    {name : List Char} (located : Located tree path place name) :
    tree.destination path = place ++ [name] := by
  obtain ⟨empties, blank, split⟩ := pieces_eq_namedPieces_append path
  obtain ⟨front, whole⟩ := List.getLast?_eq_some_iff.mp located.last
  have walked := located.walked
  rw [whole, List.dropLast_concat] at walked
  rw [FileTree.destination, split, whole, List.foldl_append, List.foldl_append,
    ← eq_foldl_of_walk walked, foldl_descend_empties blank]
  exact Place.descend_name place (named_of_last located.last) located.plain

/-- An entry at a located name is what the path leads to. -/
theorem Located.resolve {tree : FileTree} {path : Path} {place : Place} {name : List Char}
    {entry : Entry} (located : Located tree path place name)
    (short : byteSize name ≤ nameLimit) (present : tree.entry? (place ++ [name]) = some entry) :
    tree.resolve path = .ok (place ++ [name]) := by
  obtain ⟨empties, blank, split⟩ := pieces_eq_namedPieces_append path
  obtain ⟨front, whole⟩ := List.getLast?_eq_some_iff.mp located.last
  have walked := located.walked
  rw [whole, List.dropLast_concat] at walked
  have reached := walk_append walked (walk_name located.directory
    (named_of_last located.last) located.plain short present)
  rw [FileTree.resolve, located.allowed, split, whole]
  exact walk_append reached (walk_empties blank tree _)

theorem start_join_name (tree : FileTree) (base : Path) {name : List Char}
    (plain : '/' ∉ name) (nonempty : base.chars ≠ []) :
    tree.start (base.join ⟨name⟩) = tree.start base := by
  obtain ⟨chars⟩ := base
  obtain ⟨c, rest, rfl⟩ := List.exists_cons_of_ne_nil nonempty
  have relative := Path.isAbsolute_of_slash_not_mem plain
  have same : ((Path.mk (c :: rest)).join ⟨name⟩).isAbsolute =
      (Path.mk (c :: rest)).isAbsolute := by
    unfold Path.join
    rw [relative]
    by_cases slashed : (c :: rest).getLast? = some '/'
    · simp [slashed, Path.isAbsolute_cons]
    · simp [slashed, Path.isAbsolute_cons]
  rw [start, start, same]

/-- A name below a folder is one step from where the folder is. -/
theorem destination_join_name (tree : FileTree) (base : Path) {name : List Char}
    (isName : Path.IsName name) :
    tree.destination (base.join ⟨name⟩) = tree.destination base ++ [name] := by
  have relative := Path.isAbsolute_of_slash_not_mem isName.plain
  have lastPiece := Text.splitAtMark_of_not_mem isName.plain
  have last := fun place => Place.descend_name place isName.nonempty
    (by simp [isDots, isName.notHere, isName.notUp])
  by_cases empty : base.chars = []
  · have alone : base.join ⟨name⟩ = ⟨name⟩ := by
      simp [Path.join, empty]
    have notRooted : base.isAbsolute = false := by
      simp [Path.isAbsolute, empty]
    rw [alone, destination, destination, empty, start, start, relative, notRooted,
      Path.pieces, lastPiece]
    exact last _
  · rw [destination, start_join_name tree base isName.plain empty, ← last]
    by_cases slashed : base.chars.getLast? = some '/'
    · obtain ⟨front, split⟩ := List.getLast?_eq_some_iff.mp slashed
      have joined : (base.join ⟨name⟩).chars = front ++ '/' :: name := by
        simp [Path.join, relative, split]
      have folder : Path.pieces base.chars = Path.pieces front ++ [[]] := by
        rw [split, Path.pieces, Text.splitAtMark_append_mark]
        rfl
      rw [destination, folder, joined, Path.pieces, Text.splitAtMark_append_mark, lastPiece,
        List.foldl_append, List.foldl_append]
      rfl
    · have joined : (base.join ⟨name⟩).chars = base.chars ++ '/' :: name := by
        simp [Path.join, relative, empty, slashed]
      rw [destination, joined, Path.pieces, Text.splitAtMark_append_mark, lastPiece,
        List.foldl_append]
      rfl

/-- The place of a provisioned file. -/
theorem destination_provisionedPath (tree : FileTree) (outDir : Path) (folder : String)
    {stem : String} (plain : '/' ∉ stem.toList) :
    tree.destination (provisionedPath outDir folder stem) =
      tree.destination (outDir.join (.ofString folder)) ++ [(stem ++ ".json").toList] := by
  exact destination_join_name tree _ (Path.isName_provisioned plain)

/-- Provisioned files of different slugs are at different places. -/
theorem eq_of_destination_eq (tree : FileTree) (outDir : Path) (folder : String)
    {left right : String} (plainLeft : '/' ∉ left.toList) (plainRight : '/' ∉ right.toList)
    (same : tree.destination (provisionedPath outDir folder left) =
      tree.destination (provisionedPath outDir folder right)) : left = right := by
  rw [destination_provisionedPath tree outDir folder plainLeft,
    destination_provisionedPath tree outDir folder plainRight] at same
  have names := List.singleton_inj.mp (List.append_cancel_left same)
  rw [String.toList_append, String.toList_append] at names
  exact String.toList_inj.mp (List.append_cancel_right names)

end FileTree

end DraftBoard
