import DraftBoard.Files.Tree
import DraftBoard.Proofs.Text.Split

/-!
# Reading back a written file

A file that has been written is found at the path that it was written to, with
the text that was written.  The walk to its directory passes directories alone,
and writing a file takes none of them away.
-/

namespace DraftBoard.FileTree

theorem lookup_setEntry (place other : Place) (entry : Entry)
    (entries : List (Place × Entry)) :
    (setEntry place entry entries).lookup other =
      if other = place then some entry else entries.lookup other := by
  induction entries with
  | nil =>
      by_cases same : other = place
      · simp [setEntry, same]
      · have test : (other == place) = false := beq_eq_false_iff_ne.mpr same
        simp [setEntry, List.lookup_cons, test, same]
  | cons head entries ih =>
      obtain ⟨name, old⟩ := head
      by_cases here : name = place
      · subst name
        by_cases same : other = place
        · simp [setEntry, same]
        · have test : (other == place) = false := beq_eq_false_iff_ne.mpr same
          simp [setEntry, List.lookup_cons, test, same]
      · rw [setEntry, if_neg here]
        by_cases atHead : other = name
        · subst name
          simp [here]
        · have test : (other == name) = false := beq_eq_false_iff_ne.mpr atHead
          simp only [List.lookup_cons, test, ih]

theorem entry?_put {place : Place} (inside : place ≠ []) (tree : FileTree)
    (entry : Entry) (other : Place) :
    entry? (tree.put place entry) other =
      if other = place then some entry else tree.entry? other := by
  by_cases atRoot : other = []
  · subst other
    simp [ entry?, Ne.symm inside]
  · simp only [ entry?, if_neg atRoot, put, lookup_setEntry]

/-- Following one piece from a place.  A piece that is not empty is looked up in
a directory. -/
inductive Follows (tree : FileTree) (place : Place) : List Char → Place → Prop where
  | idle : Follows tree place [] place
  | here (directory : tree.entry? place = some .directory) :
      Follows tree place ['.'] place
  | up (directory : tree.entry? place = some .directory) :
      Follows tree place ['.', '.'] place.dropLast
  | down {name : List Char} {entry : Entry}
      (directory : tree.entry? place = some .directory)
      (named : name ≠ []) (plain : isDots name = false)
      (short : byteSize name ≤ nameLimit)
      (present : tree.entry? (place ++ [name]) = some entry) :
      Follows tree place name (place ++ [name])

theorem walk_cons_ok_iff {tree : FileTree} {place found : Place} {piece : List Char}
    {rest : List (List Char)} :
    tree.walk place (piece :: rest) = .ok found ↔
      ∃ next, Follows tree place piece next ∧ tree.walk next rest = .ok found := by
  constructor
  · intro walked
    rw [walk] at walked
    split at walked
    · next empty =>
        subst empty
        exact ⟨place, .idle, walked⟩
    · next named =>
        split at walked
        · cases walked
        · next isDirectory =>
            have directory := Decidable.not_not.mp isDirectory
            split at walked
            · next here =>
                subst here
                exact ⟨place, .here directory, walked⟩
            · next notHere =>
                split at walked
                · next up =>
                    subst up
                    exact ⟨_, .up directory, walked⟩
                · next notUp =>
                    split at walked
                    · cases walked
                    · next short =>
                        split at walked
                        · next entry present =>
                            have plain : isDots piece = false := by
                              simp [isDots, notHere, notUp]
                            exact ⟨_, .down directory named plain
                              (Nat.le_of_not_lt short) present, walked⟩
                        · cases walked
  · rintro ⟨next, followed, walked⟩
    cases followed with
    | idle => simpa [walk] using walked
    | here directory => simpa [walk, directory] using walked
    | up directory => simpa [walk, directory] using walked
    | down directory named plain short present =>
        have notDots : ¬ piece = ['.'] ∧ ¬ piece = ['.', '.'] := by
          simpa [isDots] using plain
        simpa [walk, named, directory, notDots.1, notDots.2, Nat.not_lt.mpr short,
          present] using walked

theorem walk_append {tree : FileTree} {place middle : Place}
    {left : List (List Char)} (walked : tree.walk place left = .ok middle)
    {right : List (List Char)} {found : Place}
    (further : tree.walk middle right = .ok found) :
    tree.walk place (left ++ right) = .ok found := by
  induction left generalizing place with
  | nil =>
      cases walked
      exact further
  | cons piece rest ih =>
      obtain ⟨next, followed, walked⟩ := walk_cons_ok_iff.mp walked
      exact walk_cons_ok_iff.mpr ⟨next, followed, ih walked⟩

theorem walk_name {tree : FileTree} {place : Place} {name : List Char} {entry : Entry}
    (directory : tree.entry? place = some .directory) (named : name ≠ [])
    (plain : isDots name = false) (short : byteSize name ≤ nameLimit)
    (present : tree.entry? (place ++ [name]) = some entry) :
    tree.walk place [name] = .ok (place ++ [name]) :=
  walk_cons_ok_iff.mpr ⟨_, .down directory named plain short present, rfl⟩

/-- What is walked from is a directory if a directory is reached. -/
theorem walk_from_directory {tree : FileTree} {place found : Place}
    {pieces : List (List Char)} (walked : tree.walk place pieces = .ok found)
    (directory : tree.entry? found = some .directory) :
    tree.entry? place = some .directory := by
  induction pieces generalizing place with
  | nil =>
      cases walked
      exact directory
  | cons piece rest ih =>
      obtain ⟨next, followed, walked⟩ := walk_cons_ok_iff.mp walked
      cases followed with
      | idle => exact ih walked
      | here directory => exact directory
      | up directory => exact directory
      | down directory => exact directory

/-- A walk to a directory passes directories alone, so it is the same in every
tree that has them. -/
theorem walk_of_directories {tree other : FileTree}
    (kept : ∀ place, tree.entry? place = some .directory →
      other.entry? place = some .directory)
    {place found : Place} {pieces : List (List Char)}
    (walked : tree.walk place pieces = .ok found)
    (directory : tree.entry? found = some .directory) :
    other.walk place pieces = .ok found := by
  induction pieces generalizing place with
  | nil =>
      cases walked
      rfl
  | cons piece rest ih =>
      obtain ⟨next, followed, walked⟩ := walk_cons_ok_iff.mp walked
      have nextDirectory := walk_from_directory walked directory
      refine walk_cons_ok_iff.mpr ⟨next, ?_, ih walked⟩
      cases followed with
      | idle => exact .idle
      | here here => exact .here (kept _ here)
      | up above => exact .up (kept _ above)
      | down above named plain short _ =>
          exact .down (kept _ above) named plain short (kept _ nextDirectory)

theorem namedPieces_of_named {path : Path} (nonempty : path.chars ≠ [])
    (unslashed : path.chars.getLast? ≠ some '/') :
    namedPieces path = Path.pieces path.chars := by
  obtain ⟨last, found, named⟩ := Text.splitAtMark_getLast? nonempty unslashed
  obtain ⟨front, split⟩ := List.getLast?_eq_some_iff.mp found
  have kept : last.isEmpty = false := by simpa using named
  simp [namedPieces, Path.pieces, split, kept]

/-- What it takes to locate the last name of a path. -/
structure Located (tree : FileTree) (path : Path) (place : Place) (name : List Char) : Prop where
  allowed : refuses? path = none
  last : (namedPieces path).getLast? = some name
  walked : tree.walk (tree.start path) (namedPieces path).dropLast = .ok place
  directory : tree.entry? place = some .directory
  plain : isDots name = false

theorem locate_ok {tree : FileTree} {path : Path} {place : Place} {name : List Char}
    (located : tree.locate path = .ok (place, some name)) :
    Located tree path place name := by
  unfold locate at located
  split at located
  · cases located
  · next allowed =>
      split at located
      · cases located
      · next last found =>
          split at located
          · cases located
          · next reached walked =>
              split at located
              · cases located
              · next isDirectory =>
                  split at located
                  · cases located
                  · next plain =>
                      cases located
                      exact ⟨allowed, found, walked, Decidable.not_not.mp isDirectory,
                        by simpa using plain⟩

/-- What it takes to write a file. -/
structure Written (tree : FileTree) (path : Path) (place : Place) (name : List Char) : Prop
    extends Located tree path place name where
  unslashed : path.chars.getLast? ≠ some '/'
  short : byteSize name ≤ nameLimit
  free : tree.entry? (place ++ [name]) ≠ some .directory

theorem writeFile_ok {tree after : FileTree} {path : Path} {content : String}
    (written : writeFile path content tree = (.ok (), after)) :
    ∃ place name, Written tree path place name ∧
      after = tree.put (place ++ [name]) (.file content) := by
  unfold writeFile at written
  split at written
  · cases written
  · cases written
  · next place name located =>
      split at written
      · cases written
      · next unslashed =>
          split at written
          · cases written
          · next short =>
              split at written
              · cases written
              · next free =>
                  cases written
                  exact ⟨place, name, ⟨locate_ok located, unslashed,
                    Nat.le_of_not_lt short, free⟩, rfl⟩

/-- A file holds what was written to it last. -/
theorem content?_of_writeFile {tree after : FileTree} {path : Path} {content : String}
    (written : writeFile path content tree = (.ok (), after)) :
    after.content? path = some content := by
  obtain ⟨place, name, target, rfl⟩ := writeFile_ok written
  have inside : place ++ [name] ≠ [] := by simp
  have fileThere : entry? (tree.put (place ++ [name]) (.file content)) (place ++ [name]) =
      some (.file content) := by
    rw [entry?_put inside, if_pos rfl]
  have kept : ∀ other, tree.entry? other = some .directory →
      entry? (tree.put (place ++ [name]) (.file content)) other = some .directory := by
    intro other directory
    have elsewhere : other ≠ place ++ [name] := by
      rintro rfl
      exact target.free directory
    rw [entry?_put inside, if_neg elsewhere, directory]
  have nonempty : path.chars ≠ [] := by
    intro empty
    have refused := target.allowed
    simp [refuses?, empty] at refused
  have pieces := namedPieces_of_named nonempty target.unslashed
  obtain ⟨last, found, named⟩ := Text.splitAtMark_getLast? nonempty target.unslashed
  have sameLast : last = name := by
    have both := target.last
    rw [pieces, Path.pieces, found] at both
    exact Option.some.inj both
  subst sameLast
  have above := walk_of_directories kept target.walked target.directory
  have below := walk_name (kept _ target.directory) named target.plain target.short fileThere
  obtain ⟨front, split⟩ := List.getLast?_eq_some_iff.mp target.last
  have resolved : (tree.put (place ++ [last]) (.file content)).resolve path =
      .ok (place ++ [last]) := by
    unfold resolve
    rw [target.allowed, ← pieces, split]
    rw [split, List.dropLast_concat] at above
    exact walk_append above below
  simp only [content?, resolved, fileThere, target.unslashed, if_false]

end DraftBoard.FileTree
