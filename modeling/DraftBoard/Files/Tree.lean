import DraftBoard.Files.Directories

/-!
# File trees

Directories and regular files, each at its place below the root, and a working
directory from which relative paths are read.  Every operation takes the tree as
it is and gives back its outcome together with the tree that it leaves.
-/

namespace DraftBoard

/-- What is at a place. -/
inductive Entry where
  | directory
  | file (content : String)
deriving DecidableEq, Repr

/-- A place: the names from the root down to it. -/
abbrev Place := List (List Char)

/-- What is on a file system, and the directory that relative paths start from. -/
structure FileTree where
  entries : List (Place × Entry)
  workingDirectory : Place
deriving DecidableEq, Repr, Inhabited

namespace FileTree

/-- What is at a place.  The root is always a directory. -/
def entry? (tree : FileTree) (place : Place) : Option Entry :=
  if place = [] then some .directory else tree.entries.lookup place

/-- Sets an entry of a list: in place if there is one, else at the end. -/
def setEntry (place : Place) (entry : Entry) : List (Place × Entry) → List (Place × Entry)
  | [] => [(place, entry)]
  | (other, old) :: rest =>
      if other = place then (other, entry) :: rest
      else (other, old) :: setEntry place entry rest

/-- The tree with an entry at a place. -/
def put (tree : FileTree) (place : Place) (entry : Entry) : FileTree :=
  { tree with entries := setEntry place entry tree.entries }

/-- Bytes that a name may have. -/
def nameLimit : Nat := 255

/-- Bytes that a path may have. -/
def pathLimit : Nat := 4095

/-- Size of a text in UTF-8 bytes. -/
def byteSize (text : List Char) : Nat :=
  (text.map Char.utf8Size).foldr (· + ·) 0

/-- Whether a piece is one of the dots, which name no entry of their own. -/
def isDots (piece : List Char) : Bool :=
  piece = ['.'] || piece = ['.', '.']

/-- Follows pieces downwards from a place.  What a piece is looked up in has to be
a directory. -/
def walk (tree : FileTree) : Place → List (List Char) → Except FileError Place
  | place, [] => .ok place
  | place, piece :: rest =>
      if piece = [] then walk tree place rest
      else if tree.entry? place ≠ some .directory then .error .notADirectory
      else if piece = ['.'] then walk tree place rest
      else if piece = ['.', '.'] then walk tree place.dropLast rest
      else if nameLimit < byteSize piece then .error .nameTooLong
      else
        match tree.entry? (place ++ [piece]) with
        | some _ => walk tree (place ++ [piece]) rest
        | none => .error .notFound

/-- Where a path starts to be followed. -/
def start (tree : FileTree) (path : Path) : Place :=
  if path.isAbsolute then [] else tree.workingDirectory

/-- What is wrong with a path before anything is looked up. -/
def refuses? (path : Path) : Option FileError :=
  if path.chars.contains '\x00' then some .nulInName
  else if path.chars.isEmpty then some .notFound
  else if pathLimit < byteSize path.chars then some .nameTooLong
  else none

/-- The place of an existing entry. -/
def resolve (tree : FileTree) (path : Path) : Except FileError Place :=
  match refuses? path with
  | some error => .error error
  | none => tree.walk (tree.start path) (Path.pieces path.chars)

/-- Whether a path leads to a directory. -/
def isDirectory (tree : FileTree) (path : Path) : Bool :=
  match tree.resolve path with
  | .ok place => tree.entry? place == some .directory
  | .error _ => false

/-- The content of the regular file that a path leads to. -/
def content? (tree : FileTree) (path : Path) : Option String :=
  match tree.resolve path with
  | .ok place =>
      match tree.entry? place, path.chars.getLast? with
      | some (.file content), last => if last = some '/' then none else some content
      | _, _ => none
  | .error _ => none

/-- The path of the working directory. -/
def workingPath (tree : FileTree) : Path :=
  ⟨'/' :: ['/'].intercalate tree.workingDirectory⟩

/-- The pieces of a path, those behind trailing slashes left out. -/
def namedPieces (path : Path) : List (List Char) :=
  ((Path.pieces path.chars).reverse.dropWhile List.isEmpty).reverse

/-- The directory that the last name of a path is looked up in, and that name. -/
def locate (tree : FileTree) (path : Path) : Except FileError (Place × Option (List Char)) :=
  match refuses? path with
  | some error => .error error
  | none =>
      match (namedPieces path).getLast? with
      | none => .ok (tree.start path, none)
      | some last =>
          match tree.walk (tree.start path) (namedPieces path).dropLast with
          | .error error => .error error
          | .ok place =>
              if tree.entry? place ≠ some .directory then .error .notADirectory
              else if isDots last then .ok (place, none)
              else .ok (place, some last)

/-- Makes one directory; what it is made in has to be there. -/
def makeDirectory (path : Path) (tree : FileTree) : Except FileError Unit × FileTree :=
  match tree.locate path with
  | .error error => (.error error, tree)
  | .ok (_, none) => (.error .alreadyExists, tree)
  | .ok (place, some name) =>
      if nameLimit < byteSize name then (.error .nameTooLong, tree)
      else
        match tree.entry? (place ++ [name]) with
        | some _ => (.error .alreadyExists, tree)
        | none => (.ok (), tree.put (place ++ [name]) .directory)

/-- Making directories of a tree. -/
def directories : Directories (StateM FileTree) where
  make := makeDirectory
  isThere path := fun tree => (tree.isDirectory path, tree)

/-- Makes a directory and, where they are missing, the ones above it. -/
def makeDirectories (path : Path) (tree : FileTree) : Except FileError Unit × FileTree :=
  ((directories.makeAll path).run tree).run

/-- Writes a regular file, replacing what it held. -/
def writeFile (path : Path) (content : String) (tree : FileTree) :
    Except FileError Unit × FileTree :=
  match tree.locate path with
  | .error error => (.error error, tree)
  | .ok (_, none) => (.error .isADirectory, tree)
  | .ok (place, some name) =>
      if path.chars.getLast? = some '/' then (.error .isADirectory, tree)
      else if nameLimit < byteSize name then (.error .nameTooLong, tree)
      else
        match tree.entry? (place ++ [name]) with
        | some .directory => (.error .isADirectory, tree)
        | _ => (.ok (), tree.put (place ++ [name]) (.file content))

/-- The places from the first name down to a whole place. -/
def chain (place : Place) : List Place :=
  (List.range place.length).map fun count => place.take (count + 1)

/-- The tree with every directory down to a place. -/
def withDirectory (tree : FileTree) (place : Place) : FileTree :=
  (chain place).foldl (fun tree above =>
    match tree.entry? above with
    | some _ => tree
    | none => tree.put above .directory) tree

/-- An otherwise empty tree with a working directory. -/
def empty (workingDirectory : Place) : FileTree :=
  withDirectory ⟨[], workingDirectory⟩ workingDirectory

/-- The place that a plain relative or absolute path names, whether or not
anything is there. -/
def placeOf (tree : FileTree) (path : Path) : Place :=
  tree.start path ++ (Path.pieces path.chars).filter fun piece => !Path.idle piece

/-- The tree with a directory and those above it. -/
def addDirectory (tree : FileTree) (path : Path) : FileTree :=
  tree.withDirectory (tree.placeOf path)

/-- The tree with a file and the directories above it. -/
def addFile (tree : FileTree) (path : Path) (content : String) : FileTree :=
  let place := tree.placeOf path
  (tree.withDirectory place.dropLast).put place (.file content)

/-- The entries below the working directory that an earlier tree lacks or holds
differently, each with the names that lead to it from there. -/
def changesSince (tree earlier : FileTree) : List (Place × Entry) :=
  tree.entries.filterMap fun (place, entry) =>
    if tree.workingDirectory.isPrefixOf place && tree.workingDirectory ≠ place &&
        earlier.entry? place ≠ some entry then
      some (place.drop tree.workingDirectory.length, entry)
    else none

end FileTree

end DraftBoard
