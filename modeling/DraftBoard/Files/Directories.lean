import DraftBoard.Files.Error
import DraftBoard.Files.Path

/-!
# Making directories

A directory is made together with those above it that are missing: the deepest one is
tried first, and the ones above it only if it has nothing to stand in.
-/

namespace DraftBoard

/-- Making directories on a file system. -/
structure Directories (m : Type → Type) where
  /-- Makes one directory; what it is made in has to be there. -/
  make : Path → m (Except FileError Unit)
  /-- Whether a path leads to a directory. -/
  isThere : Path → m Bool

namespace Directories

variable {m : Type → Type} [Monad m]

/-- A refusal that does not matter if the directory is there. -/
def unlessThere (directories : Directories m) (path : Path) (error : FileError) :
    m (Except FileError Unit) := do
  if ← directories.isThere path then return .ok () else return .error error

/-- Makes a directory and, where they are missing, the ones above it; `levels` bounds
how far it climbs. -/
def makeAllUpTo (directories : Directories m) : Nat → Path → m (Except FileError Unit)
  | 0, _ => return .error .noStart
  | levels + 1, path => do
      if path.chars.isEmpty then return .ok ()
      match ← directories.make path with
      | .ok () => return .ok ()
      | .error .notFound =>
          match path.parent? with
          | none => return .error .noStart
          | some parent =>
              match ← makeAllUpTo directories levels parent with
              | .error error => return .error error
              | .ok () =>
                  match ← directories.make path with
                  | .ok () => return .ok ()
                  | .error error => directories.unlessThere path error
      | .error error => directories.unlessThere path error

/-- Makes a directory and, where they are missing, the ones above it. -/
def makeAll (directories : Directories m) (path : Path) : m (Except FileError Unit) :=
  directories.makeAllUpTo (path.chars.length + 1) path

end Directories

end DraftBoard
