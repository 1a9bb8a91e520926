import DraftBoard.Text.Split

/-!
# Paths

A path is kept as it is written.  Its pieces stand between slashes; empty pieces
and single dots name nothing, a leading dot apart.  `join` and `parent?` work on
the written form and resolve nothing.
-/

namespace DraftBoard

/-- A path as it is written. -/
structure Path where
  chars : List Char
deriving DecidableEq, Repr, Inhabited

/-- A part of a path that names something. -/
inductive Path.Component where
  | root
  | here
  | up
  | name (text : List Char)
deriving DecidableEq, Repr

namespace Path

/-- The path that a text writes. -/
def ofString (text : String) : Path := ⟨text.toList⟩

/-- The written form. -/
def text (path : Path) : String := String.ofList path.chars

/-- The pieces of a character sequence between slashes. -/
def pieces (chars : List Char) : List (List Char) :=
  Text.splitAtMark '/' chars

/-- Whether a path starts at the root. -/
def isAbsolute (path : Path) : Bool :=
  match path.chars with
  | '/' :: _ => true
  | _ => false

/-- A path read from another one: an absolute path stands for itself. -/
def join (base right : Path) : Path :=
  if right.isAbsolute || base.chars.isEmpty then right
  else if base.chars.getLast? = some '/' then ⟨base.chars ++ right.chars⟩
  else ⟨base.chars ++ '/' :: right.chars⟩

/-- Whether a piece behind the first one names nothing. -/
def idle (piece : List Char) : Bool :=
  piece = [] || piece = ['.']

/-- What a path starts with, the root or its first piece, and the pieces behind. -/
def split (path : Path) : Option (List Char) × List (List Char) :=
  match path.chars with
  | [] => (none, [])
  | '/' :: rest => (none, pieces rest)
  | chars =>
      match pieces chars with
      | first :: others => (some first, others)
      | [] => (none, [])

/-- The component that a piece stands for. -/
def componentOf (piece : List Char) : Component :=
  if piece = ['.'] then .here else if piece = ['.', '.'] then .up else .name piece

/-- The components of a path. -/
def components (path : Path) : List Component :=
  let (first, others) := path.split
  let behind := (others.filter fun piece => !idle piece).map componentOf
  match first with
  | some piece => componentOf piece :: behind
  | none => if path.isAbsolute then .root :: behind else behind

/-- The pieces without the idle ones at the end. -/
def trimIdle (others : List (List Char)) : List (List Char) :=
  (others.reverse.dropWhile idle).reverse

/-- The path without its last component, if it has one besides the root. -/
def parent? (path : Path) : Option Path :=
  let (first, others) := path.split
  match first, trimIdle others with
  | none, [] => none
  | some _, [] => some ⟨[]⟩
  | none, named => some ⟨'/' :: ['/'].intercalate (trimIdle named.dropLast)⟩
  | some piece, named => some ⟨['/'].intercalate (piece :: trimIdle named.dropLast)⟩

/-- Whether a name has an ending: a dot behind its first character. -/
def hasEnding (name : List Char) : Bool :=
  (name.drop 1).contains '.'

/-- The path with an ending.  A last name without one gets it, and what is idle behind
that name is left out.  A last name that has an ending keeps it: the new one goes to the
end of the path as it is written, there to a placeholder if that end is a slash.  A path
that ends in no name stays as it is. -/
def withEnding (path : Path) (ending : List Char) : Path :=
  let (first, others) := path.split
  let named := trimIdle others
  match (first.toList ++ named).getLast? with
  | none => path
  | some last =>
      if last = ['.'] ∨ last = ['.', '.'] then path
      else if hasEnding last then
        if path.chars.getLast? = some '/' then
          ⟨path.chars ++ ".placeholder.".toList ++ ending⟩
        else ⟨path.chars ++ '.' :: ending⟩
      else
        let written := ['/'].intercalate (first.toList ++ named) ++ '.' :: ending
        if path.isAbsolute then ⟨'/' :: written⟩ else ⟨written⟩

/-- What remains of two lists of components behind their common start. -/
def dropCommon : List Component → List Component → List Component × List Component
  | a :: left, b :: right => if a = b then dropCommon left right else (a :: left, b :: right)
  | left, right => (left, right)

/-- How a component is written. -/
def Component.written : Component → List Char
  | .root => []
  | .here => ['.']
  | .up => ['.', '.']
  | .name text => text

/-- The way to a path from a directory, both being absolute. -/
def relativeTo (path directory : Path) : Path :=
  let (own, others) := dropCommon path.components directory.components
  ⟨['/'].intercalate ((others.map fun _ => Component.up.written) ++ own.map Component.written)⟩

end Path

end DraftBoard
