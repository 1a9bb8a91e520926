import DraftBoard.Text.Lowercase
import DraftBoard.Transfer.Catalogue

/-!
# Shelves

A shelf holds dashboards in memory and keeps account of every call: a catalogue
to try transfers on.
-/

namespace DraftBoard

/-- A call that a catalogue has received. -/
inductive Call where
  | search (query : String)
  | fetch (uid : String)
  | upload (title : String)
deriving DecidableEq, Repr

/-- Dashboards in order, the calls received, and what has been uploaded. -/
structure Shelf where
  held : List (Hit × Json)
  calls : List Call := []
  uploads : List Upload := []

namespace Shelf

/-- Whether a text contains another one. -/
def containsText (needle : List Char) : List Char → Bool
  | [] => needle.isEmpty
  | c :: rest => needle.isPrefixOf (c :: rest) || containsText needle rest

/-- Whether a search finds a title: both in lower case, the title contains the query. -/
def matchesQuery (query title : String) : Bool :=
  containsText (Text.lowercaseChars query.toList) (Text.lowercaseChars title.toList)

/-- What a shelf says about each of its dashboards. -/
def about : Json := .object [("provisioned", .bool true)]

/-- Takes account of a call. -/
def record (call : Call) (shelf : Shelf) : Shelf :=
  { shelf with calls := shelf.calls ++ [call] }

/-- The hits of a search. -/
def hits (shelf : Shelf) (query : String) : List Hit :=
  (shelf.held.map (·.1)).filter fun hit => matchesQuery query hit.title

/-- The definition of the first dashboard with a uid. -/
def definition (shelf : Shelf) (uid : String) : Except TransferError Definition :=
  match shelf.held.find? fun (hit, _) => hit.uid == uid with
  | none => .error (.notFound uid)
  | some (_, document) =>
      match Dashboard.ofJson document with
      | .ok dashboard => .ok ⟨dashboard, about⟩
      | .error cause => .error (.encode cause)

/-- The catalogue of a shelf. -/
def catalogue : Catalogue (StateM Shelf) where
  search query := fun shelf => (.ok (shelf.hits query), shelf.record (.search query))
  fetch uid := fun shelf => (shelf.definition uid, shelf.record (.fetch uid))
  upload request := fun shelf =>
    let shelf := shelf.record (.upload request.dashboard.title)
    (.ok (), { shelf with uploads := shelf.uploads ++ [request] })

/-- The shelf with one more dashboard at its end. -/
def add (shelf : Shelf) (hit : Hit) (document : Json) : Shelf :=
  { shelf with held := shelf.held ++ [(hit, document)] }

end Shelf

end DraftBoard
