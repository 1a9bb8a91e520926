import DraftBoard.Json.Basic

/-!
# Dashboard documents

A dashboard is a JSON object.  Four of its entries say which dashboard it is:
`title`, `id`, `uid` and `version`.  Setting one of them leaves every other entry
and the order of the entries alone.
-/

namespace DraftBoard

/-- A dashboard document. -/
structure Dashboard where
  fields : Json.Fields
deriving Repr, Inhabited

namespace Dashboard

/-- The document as a JSON value. -/
def toJson (dashboard : Dashboard) : Json := .object dashboard.fields

/-- The value of a top-level entry. -/
def get? (dashboard : Dashboard) (key : String) : Option Json :=
  dashboard.fields.get? key

/-- The top-level keys in order. -/
def keys (dashboard : Dashboard) : List String := dashboard.fields.keys

/-- Sets a top-level entry. -/
def set (dashboard : Dashboard) (key : String) (value : Json) : Dashboard :=
  ⟨dashboard.fields.insert key value⟩

/-- The title; empty when it is missing or not a string. -/
def title (dashboard : Dashboard) : String :=
  ((dashboard.get? "title").bind Json.string?).getD ""

/-- Gives the dashboard a title. -/
def setTitle (dashboard : Dashboard) (title : String) : Dashboard :=
  dashboard.set "title" (.string title)

/-- Forgets the number under which a server keeps the dashboard. -/
def clearId (dashboard : Dashboard) : Dashboard :=
  dashboard.set "id" .null

/-- Gives the dashboard a uid, or none. -/
def setUid (dashboard : Dashboard) (uid : Option String) : Dashboard :=
  dashboard.set "uid" (match uid with | some uid => .string uid | none => .null)

/-- Stamps the dashboard with a version. -/
def setVersion (dashboard : Dashboard) (version : Int) : Dashboard :=
  dashboard.set "version" (.ofInt version)

end Dashboard

end DraftBoard
