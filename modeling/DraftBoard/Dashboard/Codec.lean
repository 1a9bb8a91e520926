import DraftBoard.Dashboard.Basic
import DraftBoard.Json.Shape

/-!
# Search hits and definitions

`Hit` is one answer of a search, `Definition` a whole dashboard with what the
server says about it.  Both are read from an object or from the sequence of their
fields, and written as an object.
-/

namespace DraftBoard

namespace Dashboard

open Json

/-- A document at a place where `depth` levels of nesting are left. -/
def reader (depth : Nat) : Reader Dashboard := fun text => do
  let (fields, rest) ← expectObject depth text
  .ok (⟨fields⟩, rest)

/-- The document that a text holds. -/
def parse (text : String) : Except Problem Dashboard :=
  readAll (reader depthLimit) text

/-- A value as a document, if it is an object. -/
def ofJson : Json → Except Mismatch Dashboard
  | .object fields => .ok ⟨fields⟩
  | other => .error (.wrongType other.found .map)

end Dashboard

/-- The folder of dashboards that are in none. -/
def generalFolder : String := "General"

/-- One answer of a dashboard search. -/
structure Hit where
  title : String
  uid : String
  folderTitle : Option String
deriving DecidableEq, Repr, Inhabited

namespace Hit

open Json

/-- The folder that the dashboard lives in. -/
def folder (hit : Hit) : String := hit.folderTitle.getD generalFolder

/-- The hit as an object; a folder that is not given is left out. -/
def toJson (hit : Hit) : Json :=
  .object <|
    [("title", .string hit.title), ("uid", .string hit.uid)] ++
      match hit.folderTitle with
      | some folder => [("folderTitle", .string folder)]
      | none => []

/-- The fields of a hit as far as they have been read. -/
structure Partial where
  title : Option String := none
  uid : Option String := none
  folderTitle : Option (Option String) := none

/-- The name that mismatches give a hit. -/
def recordName : String := "DashboardSummary"

/-- A hit as the sequence of its fields; the folder may be missing. -/
def positional : Reader Hit := fun text => do
  let short (found : Nat) : Problem := .mismatch (.wrongLength found recordName 3)
  let some text ← nextItem true text | .error (short 0)
  let (title, text) ← expectString text
  let some text ← nextItem false text | .error (short 1)
  let (uid, text) ← expectString text
  match ← nextItem false text with
  | none => .ok (⟨title, uid, none⟩, text)
  | some text =>
      let (folderTitle, text) ← expectOptionalString text
      .ok (⟨title, uid, folderTitle⟩, text)

/-- How a hit is read. -/
def record : RecordReader Partial Hit where
  name := recordName
  start := {}
  given? state key :=
    if key = "title" then some state.title.isSome
    else if key = "uid" then some state.uid.isSome
    else if key = "folderTitle" then some state.folderTitle.isSome
    else none
  read state key text :=
    if key = "folderTitle" then do
      let (folder, rest) ← expectOptionalString text
      .ok ({ state with folderTitle := some folder }, rest)
    else do
      let (value, rest) ← expectString text
      .ok (if key = "title" then { state with title := some value }
        else { state with uid := some value }, rest)
  finish state :=
    match state.title, state.uid with
    | none, _ => .error (.mismatch (.missingField "title"))
    | _, none => .error (.mismatch (.missingField "uid"))
    | some title, some uid => .ok ⟨title, uid, state.folderTitle.getD none⟩
  positional := positional

/-- The hit that a text holds. -/
def parse (text : String) : Except Problem Hit :=
  readAll record.reader text

/-- The list of hits that a text holds. -/
def parseList (text : String) : Except Problem (List Hit) :=
  readAll (expectList record.reader) text

end Hit

/-- A dashboard with what its server says about it. -/
structure Definition where
  dashboard : Dashboard
  about : Json
deriving Repr, Inhabited

namespace Definition

open Json

/-- The definition as an object. -/
def toJson (definition : Definition) : Json :=
  .object [("dashboard", definition.dashboard.toJson), ("meta", definition.about)]

/-- Whether the server says that the dashboard comes from a file. -/
def provisioned (definition : Definition) : Bool :=
  ((definition.about.get? "provisioned").bind Json.bool?).getD false

/-- The fields of a definition as far as they have been read. -/
structure Partial where
  dashboard : Option Dashboard := none
  about : Option Json := none

/-- The name that mismatches give a definition. -/
def recordName : String := "DashboardWithMeta"

/-- A definition as the sequence of its fields; the second may be missing. -/
def positional (depth : Nat) : Reader Definition := fun text => do
  let some text ← nextItem true text
    | .error (.mismatch (.wrongLength 0 recordName 2))
  let (dashboard, text) ← Dashboard.reader depth text
  match ← nextItem false text with
  | none => .ok (⟨dashboard, .null⟩, text)
  | some text =>
      let (about, text) ← value .keep depth text
      .ok (⟨dashboard, about⟩, text)

/-- How a definition is read; its fields may nest `depth` levels. -/
def record (depth : Nat) : RecordReader Partial Definition where
  name := recordName
  start := {}
  given? state key :=
    if key = "dashboard" then some state.dashboard.isSome
    else if key = "meta" then some state.about.isSome
    else none
  read state key text :=
    if key = "dashboard" then do
      let (dashboard, rest) ← Dashboard.reader depth text
      .ok ({ state with dashboard := some dashboard }, rest)
    else do
      let (about, rest) ← value .keep depth text
      .ok ({ state with about := some about }, rest)
  finish state :=
    match state.dashboard with
    | none => .error (.mismatch (.missingField "dashboard"))
    | some dashboard => .ok ⟨dashboard, state.about.getD .null⟩
  positional := positional depth

/-- The definition that a text holds. -/
def parse (text : String) : Except Problem Definition :=
  readAll (record (depthLimit - 1)).reader text

end Definition

end DraftBoard
