import DraftBoard.Dashboard.Basic
import DraftBoard.Text.Lowercase

/-!
# Host selections

A dashboard remembers which host its editor last looked at: the current value of
the variables named `instance` and `hostname`.  `resetHostSelections` puts those
variables back to "all" where that is offered and to nothing elsewhere.
-/

namespace DraftBoard

namespace Dashboard

/-- Names of the variables that select a host. -/
def hostVariables : List String := ["instance", "hostname"]

/-- Whether an entry is the boolean true. -/
def flagged (var : Json.Fields) (key : String) : Bool :=
  ((var.get? key).bind Json.bool?).getD false

/-- Whether a variable selects a host, whatever the case of its name. -/
def selectsHost (var : Json.Fields) : Bool :=
  let name := ((var.get? "name").bind Json.string?).getD ""
  hostVariables.contains (Text.lowercase name)

/-- The selection of a variable: whether it counts as made, its text and its value. -/
def selection (selected : Bool) (text value : Json) : Json :=
  .object [("selected", .bool selected), ("text", text), ("value", value)]

/-- The selection that a host variable starts from. -/
def initialSelection (var : Json.Fields) : Json :=
  if flagged var "includeAll" then
    if flagged var "multi" then
      selection true (.array [.string "All"]) (.array [.string "$__all"])
    else selection true (.string "All") (.string "$__all")
  else selection false (.string "") (.string "")

/-- A host variable put back; one that offers "all" matches every host then. -/
def resetVariable (var : Json.Fields) : Json.Fields :=
  let matching :=
    if flagged var "includeAll" then var.insert "allValue" (.string ".*")
    else var
  matching.insert "current" (initialSelection var)

/-- Whether an element of the variable list is a variable that selects a host. -/
def isHostVariable : Json → Bool
  | .object var => selectsHost var
  | _ => false

/-- An element of the variable list, put back if it selects a host. -/
def resetElement : Json → Json
  | .object var =>
      .object (if selectsHost var then resetVariable var else var)
  | other => other

/-- The list of variables, where a dashboard has one. -/
def templateVariables? (dashboard : Dashboard) : Option (Json.Fields × List Json) :=
  match dashboard.get? "templating" with
  | some (.object templating) =>
      match Json.Fields.get? templating "list" with
      | some (.array elements) => some (templating, elements)
      | _ => none
  | _ => none

/-- Puts every host variable back; the count of them comes with the result. -/
def resetHostSelections (dashboard : Dashboard) : Dashboard × Nat :=
  match dashboard.templateVariables? with
  | some (templating, elements) =>
      (dashboard.set "templating"
          (.object (Json.Fields.insert "list" (.array (elements.map resetElement)) templating)),
        elements.countP isHostVariable)
  | none => (dashboard, 0)

end Dashboard

end DraftBoard
