import DraftBoard.Dashboard.Selection
import DraftBoard.Proofs.Dashboard.Edits

/-!
# Putting host selections back

The whole effect on a document is one function of the value of `templating`.
That function reads no entry that it writes, so doing it again changes nothing.
-/

namespace DraftBoard.Dashboard

open Json

/-- The value of `templating` with its host variables put back, where it holds a
list of variables. -/
def resetTemplating : Json → Json
  | .object templating =>
      match Fields.get? templating "list" with
      | some (.array elements) =>
          .object (Fields.insert "list" (.array (elements.map resetElement)) templating)
      | _ => .object templating
  | other => other

theorem resetHostSelections_of_get? {dashboard : Dashboard} {templating : Json}
    (found : dashboard.get? "templating" = some templating) :
    dashboard.resetHostSelections.1 =
      dashboard.set "templating" (resetTemplating templating) := by
  have unchanged : dashboard.set "templating" templating = dashboard :=
    set_eq_self found
  cases templating with
  | object entries =>
      cases listed : Fields.get? entries "list" with
      | none => simp [resetHostSelections, templateVariables?, resetTemplating, found,
          listed, unchanged]
      | some list =>
          cases list <;> simp [resetHostSelections, templateVariables?, resetTemplating,
            found, listed, unchanged]
  | _ => simp [resetHostSelections, templateVariables?, resetTemplating, found, unchanged]

theorem resetHostSelections_of_missing {dashboard : Dashboard}
    (missing : dashboard.get? "templating" = none) :
    dashboard.resetHostSelections.1 = dashboard := by
  simp [resetHostSelections, templateVariables?, missing]

theorem get?_resetHostSelections (dashboard : Dashboard) (key : String) :
    dashboard.resetHostSelections.1.get? key =
      if key = "templating" then (dashboard.get? "templating").map resetTemplating
      else dashboard.get? key := by
  cases found : dashboard.get? "templating" with
  | none =>
      rw [resetHostSelections_of_missing found]
      by_cases same : key = "templating"
      · simp [same, found]
      · simp [same]
  | some templating =>
      rw [resetHostSelections_of_get? found, get?_set]
      rfl

theorem keys_resetHostSelections (dashboard : Dashboard) :
    dashboard.resetHostSelections.1.keys = dashboard.keys := by
  cases found : dashboard.get? "templating" with
  | none => rw [resetHostSelections_of_missing found]
  | some templating =>
      rw [resetHostSelections_of_get? found]
      exact keys_set_of_mem _ (mem_keys_of_get? found)

theorem get?_resetVariable_of_ne (var : Fields) {key : String} (notAllValue : key ≠ "allValue")
    (notCurrent : key ≠ "current") :
    Fields.get? (resetVariable var) key = Fields.get? var key := by
  unfold resetVariable
  rw [Fields.get?_insert_of_ne _ _ notCurrent]
  split
  · rw [Fields.get?_insert_of_ne _ _ notAllValue]
  · rfl

theorem flagged_resetVariable {key : String} (var : Fields)
    (notAllValue : key ≠ "allValue") (notCurrent : key ≠ "current") :
    flagged (resetVariable var) key = flagged var key := by
  rw [flagged, flagged, get?_resetVariable_of_ne var notAllValue notCurrent]

theorem initialSelection_resetVariable (var : Fields) :
    initialSelection (resetVariable var) = initialSelection var := by
  simp [initialSelection, flagged_resetVariable]

theorem selectsHost_resetVariable (var : Fields) :
    selectsHost (resetVariable var) = selectsHost var := by
  rw [selectsHost, selectsHost, get?_resetVariable_of_ne var (by decide) (by decide)]

theorem resetVariable_resetVariable (var : Fields) :
    resetVariable (resetVariable var) = resetVariable var := by
  have currentSet : Fields.get? (resetVariable var) "current" =
      some (initialSelection var) :=
    Fields.get?_insert_self ..
  have flagKept : flagged (resetVariable var) "includeAll" = flagged var "includeAll" :=
    flagged_resetVariable var (by decide) (by decide)
  have allValueSet : flagged var "includeAll" = true →
      Fields.get? (resetVariable var) "allValue" = some (.string ".*") := by
    intro offered
    simp [resetVariable, offered, Fields.get?_insert]
  rw [resetVariable, flagKept, initialSelection_resetVariable]
  by_cases offered : flagged var "includeAll" = true
  · rw [if_pos offered, Fields.insert_eq_self (allValueSet offered),
      Fields.insert_eq_self currentSet]
  · rw [if_neg offered, Fields.insert_eq_self currentSet]

theorem resetElement_resetElement (element : Json) :
    resetElement (resetElement element) = resetElement element := by
  cases element with
  | object var =>
      by_cases host : selectsHost var = true
      · simp [resetElement, host, selectsHost_resetVariable, resetVariable_resetVariable]
      · simp [resetElement, host]
  | _ => rfl

theorem resetTemplating_resetTemplating (templating : Json) :
    resetTemplating (resetTemplating templating) = resetTemplating templating := by
  cases templating with
  | object entries =>
      cases listed : Fields.get? entries "list" with
      | none => simp [resetTemplating, listed]
      | some list =>
          cases list with
          | array elements =>
              simp [resetTemplating, listed, List.map_map, Function.comp_def,
                resetElement_resetElement]
          | _ => simp [resetTemplating, listed]
  | _ => rfl

/-- A document whose `templating` was put back elsewhere is left as it is. -/
theorem resetHostSelections_eq_self {dashboard settled : Dashboard}
    (same : dashboard.get? "templating" =
      settled.resetHostSelections.1.get? "templating") :
    dashboard.resetHostSelections.1 = dashboard := by
  rw [get?_resetHostSelections, if_pos rfl] at same
  cases found : settled.get? "templating" with
  | none =>
      rw [found] at same
      exact resetHostSelections_of_missing same
  | some templating =>
      rw [found] at same
      rw [resetHostSelections_of_get? same, resetTemplating_resetTemplating]
      exact set_eq_self same

end DraftBoard.Dashboard
