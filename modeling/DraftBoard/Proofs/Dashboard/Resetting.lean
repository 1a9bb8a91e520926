import DraftBoard.Proofs.Dashboard.Selections
import Mathlib.Data.List.Forall2

/-!
# Documents whose host selections have been put back

Of a whole document only the selections of host variables change.  The statements here say
how, element by element and key by key, in terms of what the document holds before and
after.
-/

namespace DraftBoard.Dashboard

open Json

/-- An entry is the boolean true. -/
def IsTrue (var : Fields) (key : String) : Prop :=
  Fields.get? var key = some (.bool true)

theorem flagged_iff {var : Fields} {key : String} :
    flagged var key = true ↔ IsTrue var key := by
  unfold flagged IsTrue
  cases Fields.get? var key with
  | none => simp
  | some value => cases value <;> simp [bool?]

/-- How a host variable comes out.  Its selection follows from what it offers; every other
entry keeps its value, every key its place, and new keys go to the end. -/
structure VariablePutBack (before after : Fields) : Prop where
  several : IsTrue before "includeAll" → IsTrue before "multi" →
    Fields.get? after "current" = some (.object [("selected", .bool true),
      ("text", .array [.string "All"]), ("value", .array [.string "$__all"])])
  single : IsTrue before "includeAll" → ¬ IsTrue before "multi" →
    Fields.get? after "current" = some (.object [("selected", .bool true),
      ("text", .string "All"), ("value", .string "$__all")])
  cleared : ¬ IsTrue before "includeAll" →
    Fields.get? after "current" = some (.object [("selected", .bool false),
      ("text", .string ""), ("value", .string "")])
  matching : IsTrue before "includeAll" → Fields.get? after "allValue" = some (.string ".*")
  unmatched : ¬ IsTrue before "includeAll" →
    Fields.get? after "allValue" = Fields.get? before "allValue"
  others : ∀ key, key ≠ "allValue" → key ≠ "current" →
    Fields.get? after key = Fields.get? before key
  keysMatching : IsTrue before "includeAll" → Fields.keys after =
    Fields.keys before ++ ["allValue", "current"].filter (· ∉ Fields.keys before)
  keysUnmatched : ¬ IsTrue before "includeAll" → Fields.keys after =
    Fields.keys before ++ ["current"].filter (· ∉ Fields.keys before)

theorem resetVariable_of_isTrue {var : Fields} (offered : IsTrue var "includeAll") :
    resetVariable var =
      (var.insert "allValue" (.string ".*")).insert "current" (initialSelection var) := by
  rw [resetVariable, if_pos (flagged_iff.mpr offered)]

theorem resetVariable_of_not_isTrue {var : Fields} (unoffered : ¬ IsTrue var "includeAll") :
    resetVariable var = var.insert "current" (initialSelection var) := by
  rw [resetVariable, if_neg (flagged_iff.not.mpr unoffered)]

theorem get?_current_resetVariable (var : Fields) :
    Fields.get? (resetVariable var) "current" = some (initialSelection var) :=
  Fields.get?_insert_self ..

theorem variablePutBack_resetVariable (var : Fields) :
    VariablePutBack var (resetVariable var) where
  several offered multi := by
    rw [get?_current_resetVariable, initialSelection, if_pos (flagged_iff.mpr offered),
      if_pos (flagged_iff.mpr multi)]
    rfl
  single offered notMulti := by
    rw [get?_current_resetVariable, initialSelection, if_pos (flagged_iff.mpr offered),
      if_neg (flagged_iff.not.mpr notMulti)]
    rfl
  cleared unoffered := by
    rw [get?_current_resetVariable, initialSelection, if_neg (flagged_iff.not.mpr unoffered)]
    rfl
  matching offered := by
    rw [resetVariable_of_isTrue offered, Fields.get?_insert_of_ne _ _ (by decide),
      Fields.get?_insert_self]
  unmatched unoffered := by
    rw [resetVariable_of_not_isTrue unoffered, Fields.get?_insert_of_ne _ _ (by decide)]
  others _ notAllValue notCurrent := get?_resetVariable_of_ne var notAllValue notCurrent
  keysMatching offered := by
    rw [resetVariable_of_isTrue offered, Fields.keys_insert, Fields.keys_insert]
    by_cases hasAllValue : "allValue" ∈ Fields.keys var <;>
      by_cases hasCurrent : "current" ∈ Fields.keys var <;> simp [hasAllValue, hasCurrent]
  keysUnmatched unoffered := by
    rw [resetVariable_of_not_isTrue unoffered, Fields.keys_insert]
    by_cases hasCurrent : "current" ∈ Fields.keys var <;> simp [hasCurrent]

/-- An element of the variable list is an object named for a host, in whatever case. -/
def NamesHost (element : Json) : Prop :=
  ∃ var name, element = .object var ∧ Fields.get? var "name" = some (.string name) ∧
    (Text.lowercase name = "instance" ∨ Text.lowercase name = "hostname")

theorem selectsHost_iff {var : Fields} : selectsHost var = true ↔ NamesHost (.object var) := by
  have unnamed : hostVariables.contains (Text.lowercase "") = false := rfl
  constructor
  · intro selects
    unfold selectsHost at selects
    cases found : (Fields.get? var "name").bind string? with
    | none =>
        rw [found] at selects
        exact absurd selects (Bool.eq_false_iff.mp unnamed)
    | some name =>
        rw [found] at selects
        obtain ⟨value, isValue, isString⟩ := Option.bind_eq_some_iff.mp found
        have host : Text.lowercase name = "instance" ∨ Text.lowercase name = "hostname" := by
          simpa [hostVariables] using selects
        cases value with
        | string text =>
            obtain rfl := Option.some.inj isString
            exact ⟨var, text, rfl, isValue, host⟩
        | _ => cases isString
  · rintro ⟨_, name, same, found, host⟩
    obtain rfl := Json.object.inj same
    simpa [selectsHost, found, string?, hostVariables] using host

theorem isHostVariable_iff {element : Json} :
    isHostVariable element = true ↔ NamesHost element := by
  cases element with
  | object var => exact selectsHost_iff
  | _ =>
      constructor
      · intro host
        cases host
      · rintro ⟨_, _, same, _⟩
        cases same

instance : DecidablePred NamesHost := fun _ => decidable_of_iff _ isHostVariable_iff

/-- How an element of the variable list comes out. -/
inductive ElementPutBack : Json → Json → Prop where
  | host {before after : Fields} (named : NamesHost (.object before))
      (putBack : VariablePutBack before after) :
      ElementPutBack (.object before) (.object after)
  | other {element : Json} (unnamed : ¬ NamesHost element) : ElementPutBack element element

theorem elementPutBack_resetElement (element : Json) :
    ElementPutBack element (resetElement element) := by
  cases element with
  | object var =>
      by_cases named : NamesHost (.object var)
      · rw [resetElement, if_pos (selectsHost_iff.mpr named)]
        exact .host named (variablePutBack_resetVariable var)
      · rw [resetElement, if_neg (selectsHost_iff.not.mpr named)]
        exact .other named
  | _ =>
      apply ElementPutBack.other
      rintro ⟨_, _, same, _⟩
      cases same

theorem forall₂_elementPutBack (elements : List Json) :
    List.Forall₂ ElementPutBack elements (elements.map resetElement) := by
  induction elements with
  | nil => exact .nil
  | cons element elements ih => exact .cons (elementPutBack_resetElement element) ih

/-- A document has a list of variables. -/
structure Lists (dashboard : Dashboard) (templating : Fields) (elements : List Json) :
    Prop where
  entries : dashboard.get? "templating" = some (.object templating)
  listed : Fields.get? templating "list" = some (.array elements)

theorem templateVariables?_eq_some_iff {dashboard : Dashboard} {templating : Fields}
    {elements : List Json} :
    dashboard.templateVariables? = some (templating, elements) ↔
      dashboard.Lists templating elements := by
  constructor
  · intro found
    unfold templateVariables? at found
    split at found
    · next templating isTemplating =>
        split at found
        · next elements isList =>
            cases found
            exact ⟨isTemplating, isList⟩
        · cases found
    · cases found
  · intro lists
    simp only [templateVariables?, lists.entries, lists.listed]

theorem resetHostSelections_of_lists {dashboard : Dashboard} {templating : Fields}
    {elements : List Json} (lists : dashboard.Lists templating elements) :
    dashboard.resetHostSelections =
      (dashboard.set "templating"
          (.object (templating.insert "list" (.array (elements.map resetElement)))),
        elements.countP isHostVariable) := by
  unfold resetHostSelections
  rw [templateVariables?_eq_some_iff.mpr lists]

/-- A document without a list of variables stays as it is.  In one that has a list exactly
the host variables in it are put back, each at its place, and they are counted. -/
theorem host_selections_put_back {dashboard after : Dashboard} {count : Nat}
    (reset : dashboard.resetHostSelections = (after, count)) :
    ((∀ templating elements, ¬ dashboard.Lists templating elements) →
      after = dashboard ∧ count = 0) ∧
    (∀ templating elements, dashboard.Lists templating elements →
      ∃ settled putBack, after.Lists settled putBack ∧
        List.Forall₂ ElementPutBack elements putBack ∧
        count = elements.countP (fun element => decide (NamesHost element)) ∧
        (∀ key, key ≠ "list" → Fields.get? settled key = Fields.get? templating key) ∧
        Fields.keys settled = Fields.keys templating ∧
        (∀ key, key ≠ "templating" → after.get? key = dashboard.get? key) ∧
        after.keys = dashboard.keys) := by
  constructor
  · intro unlisted
    have missing : dashboard.templateVariables? = none := by
      cases found : dashboard.templateVariables? with
      | none => rfl
      | some list => exact absurd (templateVariables?_eq_some_iff.mp found) (unlisted _ _)
    rw [resetHostSelections, missing] at reset
    cases reset
    exact ⟨rfl, rfl⟩
  · intro templating elements lists
    have otherEntries := get?_resetHostSelections dashboard
    have keys := keys_resetHostSelections dashboard
    rw [reset] at otherEntries keys
    rw [resetHostSelections_of_lists lists] at reset
    cases reset
    refine ⟨templating.insert "list" (.array (elements.map resetElement)),
      elements.map resetElement, ⟨get?_set_self .., Fields.get?_insert_self ..⟩,
      forall₂_elementPutBack elements, ?_, ?_, ?_, ?_, keys⟩
    · apply List.countP_congr
      intro element _
      rw [decide_eq_true_eq]
      exact isHostVariable_iff
    · intro key different
      exact Fields.get?_insert_of_ne _ _ different
    · exact Fields.keys_insert_of_mem _ (Fields.mem_keys_of_get? lists.listed)
    · intro key different
      rw [otherEntries, if_neg different]

/-- Two host variables among a number, a variable without a name and one of another name. -/
def mixedVariables : List Json :=
  [.object [("current", .null), ("name", .string "InStance"), ("includeAll", .bool true),
      ("multi", .string "true")],
    .ofInt 3, .object [("includeAll", .bool true)],
    .object [("name", .string "hostname"), ("allValue", .string "h.*")],
    .object [("name", .string "interval")]]

def mixedTemplating : Fields := [("enable", .bool true), ("list", .array mixedVariables)]

def mixedDashboard : Dashboard where
  fields := [("templating", .object mixedTemplating), ("title", .string "Disk")]

def unlistedDashboard : Dashboard where
  fields := [("templating", .null)]

theorem host_selections_put_back_sample :
    mixedDashboard.resetHostSelections.2 = 2 ∧
    (∃ settled putBack, mixedDashboard.resetHostSelections.1.Lists settled putBack ∧
      List.Forall₂ ElementPutBack mixedVariables putBack ∧
      Fields.get? settled "enable" = some (.bool true)) ∧
    unlistedDashboard.resetHostSelections.1 = unlistedDashboard := by
  have reset : mixedDashboard.resetHostSelections =
    (mixedDashboard.resetHostSelections.1, 2) := rfl
  have listed : mixedDashboard.Lists mixedTemplating mixedVariables := ⟨rfl, rfl⟩
  obtain ⟨settled, putBack, lists, elements, _, others, _⟩ :=
    (host_selections_put_back reset).2 _ _ listed
  have unlisted : ∀ templating elements, ¬ unlistedDashboard.Lists templating elements := by
    rintro templating elements ⟨found, _⟩
    cases found
  have left : unlistedDashboard.resetHostSelections =
    (unlistedDashboard.resetHostSelections.1, 0) := rfl
  obtain ⟨same, _⟩ := (host_selections_put_back left).1 unlisted
  exact ⟨rfl, ⟨settled, putBack, lists, elements, others "enable" (by decide)⟩, same⟩

end DraftBoard.Dashboard
