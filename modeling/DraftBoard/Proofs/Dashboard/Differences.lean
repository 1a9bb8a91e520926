import DraftBoard.Proofs.Dashboard.Selections
import Mathlib.Data.List.Forall2

/-!
# Documents that differ in their host selections

Putting host selections back overwrites them as a whole and decides by entries that it
does not overwrite.  So two documents that differ in nothing else come to be the same.
-/

namespace DraftBoard

namespace Json.Fields

/-- Two objects have the same keys in the same order, and under every key but the
excepted ones the same value. -/
structure SameBut (excepted : List String) (left right : Fields) : Prop where
  distinct : left.keys.Nodup
  keys : left.keys = right.keys
  values : ∀ key, key ∉ excepted → left.get? key = right.get? key

namespace SameBut

variable {excepted : List String} {key : String} {left right : Fields}

theorem refl (distinct : left.keys.Nodup) : SameBut excepted left left :=
  ⟨distinct, rfl, fun _ _ => rfl⟩

theorem eq (same : SameBut [] left right) : left = right :=
  eq_of_get? same.distinct same.keys fun key => same.values key List.not_mem_nil

/-- An excepted entry that is set on both sides no longer differs. -/
theorem insert (same : SameBut (key :: excepted) left right) (value : Json) :
    SameBut excepted (Fields.insert key value left) (Fields.insert key value right) where
  distinct := nodup_keys_insert key value same.distinct
  keys := by rw [keys_insert, keys_insert, same.keys]
  values := by
    intro other unexcepted
    rw [get?_insert, get?_insert]
    by_cases here : other = key
    · rw [if_pos here, if_pos here]
    · rw [if_neg here, if_neg here]
      apply same.values
      rw [List.mem_cons, not_or]
      exact ⟨here, unexcepted⟩

end SameBut

end Json.Fields

namespace Dashboard

open Json

/-- The keys of a host variable that hold its selection: what is overwritten when it is
put back. -/
def selectionKeys (var : Fields) : List String :=
  if flagged var "includeAll" then ["allValue", "current"] else ["current"]

theorem mem_selectionKeys {var : Fields} {key : String} (member : key ∈ selectionKeys var) :
    key = "allValue" ∨ key = "current" := by
  unfold selectionKeys at member
  split at member
  · simpa using member
  · exact .inr (List.mem_singleton.mp member)

section

variable {left right : Fields}

theorem get?_of_sameBut_selection (same : Fields.SameBut (selectionKeys left) left right)
    {key : String} (notAllValue : key ≠ "allValue") (notCurrent : key ≠ "current") :
    Fields.get? left key = Fields.get? right key := by
  apply same.values
  intro member
  rcases mem_selectionKeys member with here | here
  · exact notAllValue here
  · exact notCurrent here

theorem flagged_of_sameBut_selection (same : Fields.SameBut (selectionKeys left) left right)
    {key : String} (notAllValue : key ≠ "allValue") (notCurrent : key ≠ "current") :
    flagged left key = flagged right key := by
  rw [flagged, flagged, get?_of_sameBut_selection same notAllValue notCurrent]

theorem selectsHost_of_sameBut_selection
    (same : Fields.SameBut (selectionKeys left) left right) :
    selectsHost left = selectsHost right := by
  rw [selectsHost, selectsHost,
    get?_of_sameBut_selection same (by decide : "name" ≠ "allValue") (by decide)]

/-- Of the selection that a host variable had nothing is left. -/
theorem resetVariable_of_sameBut_selection
    (same : Fields.SameBut (selectionKeys left) left right) :
    resetVariable left = resetVariable right := by
  have offers : flagged left "includeAll" = flagged right "includeAll" :=
    flagged_of_sameBut_selection same (by decide) (by decide)
  have several : flagged left "multi" = flagged right "multi" :=
    flagged_of_sameBut_selection same (by decide) (by decide)
  have initial : initialSelection left = initialSelection right := by
    rw [initialSelection, initialSelection, offers, several]
  rw [resetVariable, resetVariable, initial, ← offers]
  by_cases offered : flagged left "includeAll" = true
  · rw [if_pos offered, if_pos offered]
    rw [selectionKeys, if_pos offered] at same
    exact ((same.insert (.string ".*")).insert (initialSelection right)).eq
  · rw [if_neg offered, if_neg offered]
    rw [selectionKeys, if_neg offered] at same
    exact (same.insert (initialSelection right)).eq

end

/-- Two elements of the variable list that are the same, or host variables with different
selections. -/
inductive SameElement : Json → Json → Prop where
  | same (element : Json) : SameElement element element
  | selection {left right : Fields} (host : selectsHost left = true)
      (same : Fields.SameBut (selectionKeys left) left right) :
      SameElement (.object left) (.object right)

theorem SameElement.resetElement {left right : Json} (same : SameElement left right) :
    Dashboard.resetElement left = Dashboard.resetElement right := by
  cases same with
  | same => rfl
  | selection host same =>
      have hostToo := selectsHost_of_sameBut_selection same
      rw [host] at hostToo
      rw [Dashboard.resetElement, Dashboard.resetElement, if_pos host, if_pos hostToo.symm,
        resetVariable_of_sameBut_selection same]

theorem SameElement.isHostVariable {left right : Json} (same : SameElement left right) :
    Dashboard.isHostVariable left = Dashboard.isHostVariable right := by
  cases same with
  | same => rfl
  | selection host same => exact selectsHost_of_sameBut_selection same

theorem map_resetElement_of_same {left right : List Json}
    (same : List.Forall₂ SameElement left right) :
    left.map resetElement = right.map resetElement := by
  induction same with
  | nil => rfl
  | cons element _ ih => rw [List.map_cons, List.map_cons, element.resetElement, ih]

theorem countP_isHostVariable_of_same {left right : List Json}
    (same : List.Forall₂ SameElement left right) :
    left.countP isHostVariable = right.countP isHostVariable := by
  induction same with
  | nil => rfl
  | cons element _ ih => rw [List.countP_cons, List.countP_cons, element.isHostVariable, ih]

/-- Two values of `templating` that are the same, or whose lists of variables differ in
the selections of host variables. -/
inductive SameTemplating : Option Json → Option Json → Prop where
  | same (templating : Option Json) : SameTemplating templating templating
  | list {left right : Fields} {elements others : List Json}
      (same : Fields.SameBut ["list"] left right)
      (listed : Fields.get? left "list" = some (.array elements))
      (listedToo : Fields.get? right "list" = some (.array others))
      (alike : List.Forall₂ SameElement elements others) :
      SameTemplating (some (.object left)) (some (.object right))

/-- Two documents that differ in nothing but the selections of host variables. -/
structure SameButSelections (left right : Dashboard) : Prop where
  fields : left.fields.SameBut ["templating"] right.fields
  templating : SameTemplating (left.get? "templating") (right.get? "templating")

theorem SameButSelections.title_eq {left right : Dashboard}
    (same : SameButSelections left right) : left.title = right.title := by
  have titled : left.get? "title" = right.get? "title" :=
    same.fields.values "title" (by decide)
  rw [title, title, titled]

/-- Documents that differ in host selections alone are the same once these are put back,
and as many are put back in either. -/
theorem SameButSelections.resetHostSelections_eq {left right : Dashboard}
    (same : SameButSelections left right) :
    left.resetHostSelections = right.resetHostSelections := by
  have set : ∀ value, left.set "templating" value = right.set "templating" value := by
    intro value
    exact congrArg Dashboard.mk (same.fields.insert value).eq
  have templating := same.templating
  generalize found : left.get? "templating" = leftValue at templating
  generalize foundToo : right.get? "templating" = rightValue at templating
  cases templating with
  | same =>
      have values : ∀ key, left.fields.get? key = right.fields.get? key := by
        intro key
        by_cases here : key = "templating"
        · subst key
          exact found.trans foundToo.symm
        · exact same.fields.values key (by simpa using here)
      have whole : left.fields = right.fields :=
        Fields.eq_of_get? same.fields.distinct same.fields.keys values
      have documents : left = right := congrArg Dashboard.mk whole
      rw [documents]
  | list entries listed listedToo alike =>
      simp only [resetHostSelections, templateVariables?, found, foundToo, listed, listedToo]
      rw [map_resetElement_of_same alike, countP_isHostVariable_of_same alike,
        (entries.insert _).eq, set]

end Dashboard

end DraftBoard
