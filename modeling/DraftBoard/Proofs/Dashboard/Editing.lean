import DraftBoard.Proofs.Dashboard.Resetting
import Mathlib.Data.List.Induction

/-!
# Editing documents

A document is edited by setters of the entries that identify it, and by putting its host
selections back.  Putting them back reads and writes `templating` alone, so that it does not
matter whether it comes before or after a setter.  After any run of edits every key has the
value that was set last, and the keys that are new stand at the end in the order in which they
were set first.
-/

namespace DraftBoard.Dashboard

open Json

/-- Sets one of the entries that say which dashboard a document is. -/
inductive Setter where
  | title (text : String)
  | noId
  | uid (given : Option String)
  | version (stamp : Int)
deriving DecidableEq

namespace Setter

def apply (dashboard : Dashboard) : Setter → Dashboard
  | .title text => dashboard.setTitle text
  | .noId => dashboard.clearId
  | .uid given => dashboard.setUid given
  | .version stamp => dashboard.setVersion stamp

def key : Setter → String
  | .title _ => "title"
  | .noId => "id"
  | .uid _ => "uid"
  | .version _ => "version"

def value : Setter → Json
  | .title text => .string text
  | .noId => .null
  | .uid none => .null
  | .uid (some given) => .string given
  | .version stamp => .ofInt stamp

theorem apply_eq_set (dashboard : Dashboard) (setter : Setter) :
    setter.apply dashboard = dashboard.set setter.key setter.value := by
  cases setter with
  | title _ => rfl
  | noId => rfl
  | uid uid => cases uid <;> rfl
  | version _ => rfl

theorem key_mem (setter : Setter) : setter.key ∈ ["title", "id", "uid", "version"] := by
  cases setter <;> simp [key]

theorem key_ne_templating (setter : Setter) : setter.key ≠ "templating" := by
  cases setter <;> simp [key]

end Setter

theorem isHostVariable_resetElement (element : Json) :
    isHostVariable (resetElement element) = isHostVariable element := by
  cases element with
  | object var =>
      by_cases host : selectsHost var = true
      · rw [resetElement, if_pos host]
        exact selectsHost_resetVariable var
      · rw [resetElement, if_neg host]
  | _ => rfl

theorem countP_map_resetElement (elements : List Json) :
    (elements.map resetElement).countP isHostVariable = elements.countP isHostVariable := by
  have kept : isHostVariable ∘ resetElement = isHostVariable :=
    funext isHostVariable_resetElement
  rw [List.countP_map, kept]

theorem map_resetElement_resetElement (elements : List Json) :
    (elements.map resetElement).map resetElement = elements.map resetElement := by
  have settled : resetElement ∘ resetElement = resetElement := funext resetElement_resetElement
  rw [List.map_map, settled]

theorem resetHostSelections_of_unlisted {dashboard : Dashboard}
    (unlisted : dashboard.templateVariables? = none) :
    dashboard.resetHostSelections = (dashboard, 0) := by
  rw [resetHostSelections, unlisted]

theorem templateVariables?_set {key : String} (different : key ≠ "templating")
    (dashboard : Dashboard) (value : Json) :
    (dashboard.set key value).templateVariables? = dashboard.templateVariables? := by
  rw [templateVariables?, templateVariables?, get?_set_of_ne dashboard value (Ne.symm different)]

/-- The list that is left by putting it back holds the same host variables, all of them as they
are put back. -/
theorem resetHostSelections_resetHostSelections (dashboard : Dashboard) :
    dashboard.resetHostSelections.1.resetHostSelections = dashboard.resetHostSelections := by
  cases found : dashboard.templateVariables? with
  | none =>
      rw [resetHostSelections_of_unlisted found]
      exact resetHostSelections_of_unlisted found
  | some list =>
      obtain ⟨templating, elements⟩ := list
      rw [resetHostSelections_of_lists (templateVariables?_eq_some_iff.mp found)]
      have lists : (dashboard.set "templating"
          (.object (templating.insert "list" (.array (elements.map resetElement))))).Lists
          (templating.insert "list" (.array (elements.map resetElement)))
          (elements.map resetElement) :=
        ⟨get?_set_self .., Fields.get?_insert_self ..⟩
      rw [resetHostSelections_of_lists lists, set_set_self, Fields.insert_insert_self,
        map_resetElement_resetElement, countP_map_resetElement]

/-- An entry other than `templating` can be set before or after. -/
theorem resetHostSelections_set {key : String} (different : key ≠ "templating")
    (dashboard : Dashboard) (value : Json) :
    (dashboard.set key value).resetHostSelections =
      (dashboard.resetHostSelections.1.set key value, dashboard.resetHostSelections.2) := by
  have sameList := templateVariables?_set different dashboard value
  cases found : dashboard.templateVariables? with
  | none =>
      rw [found] at sameList
      rw [resetHostSelections_of_unlisted found, resetHostSelections_of_unlisted sameList]
  | some list =>
      obtain ⟨templating, elements⟩ := list
      rw [found] at sameList
      have lists := templateVariables?_eq_some_iff.mp found
      have listsToo := templateVariables?_eq_some_iff.mp sameList
      have member : "templating" ∈ dashboard.keys := mem_keys_of_get? lists.entries
      rw [resetHostSelections_of_lists lists, resetHostSelections_of_lists listsToo,
        set_comm_of_mem _ _ (Ne.symm different) member]

/-- Putting selections back once more finds as many of them and changes nothing, and it makes no
difference which of putting them back and setting an identifying entry comes first. -/
theorem reset_settles_beside_setters (dashboard : Dashboard) :
    dashboard.resetHostSelections.1.resetHostSelections = dashboard.resetHostSelections ∧
    ∀ setter : Setter, (setter.apply dashboard).resetHostSelections =
      (setter.apply dashboard.resetHostSelections.1, dashboard.resetHostSelections.2) := by
  constructor
  · exact resetHostSelections_resetHostSelections dashboard
  · intro setter
    rw [setter.apply_eq_set, setter.apply_eq_set]
    exact resetHostSelections_set setter.key_ne_templating dashboard setter.value

inductive Edit where
  | set (setter : Setter)
  | resetHostSelections
deriving DecidableEq

namespace Edit

def apply (dashboard : Dashboard) : Edit → Dashboard
  | .set setter => setter.apply dashboard
  | .resetHostSelections => dashboard.resetHostSelections.1

def key? : Edit → Option String
  | .set setter => some setter.key
  | .resetHostSelections => none

end Edit

/-- The document after edits, the first of them made first. -/
def edited (dashboard : Dashboard) (edits : List Edit) : Dashboard :=
  edits.foldl Edit.apply dashboard

/-- The keys that edits set, in their order and as often as they are set. -/
def setKeys (edits : List Edit) : List String :=
  edits.filterMap Edit.key?

section

variable {dashboard : Dashboard} {edits : List Edit} {key : String}

theorem edited_append (dashboard : Dashboard) (edits later : List Edit) :
    dashboard.edited (edits ++ later) = (dashboard.edited edits).edited later :=
  List.foldl_append

theorem edited_concat (dashboard : Dashboard) (edits : List Edit) (edit : Edit) :
    dashboard.edited (edits ++ [edit]) = edit.apply (dashboard.edited edits) :=
  List.foldl_concat ..

theorem mem_of_mem_setKeys (member : key ∈ setKeys edits) :
    key ∈ ["title", "id", "uid", "version"] := by
  obtain ⟨edit, _, sets⟩ := List.mem_filterMap.mp member
  cases edit with
  | set setter =>
      obtain rfl := Option.some.inj sets
      exact setter.key_mem
  | resetHostSelections => cases sets

theorem setKeys_concat (edits : List Edit) (edit : Edit) :
    setKeys (edits ++ [edit]) = setKeys edits ++ edit.key?.toList := by
  rw [setKeys, List.filterMap_append, setKeys]
  cases named : edit.key? <;> simp [named]

theorem keys_apply (dashboard : Dashboard) (edit : Edit) :
    (edit.apply dashboard).keys =
      dashboard.keys ++ edit.key?.toList.filter (· ∉ dashboard.keys) := by
  cases edit with
  | set setter =>
      rw [Edit.apply, setter.apply_eq_set, keys_set]
      by_cases member : setter.key ∈ dashboard.keys <;> simp [Edit.key?, member]
  | resetHostSelections => simp [Edit.apply, Edit.key?, keys_resetHostSelections]

theorem nodup_keys_apply (edit : Edit) (distinct : dashboard.keys.Nodup) :
    (edit.apply dashboard).keys.Nodup := by
  cases edit with
  | set setter =>
      rw [Edit.apply, setter.apply_eq_set]
      exact Fields.nodup_keys_insert _ _ distinct
  | resetHostSelections =>
      rw [Edit.apply, keys_resetHostSelections]
      exact distinct

theorem get?_apply_of_ne {edit : Edit} (unset : edit.key? ≠ some key)
    (other : key ≠ "templating") :
    (edit.apply dashboard).get? key = dashboard.get? key := by
  cases edit with
  | set setter =>
      rw [Edit.apply, setter.apply_eq_set]
      apply get?_set_of_ne
      rintro rfl
      exact unset rfl
  | resetHostSelections => rw [Edit.apply, get?_resetHostSelections, if_neg other]

theorem nodup_keys_edited (edits : List Edit) (distinct : dashboard.keys.Nodup) :
    (dashboard.edited edits).keys.Nodup := by
  induction edits generalizing dashboard with
  | nil => exact distinct
  | cons edit edits ih => exact ih (nodup_keys_apply edit distinct)

theorem get?_edited_of_unset (unset : key ∉ setKeys edits) (other : key ≠ "templating") :
    (dashboard.edited edits).get? key = dashboard.get? key := by
  induction edits generalizing dashboard with
  | nil => rfl
  | cons edit edits ih =>
      have notHere : edit.key? ≠ some key := by
        intro here
        apply unset
        rw [setKeys, List.filterMap_cons_some here]
        exact List.mem_cons_self
      have notLater : key ∉ setKeys edits := by
        intro later
        obtain ⟨setting, member, sets⟩ := List.mem_filterMap.mp later
        exact unset (List.mem_filterMap.mpr ⟨setting, List.mem_cons_of_mem _ member, sets⟩)
      exact (ih notLater).trans (get?_apply_of_ne notHere other)

/-- Of the edits that set a key the last one counts. -/
theorem get?_edited_of_last {earlier later : List Edit} {setter : Setter}
    (last : setter.key ∉ setKeys later) :
    (dashboard.edited (earlier ++ .set setter :: later)).get? setter.key =
      some setter.value := by
  rw [edited_append]
  calc ((setter.apply (dashboard.edited earlier)).edited later).get? setter.key
      = (setter.apply (dashboard.edited earlier)).get? setter.key :=
        get?_edited_of_unset last setter.key_ne_templating
    _ = some setter.value := by rw [setter.apply_eq_set, get?_set_self]

theorem removeAll_singleton (key : String) (known : List String) :
    [key].removeAll known = if key ∈ known then [] else [key] := by
  by_cases member : key ∈ known <;> simp [List.removeAll, member]

theorem keys_edited (dashboard : Dashboard) (edits : List Edit) :
    (dashboard.edited edits).keys =
      dashboard.keys ++ (setKeys edits).eraseDups.filter (· ∉ dashboard.keys) := by
  induction edits using List.reverseRecOn with
  | nil => simp [edited, setKeys]
  | append_singleton edits edit ih =>
      rw [edited_concat, keys_apply, ih, setKeys_concat, List.eraseDups_append,
        List.filter_append, List.append_assoc]
      congr 2
      -- A key goes to the end now if it is neither an old one nor one that was set before.
      cases named : edit.key? with
      | none => simp [List.removeAll]
      | some key =>
          rw [Option.toList_some, removeAll_singleton]
          by_cases old : key ∈ dashboard.keys <;> by_cases before : key ∈ setKeys edits <;>
            simp [old, before, List.eraseDups_cons]

theorem get?_templating_edited (dashboard : Dashboard) (edits : List Edit) :
    (dashboard.edited edits).get? "templating" =
      if .resetHostSelections ∈ edits then (dashboard.get? "templating").map resetTemplating
      else dashboard.get? "templating" := by
  induction edits using List.reverseRecOn with
  | nil => rfl
  | append_singleton edits edit ih =>
      rw [edited_concat]
      cases edit with
      | set setter =>
          rw [Edit.apply, setter.apply_eq_set,
            get?_set_of_ne _ _ (Ne.symm setter.key_ne_templating), ih]
          simp
      | resetHostSelections =>
          have settled : resetTemplating ∘ resetTemplating = resetTemplating :=
            funext resetTemplating_resetTemplating
          rw [Edit.apply, get?_resetHostSelections, if_pos rfl, ih]
          by_cases before : Edit.resetHostSelections ∈ edits <;> simp [before, settled]

end

/-- What a run of edits makes of a document. -/
structure EditedBy (edits : List Edit) (before after : Dashboard) : Prop where
  distinct : before.keys.Nodup → after.keys.Nodup
  keys : after.keys =
    before.keys ++ (setKeys edits).eraseDups.filter (· ∉ before.keys)
  last : ∀ earlier setter later, edits = earlier ++ .set setter :: later →
    setter.key ∉ setKeys later → after.get? setter.key = some setter.value
  unset : ∀ key, key ∉ setKeys edits → key ≠ "templating" → after.get? key = before.get? key
  others : ∀ key, key ∉ ["title", "id", "uid", "version", "templating"] →
    after.get? key = before.get? key
  templating : after.get? "templating" =
    if .resetHostSelections ∈ edits then (before.get? "templating").map resetTemplating
    else before.get? "templating"
  lastTitle : ∀ earlier title later, edits = earlier ++ .set (.title title) :: later →
    "title" ∉ setKeys later → after.title = title
  sameTitle : ∀ title, "title" ∉ setKeys edits →
    before.get? "title" = some (.string title) → after.title = title
  noTitle : "title" ∉ setKeys edits → (∀ title, before.get? "title" ≠ some (.string title)) →
    after.title = ""

theorem editedBy_edited (dashboard : Dashboard) (edits : List Edit) :
    EditedBy edits dashboard (dashboard.edited edits) where
  distinct := nodup_keys_edited edits
  keys := keys_edited dashboard edits
  last := by
    rintro earlier setter later rfl isLast
    exact get?_edited_of_last isLast
  unset _ := get?_edited_of_unset
  others := by
    intro key other
    have unset : key ∉ setKeys edits := by
      intro member
      exact other (List.mem_append_left ["templating"] (mem_of_mem_setKeys member))
    apply get?_edited_of_unset unset
    rintro rfl
    exact other (by decide)
  templating := get?_templating_edited dashboard edits
  lastTitle := by
    rintro earlier title later rfl isLast
    have set : (dashboard.edited (earlier ++ .set (.title title) :: later)).get? "title" =
        some (.string title) :=
      @get?_edited_of_last dashboard earlier later (.title title) isLast
    exact title_of_get? set
  sameTitle := by
    intro title unset found
    apply title_of_get?
    rw [get?_edited_of_unset unset (by decide), found]
  noTitle := by
    intro unset untitled
    apply title_of_no_string
    intro title
    rw [get?_edited_of_unset unset (by decide)]
    exact untitled title

end DraftBoard.Dashboard
