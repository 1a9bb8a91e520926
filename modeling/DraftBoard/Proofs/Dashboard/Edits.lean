import DraftBoard.Dashboard.Basic
import DraftBoard.Proofs.Json.Fields

/-!
# Setting entries of a document

Each of the four setters sets one top-level entry.  The laws below are those of
entries, read for whole documents.
-/

namespace DraftBoard.Dashboard

open Json

variable {dashboard : Dashboard} {key other : String} {value : Json}

@[simp] theorem get?_set_self (dashboard : Dashboard) (key : String) (value : Json) :
    (dashboard.set key value).get? key = some value :=
  Fields.get?_insert_self key value dashboard.fields

theorem get?_set_of_ne (dashboard : Dashboard) (value : Json)
    (different : other ≠ key) :
    (dashboard.set key value).get? other = dashboard.get? other :=
  Fields.get?_insert_of_ne value dashboard.fields different

theorem get?_set (dashboard : Dashboard) (key other : String) (value : Json) :
    (dashboard.set key value).get? other =
      if other = key then some value else dashboard.get? other :=
  Fields.get?_insert key other value dashboard.fields

theorem mem_keys_iff :
    key ∈ dashboard.keys ↔ ∃ value, dashboard.get? key = some value :=
  Fields.mem_keys_iff

theorem mem_keys_of_get? (found : dashboard.get? key = some value) :
    key ∈ dashboard.keys :=
  mem_keys_iff.mpr ⟨value, found⟩

theorem keys_set (dashboard : Dashboard) (key : String) (value : Json) :
    (dashboard.set key value).keys =
      if key ∈ dashboard.keys then dashboard.keys else dashboard.keys ++ [key] :=
  Fields.keys_insert key value dashboard.fields

theorem keys_set_of_mem (value : Json) (member : key ∈ dashboard.keys) :
    (dashboard.set key value).keys = dashboard.keys :=
  Fields.keys_insert_of_mem value member

/-- Of two values set under one key the last one stays. -/
@[simp] theorem set_set_self (dashboard : Dashboard) (key : String)
    (first second : Json) :
    (dashboard.set key first).set key second = dashboard.set key second := by
  simp [set]

/-- Setting an entry to the value that it has changes nothing. -/
theorem set_eq_self (present : dashboard.get? key = some value) :
    dashboard.set key value = dashboard := by
  cases dashboard with
  | mk fields => exact congrArg Dashboard.mk (Fields.insert_eq_self present)

theorem set_comm_of_mem (first second : Json) (different : key ≠ other)
    (member : key ∈ dashboard.keys) :
    (dashboard.set other second).set key first =
      (dashboard.set key first).set other second :=
  congrArg Dashboard.mk (Fields.insert_comm_of_mem first second different member)

/-- Keys that are set one after another: those that are missing go to the end in
the order in which they are set. -/
theorem keys_foldl_set (entries : List (String × Json)) (dashboard : Dashboard)
    (distinct : (entries.map (·.1)).Nodup) :
    (entries.foldl (fun edited entry => edited.set entry.1 entry.2) dashboard).keys =
      dashboard.keys ++ (entries.map (·.1)).filter (· ∉ dashboard.keys) := by
  induction entries generalizing dashboard with
  | nil => simp
  | cons entry entries ih =>
      obtain ⟨key, value⟩ := entry
      simp only [List.map_cons, List.nodup_cons] at distinct
      obtain ⟨notLater, distinct⟩ := distinct
      rw [List.foldl_cons, ih (dashboard.set key value) distinct, keys_set]
      by_cases member : key ∈ dashboard.keys
      · simp [member]
      · have sameMissing :
            (entries.map (·.1)).filter (· ∉ dashboard.keys ++ [key]) =
              (entries.map (·.1)).filter (· ∉ dashboard.keys) := by
          apply List.filter_congr
          intro later laterMember
          have different : later ≠ key := by
            rintro rfl
            exact notLater laterMember
          simp [different]
        simp only [member, if_false, sameMissing, List.map_cons,
          List.filter_cons, not_false_eq_true, decide_true, if_true,
          List.append_assoc, List.singleton_append]

@[simp] theorem title_setTitle (dashboard : Dashboard) (title : String) :
    (dashboard.setTitle title).title = title := by
  simp [setTitle, Dashboard.title, Json.string?]

theorem title_of_get? {title : String}
    (found : dashboard.get? "title" = some (.string title)) :
    dashboard.title = title := by
  simp [Dashboard.title, found, Json.string?]

theorem title_of_no_string
    (untitled : ∀ title, dashboard.get? "title" ≠ some (.string title)) :
    dashboard.title = "" := by
  unfold Dashboard.title
  cases found : dashboard.get? "title" with
  | none => rfl
  | some value =>
      cases value with
      | string title => exact absurd found (untitled title)
      | _ => rfl

end DraftBoard.Dashboard
