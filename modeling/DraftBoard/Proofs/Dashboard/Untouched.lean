import DraftBoard.Proofs.Dashboard.Differences
import DraftBoard.Proofs.Json.Positions
import DraftBoard.Proofs.Transfer.Saving

/-!
# What a saving does not touch

`SaveOptions.Sets` are the positions of a document that a saving sets.  A number at any
other position is there in the saved document, too.
-/

namespace DraftBoard

open Json

/-- The positions that a saving sets: the entries that give a document its identity, and
the selections of host variables unless they are kept. -/
inductive SaveOptions.Sets (options : SaveOptions) (draft : Dashboard) : Position → Prop where
  | identity {name : String} {rest : Position} (member : name ∈ identityKeys) :
      Sets options draft (.key name :: rest)
  | selection {index : Nat} {var : Fields} {name : String} {rest : Position}
      (resets : options.keepSelections = false)
      (listed : draft.toJson.at? [.key "templating", .key "list", .index index] =
        some (.object var))
      (host : Dashboard.selectsHost var = true)
      (member : name ∈ Dashboard.selectionKeys var) :
      Sets options draft
        (.key "templating" :: .key "list" :: .index index :: .key name :: rest)

/-- A saving sets no other entry of a document as a whole. -/
theorem SaveOptions.not_sets_of_not_mem {options : SaveOptions} {draft : Dashboard}
    {name : String} (other : name ∉ identityKeys) : ¬ options.Sets draft [.key name] := by
  intro sets
  cases sets with
  | identity member => exact other member

namespace Dashboard

variable {position : Position} {n : Number}

theorem get?_resetVariable {var : Fields} {name : String} (other : name ∉ selectionKeys var) :
    Fields.get? (resetVariable var) name = Fields.get? var name := by
  unfold selectionKeys at other
  unfold resetVariable
  by_cases offers : flagged var "includeAll" = true
  · rw [if_pos offers, List.mem_cons, List.mem_singleton, not_or] at other
    rw [if_pos offers, Fields.get?_insert_of_ne _ _ other.2,
      Fields.get?_insert_of_ne _ _ other.1]
  · rw [if_neg offers, List.mem_singleton] at other
    rw [if_neg offers, Fields.get?_insert_of_ne _ _ other]

/-- A variable that is put back keeps its numbers outside its selection. -/
theorem at?_resetElement {element : Json}
    (untouched : ∀ var name rest, element = .object var → selectsHost var = true →
      name ∈ selectionKeys var → position ≠ .key name :: rest)
    (found : element.at? position = some (.number n)) :
    (resetElement element).at? position = some (.number n) := by
  cases element with
  | object var =>
      rw [resetElement]
      by_cases host : selectsHost var = true
      · rw [if_pos host]
        obtain _ | ⟨⟨name⟩ | ⟨index⟩, rest⟩ := position
        · cases found
        · have other : name ∉ selectionKeys var := fun member =>
            untouched var name rest rfl host member rfl
          rw [Json.at?] at found ⊢
          rw [get?_resetVariable other]
          exact found
        · cases found
      · rw [if_neg host]
        exact found
  | _ => exact found

theorem at?_object {fields : Fields} {name : String} {rest : Position} :
    (Json.object fields).at? (.key name :: rest) =
      (Fields.get? fields name).bind (at? · rest) := by
  rw [Json.at?]

theorem at?_map_resetElement {elements : List Json}
    (untouched : ∀ index var name rest, elements[index]? = some (.object var) →
      selectsHost var = true → name ∈ selectionKeys var →
      position ≠ .index index :: .key name :: rest)
    (found : (Json.array elements).at? position = some (.number n)) :
    (Json.array (elements.map resetElement)).at? position = some (.number n) := by
  match position with
  | [] => cases found
  | .key name :: rest => cases found
  | .index index :: rest =>
      obtain ⟨element, isElement, found⟩ := Option.bind_eq_some_iff.mp found
      refine Option.bind_eq_some_iff.mpr ⟨resetElement element, ?_, at?_resetElement ?_ found⟩
      · rw [List.getElem?_map, isElement]
        rfl
      · rintro var name others rfl host member rfl
        exact untouched index var name others isElement host member rfl

theorem at?_resetTemplating {templating : Json}
    (untouched : ∀ index var name rest,
      templating.at? [.key "list", .index index] = some (.object var) →
      selectsHost var = true → name ∈ selectionKeys var →
      position ≠ .key "list" :: .index index :: .key name :: rest)
    (found : templating.at? position = some (.number n)) :
    (resetTemplating templating).at? position = some (.number n) := by
  cases templating with
  | object entries =>
      rw [resetTemplating]
      split
      · next elements listed =>
          obtain _ | ⟨⟨name⟩ | ⟨index⟩, rest⟩ := position
          · cases found
          · rw [at?_object] at found ⊢
            by_cases here : name = "list"
            · subst name
              rw [listed, Option.bind_some] at found
              rw [Fields.get?_insert_self, Option.bind_some]
              apply at?_map_resetElement _ found
              rintro index var name others isElement host member rfl
              refine untouched index var name others ?_ host member rfl
              rw [at?_object, listed, Option.bind_some, Json.at?, isElement,
                Option.bind_some, Json.at?]
            · rw [Fields.get?_insert_of_ne _ _ here]
              exact found
          · cases found
      · exact found
  | _ => exact found

end Dashboard

/-- A number at a position that a saving does not set stays there. -/
theorem SaveOptions.at?_documentFor {options : SaveOptions} {draft : Dashboard}
    {position : Position} {n : Number} (version : Int)
    (untouched : ¬ options.Sets draft position)
    (found : draft.toJson.at? position = some (.number n)) :
    (options.documentFor draft version).toJson.at? position = some (.number n) := by
  match position with
  | [] => cases found
  | .index index :: rest => cases found
  | .key name :: rest =>
      have elsewhere : name ∉ identityKeys := fun member => untouched (.identity member)
      rw [Dashboard.toJson, Dashboard.at?_object] at found ⊢
      have settled : Fields.get? (options.documentFor draft version).fields name =
          (options.settled draft).get? name :=
        Dashboard.get?_identify_of_not_mem _ _ _ elsewhere
      rw [settled, get?_settled]
      by_cases here : name = "templating"
      · subst name
        rw [if_pos rfl, templatingFor]
        cases kept : options.keepSelections with
        | true => exact found
        | false =>
            obtain ⟨templating, isTemplating, found⟩ := Option.bind_eq_some_iff.mp found
            have value : draft.get? "templating" = some templating := isTemplating
            rw [if_neg Bool.false_ne_true, value, Option.map_some, Option.bind_some]
            apply Dashboard.at?_resetTemplating _ found
            rintro index var name others listed host member rfl
            refine untouched (.selection kept ?_ host member)
            rw [Dashboard.toJson, Dashboard.at?_object, isTemplating, Option.bind_some, listed]
      · rw [if_neg here]
        exact found

end DraftBoard
