import DraftBoard.Proofs.Json.Fields
import DraftBoard.Proofs.Json.Source

/-!
# Positions

A position leads from the top of a document into it.  What a source comes to has at every
position what stands there in the source, if no key stands twice in an object.
-/

namespace DraftBoard.Json

/-- A step from a container into it. -/
inductive Step where
  | key (name : String)
  | index (place : Nat)
deriving DecidableEq, Repr

/-- A place in a document: the steps to it from the top. -/
abbrev Position := List Step

/-- The value at a position. -/
def at? : Json → Position → Option Json
  | value, [] => some value
  | .object fields, .key name :: rest => (Fields.get? fields name).bind (at? · rest)
  | .array items, .index place :: rest => items[place]?.bind (at? · rest)
  | _, _ => none

namespace Source

/-- The source at a position. -/
def at? : Source → Position → Option Source
  | source, [] => some source
  | .object entries, .key name :: rest => (entries.lookup name).bind (at? · rest)
  | .array items, .index place :: rest => items[place]?.bind (at? · rest)
  | _, _ => none

mutual

/-- Whether no object has a key twice. -/
def distinct : Source → Bool
  | .array items => itemsDistinct items
  | .object entries => decide (entries.map (·.1)).Nodup && fieldsDistinct entries
  | _ => true

/-- The same for each item. -/
def itemsDistinct : List Source → Bool
  | [] => true
  | item :: items => distinct item && itemsDistinct items

/-- The same for the value of each entry. -/
def fieldsDistinct : List (String × Source) → Bool
  | [] => true
  | (_, source) :: entries => distinct source && fieldsDistinct entries

end

section

variable {key : String} {source : Source} {entries : List (String × Source)}
variable {base fields : Fields}

theorem itemsDistinct_getElem? {items : List Source} (distincts : itemsDistinct items = true)
    {place : Nat} (found : items[place]? = some source) : source.distinct = true := by
  induction items generalizing place with
  | nil => cases found
  | cons item items ih =>
      rw [itemsDistinct, Bool.and_eq_true] at distincts
      cases place with
      | zero =>
          obtain rfl := Option.some.inj found
          exact distincts.1
      | succ place => exact ih distincts.2 found

theorem fieldsDistinct_lookup (distincts : fieldsDistinct entries = true)
    (found : entries.lookup key = some source) : source.distinct = true := by
  induction entries with
  | nil => cases found
  | cons entry entries ih =>
      obtain ⟨name, first⟩ := entry
      rw [fieldsDistinct, Bool.and_eq_true] at distincts
      rw [List.lookup_cons] at found
      split at found
      · obtain rfl := Option.some.inj found
        exact distincts.1
      · exact ih distincts.2 found

theorem itemValues?_getElem? {items : List Source} {values : List Json}
    (comes : itemValues? items = some values) {place : Nat}
    (found : items[place]? = some source) :
    ∃ value, values[place]? = some value ∧ ComesTo value source := by
  induction items generalizing values place with
  | nil => cases found
  | cons item items ih =>
      rw [itemValues?] at comes
      split at comes
      · next first others isFirst areOthers =>
          obtain rfl := Option.some.inj comes
          cases place with
          | zero =>
              obtain rfl := Option.some.inj found
              exact ⟨first, rfl, isFirst⟩
          | succ place => exact ih areOthers found
      · cases comes

/-- Entries leave the values of other keys alone. -/
theorem get?_fieldValues?_of_not_mem (absent : key ∉ entries.map (·.1))
    (comes : fieldValues? entries base = some fields) : fields.get? key = base.get? key := by
  induction entries generalizing base with
  | nil =>
      obtain rfl := Option.some.inj comes
      rfl
  | cons entry entries ih =>
      obtain ⟨name, first⟩ := entry
      rw [List.map_cons, List.mem_cons, not_or] at absent
      rw [fieldValues?] at comes
      split at comes
      · rw [ih absent.2 comes, Fields.get?_insert_of_ne _ _ absent.1]
      · cases comes

/-- Where no key stands twice the value under a key is that of its entry. -/
theorem get?_fieldValues? (distincts : (entries.map (·.1)).Nodup)
    (comes : fieldValues? entries base = some fields)
    (found : entries.lookup key = some source) :
    ∃ value, fields.get? key = some value ∧ ComesTo value source := by
  induction entries generalizing base with
  | nil => cases found
  | cons entry entries ih =>
      obtain ⟨name, first⟩ := entry
      rw [List.map_cons, List.nodup_cons] at distincts
      rw [fieldValues?] at comes
      rw [List.lookup_cons] at found
      split at comes
      · next value isValue =>
          split at found
          · next same =>
              obtain rfl := Option.some.inj found
              obtain rfl := eq_of_beq same
              refine ⟨value, ?_, isValue⟩
              rw [get?_fieldValues?_of_not_mem distincts.1 comes, Fields.get?_insert_self]
          · exact ih distincts.2 comes found
      · cases comes

end

/-- What is at a position of a source comes to what is there in its value. -/
theorem ComesTo.at? {value : Json} {source place : Source} {position : Position}
    (comes : ComesTo value source) (distincts : source.distinct = true)
    (found : source.at? position = some place) :
    ∃ there, value.at? position = some there ∧ ComesTo there place := by
  induction position generalizing value source with
  | nil =>
      rw [Source.at?] at found
      obtain rfl := Option.some.inj found
      exact ⟨value, by rw [Json.at?], comes⟩
  | cons step position ih =>
      cases source with
      | array items =>
          cases step with
          | key name => cases found
          | index index =>
              obtain ⟨item, isItem, found⟩ := Option.bind_eq_some_iff.mp found
              obtain ⟨values, areValues, rfl⟩ := Option.map_eq_some_iff.mp comes
              obtain ⟨one, isOne, oneComes⟩ := itemValues?_getElem? areValues isItem
              obtain ⟨there, isThere, thereComes⟩ :=
                ih oneComes (itemsDistinct_getElem? distincts isItem) found
              exact ⟨there, Option.bind_eq_some_iff.mpr ⟨one, isOne, isThere⟩, thereComes⟩
      | object entries =>
          cases step with
          | index index => cases found
          | key name =>
              obtain ⟨item, isItem, found⟩ := Option.bind_eq_some_iff.mp found
              obtain ⟨fields, areFields, rfl⟩ := Option.map_eq_some_iff.mp comes
              rw [distinct, Bool.and_eq_true, decide_eq_true_eq] at distincts
              obtain ⟨one, isOne, oneComes⟩ := get?_fieldValues? distincts.1 areFields isItem
              obtain ⟨there, isThere, thereComes⟩ :=
                ih oneComes (fieldsDistinct_lookup distincts.2 isItem) found
              exact ⟨there, Option.bind_eq_some_iff.mpr ⟨one, isOne, isThere⟩, thereComes⟩
      | null => cases step <;> cases found
      | bool value => cases step <;> cases found
      | number literal => cases step <;> cases found
      | string text => cases step <;> cases found

end Source

end DraftBoard.Json
