import DraftBoard.Json.Shape
import DraftBoard.Proofs.Json.Passing

/-!
# Entries that are given

An object is looked through entry by entry, with its values passed over.  A key is given a value
by an object that has the key once, and none by an object that does not have it.
-/

namespace DraftBoard.Json

/-- The keys of an object, each with the text that its value starts at. -/
abbrev Starts := List (String × List Char)

/-- Passes over the value of an entry and keeps where it starts. -/
def startEntry (starts : Starts) (key : String) (text : List Char) :
    Except Problem (Starts × List Char) := do
  let start ← expectChar ':' text
  .ok (starts ++ [(key, start)], ← skipValue start)

theorem startEntry_iff {starts after : Starts} {key : String} {text rest : List Char} :
    startEntry starts key text = .ok (after, rest) ↔
      ∃ start, expectChar ':' text = .ok start ∧ skipValue start = .ok rest ∧
        after = starts ++ [(key, start)] := by
  constructor
  · intro read
    obtain ⟨start, colon, read⟩ := bind_eq_ok.mp read
    obtain ⟨left, skipped, same⟩ := bind_eq_ok.mp read
    cases same
    exact ⟨start, colon, skipped, rfl⟩
  · rintro ⟨start, colon, skipped, rfl⟩
    exact bind_eq_ok.mpr ⟨_, colon, bind_eq_ok.mpr ⟨_, skipped, rfl⟩⟩

def expectStarts (text : List Char) : Except Problem (Starts × List Char) :=
  match skipBlank text with
  | '{' :: rest => keyed .keep startEntry [] .ok rest
  | other => .error (refuse .map other)

/-- The entries of the object that a text holds.  Their values follow the grammar; they may be
deeper than a value that is read, and their numbers out of range. -/
def parseStarts (text : String) : Except Problem Starts := readAll expectStarts text

/-- The value under a key that an object has once, or nothing under one that it does not
have. -/
inductive Given (depth : Nat) (starts : Starts) (key : String) : Option Json → Prop where
  | missing (absent : starts.filter (·.1 = key) = []) : Given depth starts key none
  | once {start rest : List Char} {found : Json}
      (single : starts.filter (·.1 = key) = [(key, start)])
      (read : value .keep depth start = .ok (found, rest)) : Given depth starts key (some found)

section

variable {depth : Nat} {starts final : Starts} {key : String} {start : List Char}
variable {found? other? : Option Json}

theorem Given.unique (given : Given depth starts key found?)
    (other : Given depth starts key other?) : found? = other? := by
  cases given with
  | missing absent =>
      cases other with
      | missing _ => rfl
      | once single _ =>
          rw [absent] at single
          cases single
  | once single read =>
      cases other with
      | missing absent =>
          rw [absent] at single
          cases single
      | once singleToo readToo =>
          rw [single] at singleToo
          cases singleToo
          rw [read] at readToo
          cases readToo
          rfl

theorem Given.append_other {name : String} (given : Given depth starts key found?)
    (different : name ≠ key) : Given depth (starts ++ [(name, start)]) key found? := by
  have same : (starts ++ [(name, start)]).filter (·.1 = key) = starts.filter (·.1 = key) := by
    simp [different]
  cases given with
  | missing absent => exact .missing (same.trans absent)
  | once single read => exact .once (same.trans single) read

theorem Given.append_first {rest : List Char} {found : Json}
    (given : Given depth starts key none)
    (read : value .keep depth start = .ok (found, rest)) :
    Given depth (starts ++ [(key, start)]) key (some found) := by
  cases given with
  | missing absent => exact .once (by simp [absent]) read

/-- A key that is given and comes next has not come before. -/
theorem Given.of_next (given : Given depth final key found?)
    (comes : starts ++ [(key, start)] <+: final) :
    Given depth starts key none ∧
      ∃ found rest, found? = some found ∧ value .keep depth start = .ok (found, rest) := by
  obtain ⟨more, rfl⟩ := comes
  cases given with
  | missing absent => simp at absent
  | @once begins rest found single read =>
      have before : starts.filter (·.1 = key) = [] ∧ start = begins := by
        cases sofar : starts.filter (·.1 = key) with
        | nil =>
            simp [sofar] at single
            exact ⟨rfl, single.1⟩
        | cons entry entries => simp [sofar] at single
      obtain ⟨absent, rfl⟩ := before
      exact ⟨.missing absent, found, rest, rfl, read⟩

end

end DraftBoard.Json
