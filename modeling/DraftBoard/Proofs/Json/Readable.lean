import DraftBoard.Json.Reader
import DraftBoard.Proofs.Json.Fields
import DraftBoard.Proofs.Json.Tokens

/-!
# Values that can be read back

`Readable depth` is what a reader that allows `depth` levels of nesting gives back
exactly: integers of 64 bits and objects without repeated keys.  Its text begins with
neither a blank nor a closing bracket, in every layout.
-/

namespace DraftBoard.Json

/-- A value that is read back from its text, with levels of nesting that suffice. -/
inductive Readable : Nat → Json → Prop where
  | null {depth : Nat} : Readable depth .null
  | bool {depth : Nat} (value : Bool) : Readable depth (.bool value)
  | integer {depth : Nat} {value : Int} (fits : Fits value) : Readable depth (.ofInt value)
  | string {depth : Nat} (text : String) : Readable depth (.string text)
  | array {depth : Nat} {items : List Json} (readable : ∀ item ∈ items, Readable depth item) :
      Readable (depth + 1) (.array items)
  | object {depth : Nat} {fields : Fields} (distinct : fields.keys.Nodup)
      (readable : ∀ entry ∈ fields, Readable depth entry.2) :
      Readable (depth + 1) (.object fields)

theorem Readable.mono {depth deeper : Nat} {value : Json} (readable : Readable depth value)
    (le : depth ≤ deeper) : Readable deeper value := by
  induction readable generalizing deeper with
  | null => exact .null
  | bool value => exact .bool value
  | integer fits => exact .integer fits
  | string text => exact .string text
  | array _ ih =>
      obtain ⟨below, rfl⟩ := Nat.exists_eq_succ_of_ne_zero (by omega : deeper ≠ 0)
      exact .array fun item member => ih item member (Nat.le_of_succ_le_succ le)
  | object distinct _ ih =>
      obtain ⟨below, rfl⟩ := Nat.exists_eq_succ_of_ne_zero (by omega : deeper ≠ 0)
      exact .object distinct fun entry member => ih entry member (Nat.le_of_succ_le_succ le)

theorem Readable.insert {depth : Nat} {fields : Fields} {value : Json}
    (object : Readable (depth + 1) (.object fields)) (key : String)
    (readable : Readable depth value) :
    Readable (depth + 1) (.object (fields.insert key value)) := by
  cases object with
  | object distinct others =>
      refine .object (Fields.nodup_keys_insert key value distinct) ?_
      intro entry member
      rcases Fields.mem_insert member with rfl | other
      · exact readable
      · exact others entry other

/-- A layout that sets entries apart by blanks, commas and colons alone. -/
structure Layout.Sound (layout : Layout) : Prop where
  opening : ∀ level, (layout.opening level).all isBlank = true
  between : ∀ level, ∃ blanks, layout.between level = ',' :: blanks ∧
    blanks.all isBlank = true
  closing : ∀ level, (layout.closing level).all isBlank = true
  colon : ∃ blanks, layout.colon = ':' :: blanks ∧ blanks.all isBlank = true

theorem Layout.compact_sound : Layout.compact.Sound where
  opening _ := rfl
  between _ := ⟨[], rfl, rfl⟩
  closing _ := rfl
  colon := ⟨[], rfl, rfl⟩

theorem newLine_blank (level : Nat) : (newLine level).all isBlank = true := by
  have blank : isBlank ' ' = true := rfl
  have lineBreak : isBlank '\n' = true := rfl
  simp [newLine, blank, lineBreak]

theorem Layout.pretty_sound : Layout.pretty.Sound where
  opening level := newLine_blank (level + 1)
  between level := ⟨newLine (level + 1), rfl, newLine_blank (level + 1)⟩
  closing level := newLine_blank level
  colon := ⟨[' '], rfl, rfl⟩

/-- A text that begins with neither a blank nor a closing bracket. -/
def Begins (text : List Char) : Prop :=
  ∃ c rest, text = c :: rest ∧ isBlank c = false ∧ c ≠ ']'

theorem toDigits_begin (n : Nat) :
    ∃ c digits, Nat.toDigits 10 n = c :: digits ∧ c.isDigit = true := by
  cases written : Nat.toDigits 10 n with
  | nil => exact absurd written Nat.toDigits_ne_nil
  | cons c digits =>
      have member : c ∈ Nat.toDigits 10 n := by
        rw [written]
        exact List.mem_cons_self
      exact ⟨c, digits, rfl, Nat.isDigit_of_mem_toDigits (by decide) (by decide) member⟩

theorem not_isBlank_of_isDigit {c : Char} (digit : c.isDigit = true) :
    isBlank c = false ∧ c ≠ ']' := by
  constructor
  · cases blank : isBlank c with
    | false => rfl
    | true =>
        simp only [isBlank, Bool.or_eq_true, beq_iff_eq] at blank
        rcases blank with ((rfl | rfl) | rfl) | rfl <;> exact absurd digit (by decide)
  · rintro rfl
    exact absurd digit (by decide)

theorem Readable.begins {depth : Nat} {value : Json} (readable : Readable depth value)
    (layout : Layout) (level : Nat) (rest : List Char) :
    Begins (write layout level value rest) := by
  cases readable with
  | null => exact ⟨'n', _, rfl, rfl, by decide⟩
  | bool value => cases value <;> exact ⟨_, _, rfl, rfl, by decide⟩
  | string text => exact ⟨'"', _, rfl, rfl, by decide⟩
  | @integer _ value _ =>
      cases value with
      | ofNat n =>
          obtain ⟨c, digits, written, digit⟩ := toDigits_begin n
          refine ⟨c, digits ++ rest, ?_, not_isBlank_of_isDigit digit⟩
          rw [ofInt, write, Number.chars, written, List.cons_append]
      | negSucc n => exact ⟨'-', _, rfl, rfl, by decide⟩
  | @array _ items _ => cases items <;> exact ⟨'[', _, rfl, rfl, by decide⟩
  | @object _ fields _ _ => cases fields <;> exact ⟨'{', _, rfl, rfl, by decide⟩

/-- What a reader gives back of a value, whatever follows that ends a number. -/
def ReadsBack {α : Type} (reader : Reader α) (written : List Char → List Char)
    (result : α) : Prop :=
  ∀ rest, EndsNumber rest → reader (written rest) = .ok (result, rest)

theorem endsNumber_of_blanks {blanks : List Char} (blank : blanks.all isBlank = true)
    {text : List Char} (ends : EndsNumber text) : EndsNumber (blanks ++ text) := by
  cases blanks with
  | nil => exact ends
  | cons c blanks =>
      rw [List.all_cons, Bool.and_eq_true] at blank
      apply endsNumber_cons
      have isOne := blank.1
      simp only [isBlank, Bool.or_eq_true, beq_iff_eq] at isOne
      rcases isOne with ((rfl | rfl) | rfl) | rfl <;> decide

theorem expectChar_append {blanks : List Char} (blank : blanks.all isBlank = true)
    {c : Char} (visible : isBlank c = false) (rest : List Char) :
    expectChar c (blanks ++ c :: rest) = .ok rest := by
  simp [expectChar, skipBlank_append blank, skipBlank_cons visible]

end DraftBoard.Json
