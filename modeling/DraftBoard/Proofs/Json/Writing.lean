import DraftBoard.Json.Printer

/-!
# Writing in front of a rest

A writer never looks at the rest that it writes in front of.  So the text of an
object whose entry is set is the same around the value of that entry, whatever
the value.
-/

namespace DraftBoard.Json

variable {layout : Layout}

theorem writeString_append (text : String) (left right : List Char) :
    writeString text (left ++ right) = writeString text left ++ right := by
  have escaped : ∀ chars : List Char,
      chars.foldr (fun c rest => escapeChar c ++ rest) ('"' :: (left ++ right)) =
        chars.foldr (fun c rest => escapeChar c ++ rest) ('"' :: left) ++ right := by
    intro chars
    induction chars with
    | nil => rfl
    | cons c chars ih => simp [ih]
  simp [writeString, escaped]

mutual

theorem write_append (layout : Layout) (level : Nat) (value : Json)
    (left right : List Char) :
    write layout level value (left ++ right) = write layout level value left ++ right := by
  match value with
  | .null => rfl
  | .bool true => rfl
  | .bool false => rfl
  | .number n => simp [write]
  | .string text => exact writeString_append text left right
  | .array [] => rfl
  | .array (item :: items) =>
      have ending : layout.closing level ++ ']' :: (left ++ right) =
          (layout.closing level ++ ']' :: left) ++ right := by simp
      rw [write, write, ending, writeItems_append, write_append]
      simp
  | .object [] => rfl
  | .object ((key, value) :: fields) =>
      have ending : layout.closing level ++ '}' :: (left ++ right) =
          (layout.closing level ++ '}' :: left) ++ right := by simp
      rw [write, write, ending, writeFields_append, write_append, ← List.append_assoc,
        writeString_append]
      simp

theorem writeItems_append (layout : Layout) (level : Nat) (items : List Json)
    (left right : List Char) :
    writeItems layout level items (left ++ right) =
      writeItems layout level items left ++ right := by
  match items with
  | [] => rfl
  | item :: items =>
      rw [writeItems, writeItems, writeItems_append, write_append]
      simp

theorem writeFields_append (layout : Layout) (level : Nat) (fields : List (String × Json))
    (left right : List Char) :
    writeFields layout level fields (left ++ right) =
      writeFields layout level fields left ++ right := by
  match fields with
  | [] => rfl
  | (key, value) :: fields =>
      rw [writeFields, writeFields, writeFields_append, write_append, ← List.append_assoc,
        writeString_append]
      simp

end

theorem write_eq_append (layout : Layout) (level : Nat) (value : Json) (rest : List Char) :
    write layout level value rest = write layout level value [] ++ rest := by
  rw [← write_append, List.nil_append]

theorem length_le_write (layout : Layout) (level : Nat) (value : Json) (rest : List Char) :
    rest.length ≤ (write layout level value rest).length := by
  rw [write_eq_append, List.length_append]
  omega

theorem length_le_writeString (text : String) (rest : List Char) :
    rest.length ≤ (writeString text rest).length := by
  have split := writeString_append text [] rest
  rw [List.nil_append] at split
  rw [split, List.length_append]
  omega

private theorem writeFields_insert (layout : Layout) (level : Nat) (key : String)
    (fields : Fields) (rest : List Char) :
    ∃ before behind, ∀ value,
      writeFields layout level (fields.insert key value) rest =
        before ++ (write layout (level + 1) value [] ++ behind) := by
  induction fields with
  | nil =>
      refine ⟨layout.between level ++ writeString key layout.colon, rest, ?_⟩
      intro value
      rw [Fields.insert, writeFields, writeFields, write_eq_append, writeString_append,
        List.append_assoc]
  | cons entry fields ih =>
      obtain ⟨name, old⟩ := entry
      by_cases same : name = key
      · refine ⟨layout.between level ++ writeString name layout.colon,
          writeFields layout level fields rest, ?_⟩
        intro value
        rw [Fields.insert, if_pos same, writeFields, write_eq_append, writeString_append,
          List.append_assoc]
      · obtain ⟨before, behind, inner⟩ := ih
        refine ⟨layout.between level ++ writeString name
          (layout.colon ++ write layout (level + 1) old before), behind, ?_⟩
        intro value
        rw [Fields.insert, if_neg same, writeFields, inner, write_append,
          ← List.append_assoc layout.colon, writeString_append, List.append_assoc]

/-- Setting an entry changes the text of an object at one place only. -/
theorem write_insert (layout : Layout) (level : Nat) (key : String) (fields : Fields)
    (rest : List Char) :
    ∃ before behind, ∀ value,
      write layout level (.object (fields.insert key value)) rest =
        before ++ (write layout (level + 1) value [] ++ behind) := by
  cases fields with
  | nil =>
      refine ⟨'{' :: (layout.opening level ++ writeString key layout.colon),
        layout.closing level ++ '}' :: rest, ?_⟩
      intro value
      rw [Fields.insert, write, writeFields, write_eq_append, writeString_append]
      simp
  | cons entry fields =>
      obtain ⟨name, old⟩ := entry
      by_cases same : name = key
      · refine ⟨'{' :: (layout.opening level ++ writeString name layout.colon),
          writeFields layout level fields (layout.closing level ++ '}' :: rest), ?_⟩
        intro value
        rw [Fields.insert, if_pos same, write, write_eq_append, writeString_append]
        simp
      · obtain ⟨before, behind, inner⟩ :=
          writeFields_insert layout level key fields (layout.closing level ++ '}' :: rest)
        refine ⟨'{' :: (layout.opening level ++ writeString name
          (layout.colon ++ write layout (level + 1) old before)), behind, ?_⟩
        intro value
        rw [Fields.insert, if_neg same, write, inner, write_append,
          ← List.append_assoc layout.colon, writeString_append]
        simp

mutual

/-- How deep a value is nested does not show in a text without blanks. -/
theorem write_compact_level (level other : Nat) (value : Json) (rest : List Char) :
    write .compact level value rest = write .compact other value rest := by
  match value with
  | .null => rfl
  | .bool true => rfl
  | .bool false => rfl
  | .number n => rfl
  | .string text => rfl
  | .array [] => rfl
  | .array (item :: items) =>
      have opened : Layout.compact.opening level = Layout.compact.opening other := rfl
      have closed : Layout.compact.closing level = Layout.compact.closing other := rfl
      rw [write, write, opened, closed, writeItems_compact_level level other,
        write_compact_level (level + 1) (other + 1)]
  | .object [] => rfl
  | .object ((key, value) :: fields) =>
      have opened : Layout.compact.opening level = Layout.compact.opening other := rfl
      have closed : Layout.compact.closing level = Layout.compact.closing other := rfl
      rw [write, write, opened, closed, writeFields_compact_level level other,
        write_compact_level (level + 1) (other + 1)]

theorem writeItems_compact_level (level other : Nat) (items : List Json)
    (rest : List Char) :
    writeItems .compact level items rest = writeItems .compact other items rest := by
  match items with
  | [] => rfl
  | item :: items =>
      have between : Layout.compact.between level = Layout.compact.between other := rfl
      rw [writeItems, writeItems, between, writeItems_compact_level level other,
        write_compact_level (level + 1) (other + 1)]

theorem writeFields_compact_level (level other : Nat) (fields : List (String × Json))
    (rest : List Char) :
    writeFields .compact level fields rest = writeFields .compact other fields rest := by
  match fields with
  | [] => rfl
  | (key, value) :: fields =>
      have between : Layout.compact.between level = Layout.compact.between other := rfl
      rw [writeFields, writeFields, between, writeFields_compact_level level other,
        write_compact_level (level + 1) (other + 1)]

end

end DraftBoard.Json
