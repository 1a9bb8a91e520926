import DraftBoard.Proofs.Json.Containers
import DraftBoard.Proofs.Json.RoundTrip
import DraftBoard.Proofs.Json.Positions

/-!
# Reading sources back

Every value is read back as the source that it is written as, whatever its numbers are.
The proof goes over the value and over the lists in it at once.
-/

namespace DraftBoard.Json

mutual

/-- The source that a value is written as. -/
def written : Json → Source
  | .null => .null
  | .bool value => .bool value
  | .number n => .number n.literal
  | .string text => .string text
  | .array items => .array (writtenItems items)
  | .object fields => .object (writtenFields fields)

/-- The same for items. -/
def writtenItems : List Json → List Source
  | [] => []
  | item :: items => written item :: writtenItems items

/-- The same for entries. -/
def writtenFields : Fields → List (String × Source)
  | [] => []
  | (key, value) :: fields => (key, written value) :: writtenFields fields

end

theorem writtenItems_eq (items : List Json) : writtenItems items = items.map written := by
  induction items with
  | nil => rfl
  | cons item items ih => rw [writtenItems, ih, List.map_cons]

theorem lookup_writtenFields {fields : Fields} {key : String} {value : Json}
    (found : fields.get? key = some value) :
    (writtenFields fields).lookup key = some value.written := by
  induction fields with
  | nil => cases found
  | cons entry fields ih =>
      obtain ⟨name, first⟩ := entry
      rw [Fields.get?_cons] at found
      rw [writtenFields, List.lookup_cons]
      by_cases same : key = name
      · rw [if_pos same] at found
        obtain rfl := Option.some.inj found
        simp [same]
      · rw [if_neg same] at found
        have test : (key == name) = false := beq_eq_false_iff_ne.mpr same
        simp only [test, ih found]

mutual

/-- How deep a value nests. -/
def depth : Json → Nat
  | .array items => itemsDepth items + 1
  | .object fields => fieldsDepth fields + 1
  | _ => 0

/-- How deep items nest. -/
def itemsDepth : List Json → Nat
  | [] => 0
  | item :: items => max (depth item) (itemsDepth items)

/-- How deep the values of entries nest. -/
def fieldsDepth : Fields → Nat
  | [] => 0
  | (_, value) :: fields => max (depth value) (fieldsDepth fields)

end

theorem body_begin {text : NumberText} (formed : text.WellFormed) :
    ∃ c rest, text.body = c :: rest ∧ c.isDigit = true := by
  rcases formed.whole with zero | ⟨c, others, same, _, all⟩
  · exact ⟨'0', _, by rw [NumberText.body, zero]; rfl, rfl⟩
  · refine ⟨c, _, by rw [NumberText.body, same]; rfl, ?_⟩
    exact all c (by rw [same]; exact List.mem_cons_self)

/-- A value begins with neither a blank nor a closing bracket. -/
theorem begins_write (layout : Layout) (level : Nat) (value : Json) (rest : List Char) :
    Begins (write layout level value rest) := by
  cases value with
  | null => exact ⟨'n', _, rfl, rfl, by decide⟩
  | bool value => cases value <;> exact ⟨_, _, rfl, rfl, by decide⟩
  | string text => exact ⟨'"', _, rfl, rfl, by decide⟩
  | number number =>
      obtain ⟨c, others, body, digit⟩ := body_begin number.literal_wellFormed
      rw [write, number.chars_eq, NumberText.chars, body]
      cases number.literal.negative with
      | true => exact ⟨'-', _, rfl, rfl, by decide⟩
      | false => exact ⟨c, _, rfl, not_isBlank_of_isDigit digit⟩
  | array items => cases items <;> exact ⟨'[', _, rfl, rfl, by decide⟩
  | object fields => cases fields <;> exact ⟨'{', _, rfl, rfl, by decide⟩

namespace Source

section

variable {layout : Layout} {level : Nat}

theorem readWith_skipsBlanks (inner : Option (Reader Source)) : SkipsBlanks (readWith inner) := by
  intro blanks text blank
  rw [readWith, readWith, skipBlank_append blank]

theorem read_eq_readWith (depth : Nat) : ∃ inner, read depth = readWith inner := by
  cases depth with
  | zero => exact ⟨none, rfl⟩
  | succ depth => exact ⟨some (read depth), rfl⟩

theorem read_skipsBlanks (depth : Nat) : SkipsBlanks (read depth) := by
  obtain ⟨inner, same⟩ := read_eq_readWith depth
  rw [same]
  exact readWith_skipsBlanks inner

/-- A number is read back as its literal. -/
theorem readWith_number (inner : Option (Reader Source)) (number : Number) :
    ReadsBack (readWith inner) (write layout level (.number number))
      (.number number.literal) := by
  intro rest ends
  have formed := number.literal_wellFormed
  have textRead : readNumberText .keep number.literal.negative
      (number.literal.body ++ rest) = .ok (number.literal, rest) := formed.readNumberText ends
  obtain ⟨c, others, body, digit⟩ := body_begin formed
  rw [write, number.chars_eq, NumberText.chars]
  generalize negative : number.literal.negative = sign at textRead
  cases sign with
  | true =>
      have visible : isBlank '-' = false := rfl
      rw [if_pos rfl, List.cons_append, readWith, skipBlank_cons visible]
      simp [textRead, bind, Except.bind]
  | false =>
      have visible := (not_isBlank_of_isDigit digit).1
      have other : ∀ mark : Char, mark.isDigit = false → c ≠ mark := by
        rintro mark notDigit rfl
        rw [notDigit] at digit
        cases digit
      rw [body, List.cons_append] at textRead
      rw [if_neg Bool.false_ne_true, body, List.cons_append, readWith, skipBlank_cons visible]
      simp [other 'n' rfl, other 't' rfl, other 'f' rfl, other '"' rfl, other '-' rfl, digit,
        textRead, bind, Except.bind]

theorem entry_write (sound : layout.Sound) {item : Reader Source} (skips : SkipsBlanks item)
    {value : Json} {source : Source}
    (reads : ReadsBack item (write layout (level + 1) value) source)
    (before : List (String × Source)) (key : String) :
    ReadsBack (entry item before key)
      (fun rest => layout.colon ++ write layout (level + 1) value rest)
      (before ++ [(key, source)]) := by
  intro rest ends
  obtain ⟨blanks, blank, entered⟩ :=
    expectChar_colon sound (write layout (level + 1) value rest)
  simp only [entry, entered, skips _ _ blank, reads rest ends, bind, Except.bind]

theorem reads_entries (sound : layout.Sound) {item : Reader Source} (skips : SkipsBlanks item)
    {fields : Fields}
    (reads : ∀ entry ∈ fields,
      ReadsBack item (write layout (level + 1) entry.2) entry.2.written)
    (before : List (String × Source)) :
    Reads layout level (entry item) before fields (before ++ writtenFields fields) := by
  induction fields generalizing before with
  | nil =>
      rw [writtenFields, List.append_nil]
      exact .nil
  | cons field fields ih =>
      obtain ⟨key, value⟩ := field
      have first := entry_write sound skips (reads (key, value) List.mem_cons_self) before key
      have others := ih (fun entry member => reads entry (List.mem_cons_of_mem _ member))
        (before ++ [(key, value.written)])
      rw [List.append_assoc] at others
      exact .cons first others

end

end Source

section

variable {layout : Layout}

mutual

/-- A value is read back as its source, in every layout that is sound. -/
theorem readsBack_written (sound : layout.Sound) (value : Json) {depth : Nat}
    (deep : value.depth ≤ depth) (level : Nat) :
    ReadsBack (Source.read depth) (write layout level value) value.written := by
  obtain ⟨inner, same⟩ := Source.read_eq_readWith depth
  match value with
  | .null =>
      intro rest ends
      rw [same]
      rfl
  | .bool truth =>
      intro rest ends
      rw [same]
      cases truth <;> rfl
  | .number n =>
      rw [same]
      exact Source.readWith_number inner n
  | .string text =>
      intro rest ends
      have quote : isBlank '"' = false := rfl
      obtain ⟨quoted, read⟩ := readString_writeString .keep text rest
      rw [same, write, quoted, Source.readWith, skipBlank_cons quote]
      simp [read, bind, Except.bind, written]
  | .array items =>
      intro rest ends
      obtain ⟨below, rfl⟩ : ∃ below, depth = below + 1 :=
        Nat.exists_eq_succ_of_ne_zero (by rw [Json.depth] at deep; omega)
      have itemsDeep : itemsDepth items ≤ below := by
        rw [Json.depth] at deep
        omega
      obtain ⟨text, isText, read⟩ := sequence_write sound id written
        (readsBack_writtenItems sound items itemsDeep (level + 1))
        (fun item _ => begins_write layout (level + 1) item) rest
      have bracket : isBlank '[' = false := rfl
      rw [List.map_id] at isText
      rw [isText, Source.read, Source.readWith, skipBlank_cons bracket, written,
        writtenItems_eq]
      simp [read, bind, Except.bind]
  | .object fields =>
      intro rest ends
      obtain ⟨below, rfl⟩ : ∃ below, depth = below + 1 :=
        Nat.exists_eq_succ_of_ne_zero (by rw [Json.depth] at deep; omega)
      have fieldsDeep : fieldsDepth fields ≤ below := by
        rw [Json.depth] at deep
        omega
      obtain ⟨text, isText, read⟩ := keyed_write sound
        (Source.reads_entries sound (Source.read_skipsBlanks below)
          (readsBack_writtenFields sound fields fieldsDeep (level + 1)) [])
        .ok rfl rest
      have brace : isBlank '{' = false := rfl
      rw [isText, Source.read, Source.readWith, skipBlank_cons brace, written]
      simp [Source.entries, read, bind, Except.bind]

theorem readsBack_writtenItems (sound : layout.Sound) (items : List Json) {depth : Nat}
    (deep : itemsDepth items ≤ depth) (level : Nat) :
    ∀ item ∈ items, ReadsBack (Source.read depth) (write layout level item) item.written := by
  match items with
  | [] =>
      intro item member
      cases member
  | first :: items =>
      intro item member
      rw [itemsDepth] at deep
      rcases List.mem_cons.mp member with same | later
      · rw [same]
        exact readsBack_written sound first (by omega) level
      · exact readsBack_writtenItems sound items (by omega) level item later

theorem readsBack_writtenFields (sound : layout.Sound) (fields : Fields) {depth : Nat}
    (deep : fieldsDepth fields ≤ depth) (level : Nat) :
    ∀ entry ∈ fields,
      ReadsBack (Source.read depth) (write layout level entry.2) entry.2.written := by
  match fields with
  | [] =>
      intro entry member
      cases member
  | (key, value) :: fields =>
      intro entry member
      rw [fieldsDepth] at deep
      rcases List.mem_cons.mp member with same | later
      · rw [same]
        exact readsBack_written sound value (by omega) level
      · exact readsBack_writtenFields sound fields (by omega) level entry later

end

mutual

/-- No value nests deeper than its text is long. -/
theorem depth_le_length (layout : Layout) (level : Nat) (value : Json) (rest : List Char) :
    value.depth + rest.length ≤ (write layout level value rest).length := by
  match value with
  | .null => simp [Json.depth, write]; omega
  | .bool true => simp [Json.depth, write]; omega
  | .bool false => simp [Json.depth, write]; omega
  | .number n => simp [Json.depth, write]
  | .string text =>
      have longer := length_le_writeString text rest
      simpa [Json.depth, write] using longer
  | .array [] => simp [Json.depth, itemsDepth, write]; omega
  | .array (item :: items) =>
      have first := depth_le_length layout (level + 1) item
        (writeItems layout level items (layout.closing level ++ ']' :: rest))
      have others := itemsDepth_le_length layout level items
        (layout.closing level ++ ']' :: rest)
      simp only [Json.depth, itemsDepth, write, List.length_append, List.length_cons] at *
      omega
  | .object [] => simp [Json.depth, fieldsDepth, write]; omega
  | .object ((key, value) :: fields) =>
      have first := depth_le_length layout (level + 1) value
        (writeFields layout level fields (layout.closing level ++ '}' :: rest))
      have others := fieldsDepth_le_length layout level fields
        (layout.closing level ++ '}' :: rest)
      have named := length_le_writeString key (layout.colon ++ write layout (level + 1) value
        (writeFields layout level fields (layout.closing level ++ '}' :: rest)))
      simp only [Json.depth, fieldsDepth, write, List.length_append, List.length_cons] at *
      omega

theorem itemsDepth_le_length (layout : Layout) (level : Nat) (items : List Json)
    (rest : List Char) :
    itemsDepth items + rest.length ≤ (writeItems layout level items rest).length := by
  match items with
  | [] => simp [itemsDepth, writeItems]
  | item :: items =>
      have first := depth_le_length layout (level + 1) item (writeItems layout level items rest)
      have others := itemsDepth_le_length layout level items rest
      simp only [itemsDepth, writeItems, List.length_append]
      omega

theorem fieldsDepth_le_length (layout : Layout) (level : Nat) (fields : Fields)
    (rest : List Char) :
    fieldsDepth fields + rest.length ≤ (writeFields layout level fields rest).length := by
  match fields with
  | [] => simp [fieldsDepth, writeFields]
  | (key, value) :: fields =>
      have first := depth_le_length layout (level + 1) value
        (writeFields layout level fields rest)
      have others := fieldsDepth_le_length layout level fields rest
      have named := length_le_writeString key (layout.colon ++ write layout (level + 1) value
        (writeFields layout level fields rest))
      simp only [fieldsDepth, writeFields, List.length_append] at *
      omega

end

/-- A text of a value is read as the source that the value is written as. -/
theorem parse_write (sound : layout.Sound) (value : Json) {blanks : List Char}
    (blank : blanks.all isBlank = true) :
    Source.parse (String.ofList (write layout 0 value blanks)) = .ok value.written := by
  have deep := depth_le_length layout 0 value blanks
  apply readAll_of_readsBack (readsBack_written sound value _ 0) blank
  rw [String.length_ofList]
  omega

end

/-- The source of a value has its literals where the value has its numbers. -/
theorem written_at? {value place : Json} {position : Position}
    (found : value.at? position = some place) :
    value.written.at? position = some place.written := by
  induction position generalizing value with
  | nil =>
      rw [Json.at?] at found
      obtain rfl := Option.some.inj found
      rw [Source.at?]
  | cons step position ih =>
      cases value with
      | array items =>
          cases step with
          | key name => cases found
          | index index =>
              obtain ⟨item, isItem, found⟩ := Option.bind_eq_some_iff.mp found
              refine Option.bind_eq_some_iff.mpr ⟨item.written, ?_, ih found⟩
              rw [writtenItems_eq, List.getElem?_map, isItem]
              rfl
      | object fields =>
          cases step with
          | index index => cases found
          | key name =>
              obtain ⟨one, isOne, found⟩ := Option.bind_eq_some_iff.mp found
              refine Option.bind_eq_some_iff.mpr ⟨one.written, ?_, ih found⟩
              exact lookup_writtenFields isOne
      | null => cases step <;> cases found
      | bool value => cases step <;> cases found
      | number n => cases step <;> cases found
      | string text => cases step <;> cases found

end DraftBoard.Json
