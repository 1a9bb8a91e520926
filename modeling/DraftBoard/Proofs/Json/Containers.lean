import DraftBoard.Proofs.Json.Loops
import DraftBoard.Proofs.Json.Readable
import DraftBoard.Proofs.Json.Writing

/-!
# Reading containers back

A container is read back if its entries are, one after another.  `Reads` says what a
reader makes of the entries of an object; the items of a list need no more than that
each of them is read back.
-/

namespace DraftBoard.Json

section

variable {layout : Layout} {level : Nat} {α β : Type} {item : Reader β} {toJson : α → Json}
variable {result : α → β}

theorem nextItem_first {blanks : List Char} (blank : blanks.all isBlank = true)
    {text : List Char} (begins : Begins text) :
    nextItem true (blanks ++ text) = .ok (some text) := by
  obtain ⟨c, rest, rfl, visible, notEnd⟩ := begins
  simp [nextItem, skipBlank_append blank, skipBlank_cons visible, notEnd]

theorem nextItem_between (sound : layout.Sound) {text : List Char} (begins : Begins text) :
    nextItem false (layout.between level ++ text) = .ok (some text) := by
  obtain ⟨c, rest, rfl, visible, notEnd⟩ := begins
  obtain ⟨blanks, between, blank⟩ := sound.between level
  have comma : isBlank ',' = false := rfl
  rw [between, List.cons_append]
  simp [nextItem, skipBlank_append blank, skipBlank_cons visible, skipBlank_cons comma, notEnd]

theorem nextItem_end (first : Bool) {blanks : List Char} (blank : blanks.all isBlank = true)
    (rest : List Char) : nextItem first (blanks ++ ']' :: rest) = .ok none := by
  have bracket : isBlank ']' = false := rfl
  simp [nextItem, skipBlank_append blank, skipBlank_cons bracket]

/-- What follows an item ends a number. -/
theorem endsNumber_writeItems (sound : layout.Sound) (level : Nat) (items : List Json)
    (rest : List Char) :
    EndsNumber (writeItems layout level items (layout.closing level ++ ']' :: rest)) := by
  cases items with
  | nil => exact endsNumber_of_blanks (sound.closing level) (endsNumber_cons (by decide))
  | cons item items =>
      obtain ⟨blanks, between, _⟩ := sound.between level
      rw [writeItems, between]
      exact endsNumber_cons (by decide)

theorem itemsFrom_writeItems (sound : layout.Sound) {items : List α}
    (reads : ∀ a ∈ items, ReadsBack item (write layout (level + 1) (toJson a)) (result a))
    (begins : ∀ a ∈ items, ∀ rest, Begins (write layout (level + 1) (toJson a) rest))
    {rounds : Nat} (enough : items.length < rounds) (done : List β) (rest : List Char) :
    itemsFrom item rounds false done
        (writeItems layout level (items.map toJson) (layout.closing level ++ ']' :: rest)) =
      .ok (done.reverse ++ items.map result, layout.closing level ++ ']' :: rest) := by
  induction items generalizing rounds done with
  | nil =>
      obtain ⟨left, rfl⟩ := Nat.exists_eq_succ_of_ne_zero (by omega : rounds ≠ 0)
      simp [writeItems, itemsFrom, nextItem_end false (sound.closing level)]
  | cons a items ih =>
      obtain ⟨left, rfl⟩ := Nat.exists_eq_succ_of_ne_zero (by omega : rounds ≠ 0)
      rw [List.length_cons] at enough
      have further := ih (fun b member => reads b (List.mem_cons_of_mem _ member))
        (fun b member => begins b (List.mem_cons_of_mem _ member))
        (by omega : items.length < left) (result a :: done)
      have start := begins a List.mem_cons_self
        (writeItems layout level (items.map toJson) (layout.closing level ++ ']' :: rest))
      have read := reads a List.mem_cons_self _
        (endsNumber_writeItems sound level (items.map toJson) rest)
      rw [List.map_cons, writeItems, itemsFrom, nextItem_between sound start]
      simp only [read, further, List.reverse_cons, List.append_assoc, List.singleton_append,
        List.map_cons]

theorem length_writeItems (sound : layout.Sound) (items : List Json) (rest : List Char) :
    items.length + rest.length ≤ (writeItems layout level items rest).length := by
  induction items with
  | nil => simp [writeItems]
  | cons item items ih =>
      obtain ⟨blanks, between, _⟩ := sound.between level
      have further := length_le_write layout (level + 1) item
        (writeItems layout level items rest)
      rw [writeItems, between, List.length_append, List.length_cons, List.length_cons]
      omega

/-- A sequence is read back if each of its items is. -/
theorem sequence_write (sound : layout.Sound) (toJson : α → Json) (result : α → β)
    {items : List α}
    (reads : ∀ a ∈ items, ReadsBack item (write layout (level + 1) (toJson a)) (result a))
    (begins : ∀ a ∈ items, ∀ rest, Begins (write layout (level + 1) (toJson a) rest))
    (rest : List Char) :
    ∃ text, write layout level (.array (items.map toJson)) rest = '[' :: text ∧
      sequence item text = .ok (items.map result, rest) := by
  have bracket : isBlank ']' = false := rfl
  cases items with
  | nil =>
      refine ⟨']' :: rest, rfl, ?_⟩
      simp [sequence, itemsFrom, nextItem, expectChar, skipBlank_cons bracket, bind,
        Except.bind]
  | cons a items =>
      let behind := writeItems layout level (items.map toJson)
        (layout.closing level ++ ']' :: rest)
      let text := layout.opening level ++ write layout (level + 1) (toJson a) behind
      refine ⟨text, rfl, ?_⟩
      have start := begins a List.mem_cons_self behind
      have read : item (write layout (level + 1) (toJson a) behind) = .ok (result a, behind) :=
        reads a List.mem_cons_self _ (endsNumber_writeItems sound level (items.map toJson) rest)
      have enough : items.length < text.length := by
        have first := length_le_write layout (level + 1) (toJson a) behind
        have others : (items.map toJson).length + (layout.closing level ++ ']' :: rest).length ≤
            behind.length := length_writeItems sound _ _
        have whole : text.length = (layout.opening level).length +
            (write layout (level + 1) (toJson a) behind).length := List.length_append
        rw [List.length_map, List.length_append, List.length_cons] at others
        omega
      have further := itemsFrom_writeItems sound
        (fun b member => reads b (List.mem_cons_of_mem _ member))
        (fun b member => begins b (List.mem_cons_of_mem _ member)) enough [result a] rest
      have items : itemsFrom item (text.length + 1) true [] text =
          .ok (result a :: items.map result, layout.closing level ++ ']' :: rest) := by
        rw [itemsFrom, nextItem_first (sound.opening level) start]
        simp only [read]
        exact further
      simp only [sequence, items, bind, Except.bind, expectChar_append (sound.closing level)
        bracket, List.map_cons]

end

section

variable {layout : Layout} {level : Nat} {σ : Type} {step : σ → String → Reader σ}

/-- What a step makes of the entries of an object, one after another. -/
inductive Reads (layout : Layout) (level : Nat) (step : σ → String → Reader σ) :
    σ → Fields → σ → Prop where
  | nil {state : σ} : Reads layout level step state [] state
  | cons {state next last : σ} {key : String} {value : Json} {fields : Fields}
      (entry : ReadsBack (step state key)
        (fun rest => layout.colon ++ write layout (level + 1) value rest) next)
      (others : Reads layout level step next fields last) :
      Reads layout level step state ((key, value) :: fields) last

theorem nextKey_first {blanks : List Char} (blank : blanks.all isBlank = true)
    (rest : List Char) : nextKey true (blanks ++ '"' :: rest) = .ok (some rest) := by
  have quote : isBlank '"' = false := rfl
  simp [nextKey, skipBlank_append blank, skipBlank_cons quote]

theorem nextKey_between (sound : layout.Sound) (rest : List Char) :
    nextKey false (layout.between level ++ '"' :: rest) = .ok (some rest) := by
  obtain ⟨blanks, between, blank⟩ := sound.between level
  have comma : isBlank ',' = false := rfl
  have quote : isBlank '"' = false := rfl
  rw [between, List.cons_append]
  simp [nextKey, skipBlank_append blank, skipBlank_cons comma, skipBlank_cons quote]

theorem nextKey_end (first : Bool) {blanks : List Char} (blank : blanks.all isBlank = true)
    (rest : List Char) : nextKey first (blanks ++ '}' :: rest) = .ok none := by
  have brace : isBlank '}' = false := rfl
  simp [nextKey, skipBlank_append blank, skipBlank_cons brace]

/-- What follows an entry ends a number. -/
theorem endsNumber_writeFields (sound : layout.Sound) (level : Nat) (fields : Fields)
    (rest : List Char) :
    EndsNumber (writeFields layout level fields (layout.closing level ++ '}' :: rest)) := by
  cases fields with
  | nil => exact endsNumber_of_blanks (sound.closing level) (endsNumber_cons (by decide))
  | cons entry fields =>
      obtain ⟨blanks, between, _⟩ := sound.between level
      rw [writeFields, between]
      exact endsNumber_cons (by decide)

theorem length_writeFields (sound : layout.Sound) (level : Nat) (fields : Fields)
    (rest : List Char) :
    fields.length + rest.length ≤ (writeFields layout level fields rest).length := by
  induction fields with
  | nil => simp [writeFields]
  | cons entry fields ih =>
      obtain ⟨key, value⟩ := entry
      obtain ⟨blanks, between, _⟩ := sound.between level
      have further := length_le_write layout (level + 1) value
        (writeFields layout level fields rest)
      have named := length_le_writeString key (layout.colon ++
        write layout (level + 1) value (writeFields layout level fields rest))
      rw [List.length_append] at named
      rw [writeFields, between, List.length_append, List.length_cons, List.length_cons]
      omega

theorem entryRun_writeFields (sound : layout.Sound) {state last : σ} {fields : Fields}
    (reads : Reads layout level step state fields last) (rest : List Char) :
    EntryRun .keep step false state
      (writeFields layout level fields (layout.closing level ++ '}' :: rest)) fields.keys last
      (layout.closing level ++ '}' :: rest) := by
  induction reads with
  | nil => exact .ends (nextKey_end false (sound.closing level) rest)
  | @cons _ _ _ key value fields entry _ ih =>
      have read := entry _ (endsNumber_writeFields sound level fields rest)
      obtain ⟨quoted, named⟩ := readString_writeString .keep key
        (layout.colon ++ write layout (level + 1) value
          (writeFields layout level fields (layout.closing level ++ '}' :: rest)))
      rw [writeFields, quoted]
      exact .reads (nextKey_between sound _) named read ih

/-- The text of an object is run over entry by entry, with the keys of the object. -/
theorem entryRun_write (sound : layout.Sound) {start last : σ} {fields : Fields}
    (reads : Reads layout level step start fields last) (rest : List Char) :
    ∃ text behind, write layout level (.object fields) rest = '{' :: text ∧
      fields.length ≤ text.length ∧
      EntryRun .keep step true start text fields.keys last behind ∧
      expectChar '}' behind = .ok rest := by
  have brace : isBlank '}' = false := rfl
  cases reads with
  | nil =>
      have closed : expectChar '}' ('}' :: rest) = .ok rest := by
        simp [expectChar, skipBlank_cons brace]
      exact ⟨'}' :: rest, '}' :: rest, rfl, Nat.zero_le _,
        .ends (nextKey_end true (rfl : ([] : List Char).all isBlank = true) rest), closed⟩
  | @cons _ next _ key value fields entry others =>
      let behind := layout.colon ++ write layout (level + 1) value
        (writeFields layout level fields (layout.closing level ++ '}' :: rest))
      let text := layout.opening level ++ writeString key behind
      obtain ⟨quoted, named⟩ := readString_writeString .keep key behind
      have read := entry _ (endsNumber_writeFields sound level fields rest)
      have enough : fields.length < text.length := by
        have written := length_writeFields sound level fields
          (layout.closing level ++ '}' :: rest)
        have valued := length_le_write layout (level + 1) value
          (writeFields layout level fields (layout.closing level ++ '}' :: rest))
        have named : behind.length ≤ (writeString key behind).length :=
          length_le_writeString key behind
        have colon : behind.length = layout.colon.length + (write layout (level + 1) value
            (writeFields layout level fields (layout.closing level ++ '}' :: rest))).length :=
          List.length_append
        have whole : text.length =
            (layout.opening level).length + (writeString key behind).length := List.length_append
        rw [List.length_append, List.length_cons] at written
        omega
      have first : nextKey true text = .ok (some (writeString key behind).tail) :=
        nextKey_first (sound.opening level) _
      exact ⟨text, _, rfl, enough,
        .reads first named read (entryRun_writeFields sound others rest),
        expectChar_append (sound.closing level) brace rest⟩

/-- An object is read back if its entries are, one after another. -/
theorem keyed_write {α : Type} (sound : layout.Sound) {start last : σ} {fields : Fields}
    (reads : Reads layout level step start fields last)
    (finish : σ → Except Problem α) {result : α} (finished : finish last = .ok result)
    (rest : List Char) :
    ∃ text, write layout level (.object fields) rest = '{' :: text ∧
      keyed .keep step start finish text = .ok (result, rest) := by
  obtain ⟨text, behind, written, enough, run, closed⟩ := entryRun_write sound reads rest
  have enough : fields.keys.length ≤ text.length := by rwa [Fields.keys, List.length_map]
  exact ⟨text, written, keyed_iff.mpr ⟨_, _, behind, enough, run, finished, closed⟩⟩

end

end DraftBoard.Json
