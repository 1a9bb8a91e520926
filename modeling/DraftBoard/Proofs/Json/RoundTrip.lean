import DraftBoard.Proofs.Json.Containers
import DraftBoard.Proofs.Json.Loops

/-!
# Reading values back

A readable value is read back from its text.  The proof is by induction on `Readable`;
within an object a second induction goes over the entries, which are set one by one.
-/

namespace DraftBoard.Json

section

variable {layout : Layout} {level : Nat}

/-- A reader that passes over blanks in front of what it reads. -/
def SkipsBlanks {α : Type} (reader : Reader α) : Prop :=
  ∀ blanks text, blanks.all isBlank = true → reader (blanks ++ text) = reader text

theorem valueWith_skipsBlanks (mode : Mode) (inner : Option (Reader Json)) :
    SkipsBlanks (valueWith mode inner) := by
  intro blanks text blank
  rw [valueWith, valueWith, skipBlank_append blank]

/-- A colon that has been passed leaves blanks in front of the value. -/
theorem expectChar_colon (sound : layout.Sound) (text : List Char) :
    ∃ blanks, blanks.all isBlank = true ∧
      expectChar ':' (layout.colon ++ text) = .ok (blanks ++ text) := by
  obtain ⟨blanks, colon, blank⟩ := sound.colon
  have mark : isBlank ':' = false := rfl
  refine ⟨blanks, blank, ?_⟩
  rw [colon, List.cons_append]
  exact expectChar_append (rfl : ([] : List Char).all isBlank = true) mark _

theorem insertEntry_write (sound : layout.Sound) {item : Reader Json}
    (skips : SkipsBlanks item) {value : Json}
    (reads : ReadsBack item (write layout (level + 1) value) value) (before : Fields)
    (key : String) :
    ReadsBack (insertEntry item before key)
      (fun rest => layout.colon ++ write layout (level + 1) value rest)
      (before.insert key value) := by
  intro rest ends
  obtain ⟨blanks, blank, entered⟩ :=
    expectChar_colon sound (write layout (level + 1) value rest)
  simp only [insertEntry, entered, skips _ _ blank, reads rest ends, bind, Except.bind]

theorem reads_insertEntry (sound : layout.Sound) {item : Reader Json}
    (skips : SkipsBlanks item) {fields : Fields}
    (reads : ∀ entry ∈ fields, ReadsBack item (write layout (level + 1) entry.2) entry.2)
    (before : Fields) (distinct : (before ++ fields).keys.Nodup) :
    Reads layout level (insertEntry item) before fields (before ++ fields) := by
  induction fields generalizing before with
  | nil =>
      rw [List.append_nil]
      exact .nil
  | cons entry fields ih =>
      obtain ⟨key, value⟩ := entry
      have missing : key ∉ before.keys := by
        intro member
        rw [Fields.keys, List.map_append, List.nodup_append] at distinct
        exact distinct.2.2 key member key (by simp) rfl
      have split : before ++ (key, value) :: fields = before ++ [(key, value)] ++ fields := by
        simp
      have first := insertEntry_write sound skips (reads (key, value) List.mem_cons_self)
        before key
      rw [Fields.insert_of_not_mem value missing] at first
      rw [split] at distinct ⊢
      exact .cons first
        (ih (fun entry member => reads entry (List.mem_cons_of_mem _ member)) _ distinct)

theorem value_eq_valueWith (mode : Mode) (depth : Nat) :
    ∃ inner, value mode depth = valueWith mode inner := by
  cases depth with
  | zero => exact ⟨none, rfl⟩
  | succ depth => exact ⟨some (value mode depth), rfl⟩

theorem valueWith_digit {c : Char} (digit : c.isDigit = true) (inner : Option (Reader Json))
    {text rest : List Char} {number : Number}
    (read : readNumber .keep false (c :: text) = .ok (number, rest)) :
    valueWith .keep inner (c :: text) = .ok (.number number, rest) := by
  have visible := (not_isBlank_of_isDigit digit).1
  exact valueWith_iff.mpr (.natural (skipBlank_cons visible text) digit read)

theorem valueWith_integer (inner : Option (Reader Json)) {n : Int} (fits : Fits n) :
    ReadsBack (valueWith .keep inner) (write layout level (.ofInt n)) (.ofInt n) := by
  intro rest ends
  cases n with
  | ofNat n =>
      obtain ⟨c, digits, written, digit⟩ := toDigits_begin n
      have read : readNumber .keep false (c :: (digits ++ rest)) = .ok (.integer n, rest) := by
        rw [← List.cons_append, ← written]
        exact readNumber_natural fits ends
      have text : write layout level (.ofInt (.ofNat n)) rest = c :: (digits ++ rest) := by
        rw [ofInt, write, Number.chars, written, List.cons_append]
      rw [text]
      exact valueWith_digit digit inner read
  | negSucc n =>
      have read : readNumber .keep true (Nat.toDigits 10 (n + 1) ++ rest) =
          .ok (.integer (.negSucc n), rest) :=
        readNumber_negative fits ends
      have text : write layout level (.ofInt (.negSucc n)) rest =
          '-' :: (Nat.toDigits 10 (n + 1) ++ rest) := by
        rw [ofInt, write, Number.chars, List.cons_append]
      have minus : isBlank '-' = false := rfl
      rw [text, valueWith, skipBlank_cons minus]
      simp [read, bind, Except.bind, ofInt]

theorem value_skipsBlanks (mode : Mode) (depth : Nat) : SkipsBlanks (value mode depth) := by
  obtain ⟨inner, same⟩ := value_eq_valueWith mode depth
  rw [same]
  exact valueWith_skipsBlanks mode inner

/-- An object is read back if the values of its entries are. -/
theorem fields_of_reads (sound : layout.Sound) {item : Reader Json} (skips : SkipsBlanks item)
    {fields : Fields} (distinct : fields.keys.Nodup)
    (reads : ∀ entry ∈ fields, ReadsBack item (write layout (level + 1) entry.2) entry.2)
    (rest : List Char) :
    ∃ text, write layout level (.object fields) rest = '{' :: text ∧
      Json.fields .keep item text = .ok (fields, rest) :=
  keyed_write sound (reads_insertEntry sound skips reads [] distinct) .ok rfl rest

/-- A value is read back from its text, in every layout that is sound. -/
theorem Readable.readsBack (sound : layout.Sound) {depth : Nat} {value : Json}
    (readable : Readable depth value) (level : Nat) :
    ReadsBack (Json.value .keep depth) (write layout level value) value := by
  induction readable generalizing level with
  | @null depth =>
      obtain ⟨inner, same⟩ := value_eq_valueWith .keep depth
      intro rest ends
      rw [same]
      rfl
  | @bool depth value =>
      obtain ⟨inner, same⟩ := value_eq_valueWith .keep depth
      intro rest ends
      rw [same]
      cases value <;> rfl
  | @integer depth value fits =>
      obtain ⟨inner, same⟩ := value_eq_valueWith .keep depth
      rw [same]
      exact valueWith_integer inner fits
  | @string depth text =>
      obtain ⟨inner, same⟩ := value_eq_valueWith .keep depth
      intro rest ends
      have quote : isBlank '"' = false := rfl
      obtain ⟨quoted, read⟩ := readString_writeString .keep text rest
      rw [same, write, quoted, valueWith, skipBlank_cons quote]
      simp [read, bind, Except.bind]
  | @array depth items readable ih =>
      intro rest ends
      obtain ⟨text, written, read⟩ := sequence_write sound id id
        (fun item member => ih item member (level + 1))
        (fun item member => (readable item member).begins layout (level + 1)) rest
      have bracket : isBlank '[' = false := rfl
      rw [List.map_id] at written read
      rw [written, Json.value, valueWith, skipBlank_cons bracket]
      simp [read, bind, Except.bind]
  | @object depth fields distinct readable ih =>
      intro rest ends
      obtain ⟨text, written, read⟩ := fields_of_reads sound (value_skipsBlanks .keep depth)
        distinct (fun entry member => ih entry member (level + 1)) rest
      have brace : isBlank '{' = false := rfl
      rw [written, Json.value, valueWith, skipBlank_cons brace]
      simp [read, bind, Except.bind]

/-- The entries of an object are read with one level less than the object has. -/
theorem Readable.fields_write (sound : layout.Sound) {depth : Nat} {fields : Fields}
    (readable : Readable (depth + 1) (.object fields)) (level : Nat) (rest : List Char) :
    ∃ text, write layout level (.object fields) rest = '{' :: text ∧
      Json.fields .keep (Json.value .keep depth) text = .ok (fields, rest) := by
  cases readable with
  | object distinct readable =>
      exact fields_of_reads sound (value_skipsBlanks .keep depth) distinct
        (fun entry member => (readable entry member).readsBack sound (level + 1)) rest

end

section

variable {layout : Layout} {α : Type} {reader : Reader α} {written : List Char → List Char}
variable {result : α}

theorem readAll_of_readsBack (reads : ReadsBack reader written result) {blanks : List Char}
    (blank : blanks.all isBlank = true) :
    readAll reader (String.ofList (written blanks)) = .ok result := by
  have ends : EndsNumber blanks := by
    have behind := endsNumber_of_blanks blank endsNumber_nil
    rwa [List.append_nil] at behind
  have nothing : skipBlank blanks = [] := by
    have passed := skipBlank_append blank []
    rwa [List.append_nil] at passed
  simp only [readAll, String.toList_ofList, reads blanks ends, nothing, bind, Except.bind]

theorem parse_compact {value : Json} (readable : Readable depthLimit value) :
    parse value.compact = .ok value :=
  readAll_of_readsBack (readable.readsBack Layout.compact_sound 0) rfl

end

end DraftBoard.Json
