import DraftBoard.Dashboard.Codec
import DraftBoard.Proofs.Json.RoundTrip

/-!
# Reading hits and definitions back

The record readers give back every hit, and every definition whose document and
remarks can be read back.
-/

namespace DraftBoard

open Json

variable {layout : Layout}

namespace Json

theorem expectString_skipsBlanks : SkipsBlanks expectString := by
  intro blanks text blank
  rw [expectString, expectString, skipBlank_append blank]

theorem expectString_write (layout : Layout) (level : Nat) (text : String) :
    ReadsBack expectString (write layout level (.string text)) text := by
  intro rest _
  obtain ⟨quoted, read⟩ := readString_writeString .keep text rest
  have quote : isBlank '"' = false := rfl
  rw [write, quoted, expectString, skipBlank_cons quote]
  exact read

theorem expectOptionalString_skipsBlanks : SkipsBlanks expectOptionalString := by
  intro blanks text blank
  rw [expectOptionalString, expectOptionalString, skipBlank_append blank]

theorem expectOptionalString_write (layout : Layout) (level : Nat) (text : String) :
    ReadsBack expectOptionalString (write layout level (.string text)) (some text) := by
  intro rest ends
  have read := expectString_write layout level text rest ends
  obtain ⟨quoted, _⟩ := readString_writeString .keep text rest
  have quote : isBlank '"' = false := rfl
  rw [write, quoted] at read
  rw [write, quoted, expectOptionalString, skipBlank_cons quote]
  split
  · next same => exact absurd (List.cons.inj same).1 (by decide)
  · simp only [read, bind, Except.bind]

/-- One entry of a record is read back if its value is. -/
theorem RecordReader.entry_write (sound : layout.Sound) {σ α : Type}
    {record : RecordReader σ α} {state next : σ} {key : String} {value : Json} {level : Nat}
    (awaited : record.given? state key = some false)
    (skips : SkipsBlanks (record.read state key))
    (reads : ReadsBack (record.read state key) (write layout (level + 1) value) next) :
    ReadsBack (record.entry state key)
      (fun rest => layout.colon ++ write layout (level + 1) value rest) next := by
  intro rest ends
  obtain ⟨blanks, blank, entered⟩ :=
    expectChar_colon sound (write layout (level + 1) value rest)
  simp only [RecordReader.entry, awaited, entered, skips _ _ blank, reads rest ends, bind,
    Except.bind]

/-- A record is read back from an object if its entries are. -/
theorem RecordReader.reader_write (sound : layout.Sound) {σ α : Type}
    {record : RecordReader σ α} {last : σ} {fields : Fields} {result : α} {level : Nat}
    (reads : Reads layout level record.entry record.start fields last)
    (finished : record.finish last = .ok result) :
    ReadsBack record.reader (write layout level (.object fields)) result := by
  intro rest _
  obtain ⟨text, written, read⟩ := keyed_write sound reads record.finish finished rest
  have brace : isBlank '{' = false := rfl
  rw [written, RecordReader.reader, skipBlank_cons brace]
  exact read

theorem expectObject_skipsBlanks (depth : Nat) : SkipsBlanks (expectObject depth) := by
  intro blanks text blank
  rw [expectObject, expectObject, skipBlank_append blank]

theorem expectObject_write (sound : layout.Sound) {depth : Nat} {fields : Fields}
    (readable : Readable depth (.object fields)) (level : Nat) :
    ReadsBack (expectObject depth) (write layout level (.object fields)) fields := by
  intro rest _
  have brace : isBlank '{' = false := rfl
  cases depth with
  | zero => cases readable
  | succ depth =>
      obtain ⟨text, written, read⟩ := readable.fields_write sound level rest
      rw [written, expectObject, skipBlank_cons brace]
      exact read

end Json

namespace Hit

theorem entry_folder (sound : layout.Sound) {state : Partial}
    (missing : state.folderTitle = none) (folder : String) (level : Nat) :
    ReadsBack (record.entry state "folderTitle")
      (fun rest => layout.colon ++ write layout (level + 1) (.string folder) rest)
      { state with folderTitle := some (some folder) } := by
  have awaited : record.given? state "folderTitle" = some false := by
    simp [record, missing]
  refine RecordReader.entry_write sound awaited ?_ ?_
  · intro blanks text blank
    simp [record, expectOptionalString_skipsBlanks blanks text blank]
  · intro rest ends
    simp [record, expectOptionalString_write layout (level + 1) folder rest ends, bind,
      Except.bind]

/-- The two other entries are strings. -/
theorem entry_string (sound : layout.Sound) {state : Partial} {key : String}
    (awaited : record.given? state key = some false) (notFolder : key ≠ "folderTitle")
    (text : String) (level : Nat) :
    ReadsBack (record.entry state key)
      (fun rest => layout.colon ++ write layout (level + 1) (.string text) rest)
      (if key = "title" then { state with title := some text }
        else { state with uid := some text }) := by
  refine RecordReader.entry_write sound awaited ?_ ?_
  · intro blanks text blank
    simp [record, notFolder, expectString_skipsBlanks blanks text blank]
  · intro rest ends
    simp [record, notFolder, expectString_write layout (level + 1) text rest ends, bind,
      Except.bind]

theorem readsBack_toJson (sound : layout.Sound) (hit : Hit) (level : Nat) :
    ReadsBack record.reader (write layout level hit.toJson) hit := by
  have title : ReadsBack (record.entry record.start "title")
      (fun rest => layout.colon ++ write layout (level + 1) (.string hit.title) rest)
      { title := some hit.title } :=
    entry_string sound rfl (by decide) hit.title level
  have uid : ReadsBack (record.entry { title := some hit.title } "uid")
      (fun rest => layout.colon ++ write layout (level + 1) (.string hit.uid) rest)
      { title := some hit.title, uid := some hit.uid } :=
    entry_string sound rfl (by decide) hit.uid level
  obtain ⟨hitTitle, hitUid, folderTitle⟩ := hit
  cases folderTitle with
  | none => exact RecordReader.reader_write sound (.cons title (.cons uid .nil)) rfl
  | some folder =>
      have named := entry_folder sound
        (rfl : ({ title := some hitTitle, uid := some hitUid } : Partial).folderTitle = none)
        folder level
      exact RecordReader.reader_write sound (.cons title (.cons uid (.cons named .nil))) rfl

/-- A list of hits is read back from its text. -/
theorem parseList_compact (hits : List Hit) :
    parseList (Json.array (hits.map toJson)).compact = .ok hits := by
  have reads : ReadsBack (expectList record.reader)
      (write Layout.compact 0 (.array (hits.map toJson))) hits := by
    intro rest _
    have bracket : isBlank '[' = false := rfl
    obtain ⟨text, written, read⟩ := sequence_write Layout.compact_sound toJson id
      (fun hit _ => hit.readsBack_toJson Layout.compact_sound 1)
      (fun hit _ rest => ⟨'{', _, rfl, rfl, by decide⟩) rest
    rw [List.map_id] at read
    rw [written, expectList, skipBlank_cons bracket]
    exact read
  exact readAll_of_readsBack reads rfl

end Hit

namespace Definition

theorem entry_dashboard (sound : layout.Sound) {depth : Nat} {dashboard : Dashboard}
    (readable : Readable depth dashboard.toJson) (level : Nat) :
    ReadsBack ((record depth).entry {} "dashboard")
      (fun rest => layout.colon ++ write layout (level + 1) dashboard.toJson rest)
      { dashboard := some dashboard } := by
  refine RecordReader.entry_write sound rfl ?_ ?_
  · intro blanks text blank
    simp [record, Dashboard.reader, expectObject_skipsBlanks depth blanks text blank]
  · intro rest ends
    have read := expectObject_write sound readable (level + 1) rest ends
    simp [record, Dashboard.reader, Dashboard.toJson, read, bind, Except.bind]

theorem entry_about (sound : layout.Sound) {depth : Nat} (dashboard : Dashboard) {about : Json}
    (readable : Readable depth about) (level : Nat) :
    ReadsBack ((record depth).entry { dashboard := some dashboard } "meta")
      (fun rest => layout.colon ++ write layout (level + 1) about rest)
      { dashboard := some dashboard, about := some about } := by
  refine RecordReader.entry_write sound rfl ?_ ?_
  · intro blanks text blank
    simp [record, value_skipsBlanks .keep depth blanks text blank]
  · intro rest ends
    simp [record, readable.readsBack sound (level + 1) rest ends, bind, Except.bind]

/-- A definition is read back from its text. -/
theorem parse_compact {definition : Definition}
    (dashboard : Readable (depthLimit - 1) definition.dashboard.toJson)
    (about : Readable (depthLimit - 1) definition.about) :
    parse definition.toJson.compact = .ok definition := by
  have reads : ReadsBack (record (depthLimit - 1)).reader
      (write Layout.compact 0 definition.toJson) definition :=
    RecordReader.reader_write Layout.compact_sound
      (.cons (entry_dashboard Layout.compact_sound dashboard 0)
        (.cons (entry_about Layout.compact_sound definition.dashboard about 0) .nil)) rfl
  exact readAll_of_readsBack reads rfl

end Definition

end DraftBoard
