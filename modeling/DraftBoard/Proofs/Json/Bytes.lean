import DraftBoard.Json.Bytes
import DraftBoard.Json.Shape
import DraftBoard.Proofs.Json.Agreement
import DraftBoard.Proofs.Json.Gaps
import DraftBoard.Proofs.Text.Utf8

/-!
# Values in bytes

The bytes of a text are read as that text.  Where all that is read is kept, nothing else can be
read; a string that is passed over may have any gaps.
-/

namespace DraftBoard.Json

variable {α σ : Type} {signs : List (Option Char)}

theorem flatMap_shown (text : List Char) : (text.map some).flatMap shown = text := by
  induction text with
  | nil => rfl
  | cons c text ih =>
      rw [List.map_cons, List.flatMap_cons, ih]
      rfl

theorem textOf_toUTF8 (text : String) : textOf text.toUTF8 = text := by
  rw [textOf, Text.data_toUTF8, Text.readUtf8_encode, flatMap_shown, String.ofList_toList]

theorem gapless_or_gap (signs : List (Option Char)) :
    (∃ chars : List Char, signs = chars.map some) ∨
      ∃ behind, gapMark ++ behind <:+ signs.flatMap shown := by
  induction signs with
  | nil => exact .inl ⟨[], rfl⟩
  | cons sign signs ih =>
      cases sign with
      | none => exact .inr ⟨signs.flatMap shown, List.suffix_refl _⟩
      | some c =>
          rcases ih with ⟨chars, rfl⟩ | ⟨behind, gap⟩
          · exact .inl ⟨c :: chars, rfl⟩
          · exact .inr ⟨behind, gap.trans (List.suffix_cons c _)⟩

/-- Bytes are those of a text, or a gap is read in them. -/
theorem text_or_gap (bytes : ByteArray) :
    (∃ text : String, bytes = text.toUTF8) ∨
      ∃ behind, gapMark ++ behind <:+ (textOf bytes).toList := by
  rcases gapless_or_gap (Text.readUtf8 bytes.data.toList) with ⟨chars, gapless⟩ | gap
  · have encoded := Text.readUtf8_eq_map_some_iff.mp gapless
    refine .inl ⟨String.ofList chars, ByteArray.ext (Array.toList_inj.mp ?_)⟩
    rw [Text.data_toUTF8, String.toList_ofList, encoded]
  · rw [textOf, String.toList_ofList]
    exact .inr gap

/-- A reader that stops at gaps reads all of some bytes if and only if they are those of a text
that it reads. -/
theorem readAll_textOf_iff {reader : Reader α} (stops : StopsAtGaps reader) {bytes : ByteArray}
    {result : α} :
    readAll reader (textOf bytes) = .ok result ↔
      ∃ text : String, bytes = text.toUTF8 ∧ readAll reader text = .ok result := by
  constructor
  · intro read
    rcases text_or_gap bytes with ⟨text, rfl⟩ | ⟨behind, gap⟩
    · rw [textOf_toUTF8] at read
      exact ⟨text, rfl, read⟩
    · obtain ⟨rest, found, nothing⟩ := readAll_iff.mp read
      have left := gap_skipBlank (stops gap found)
      rw [nothing] at left
      cases List.suffix_nil.mp left
  · rintro ⟨text, rfl, read⟩
    rw [textOf_toUTF8]
    exact read

/-- Bytes hold a value if and only if they are those of a text that holds it. -/
theorem parse_textOf_iff {bytes : ByteArray} {found : Json} :
    parse (textOf bytes) = .ok found ↔
      ∃ text : String, bytes = text.toUTF8 ∧ parse text = .ok found :=
  readAll_textOf_iff (value_stops depthLimit)

theorem readStringFrom_skip_shown
    (plain : ∀ c, some c ∈ signs → c ≠ '"' ∧ c ≠ '\\' ∧ ¬ c.toNat < 0x20) (done rest : List Char) :
    ∃ chars, readStringFrom .skip .plain done (signs.flatMap shown ++ '"' :: rest) =
      .ok (chars, rest) := by
  induction signs generalizing done with
  | nil => exact ⟨_, rfl⟩
  | cons sign signs ih =>
      have further := ih fun c member => plain c (List.mem_cons_of_mem _ member)
      rw [List.flatMap_cons, List.append_assoc]
      cases sign with
      | none =>
          rw [shown, readStringFrom_skip_gap]
          exact further _
      | some c =>
          obtain ⟨notQuote, notBackslash, visible⟩ := plain c List.mem_cons_self
          rw [shown, List.singleton_append, readStringFrom, if_neg notQuote, if_neg notBackslash,
            if_neg visible]
          exact further _

/-- An unknown field may hold a string with any gaps. -/
theorem RecordReader.entry_shown {record : RecordReader σ α} {state : σ} {key : String}
    (unknown : record.given? state key = none)
    (plain : ∀ c, some c ∈ signs → c ≠ '"' ∧ c ≠ '\\' ∧ ¬ c.toNat < 0x20) (rest : List Char) :
    record.entry state key (':' :: '"' :: (signs.flatMap shown ++ '"' :: rest)) =
      .ok (state, rest) := by
  obtain ⟨chars, read⟩ := readStringFrom_skip_shown plain [] rest
  have passed : skipValue ('"' :: (signs.flatMap shown ++ '"' :: rest)) = .ok rest := by
    refine bind_eq_ok.mpr ⟨(.string (String.ofList chars), rest), ?_, rfl⟩
    have string : readString .skip (signs.flatMap shown ++ '"' :: rest) =
        .ok (String.ofList chars, rest) := bind_eq_ok.mpr ⟨_, read, rfl⟩
    exact bind_eq_ok.mpr ⟨_, string, rfl⟩
  rw [entry, unknown]
  exact bind_eq_ok.mpr ⟨_, rfl, bind_eq_ok.mpr ⟨_, passed, rfl⟩⟩

end DraftBoard.Json
