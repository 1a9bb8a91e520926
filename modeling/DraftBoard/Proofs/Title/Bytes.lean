import DraftBoard.Proofs.Text.Percent
import DraftBoard.Proofs.Title.Marks

/-!
# Stripping a mark from bytes

A title is stored in bytes, and a mark is stripped from it by sizes and offsets in bytes.  Such
an offset may fall inside a character, and cutting there would be a fault.  Whether it does is
seen from the one byte at the offset, so no cut is a fault, and what is found is what stands in
front of as many characters as the mark has.
-/

namespace DraftBoard.Title

/-- The bytes of characters in UTF-8. -/
def utf8Bytes (text : List Char) : List UInt8 :=
  text.flatMap String.utf8EncodeChar

/-- Whether a byte goes on with a character that bytes before it have begun. -/
def continuesChar (byte : UInt8) : Bool :=
  0x80 ≤ byte && byte < 0xC0

theorem utf8Bytes_cons (c : Char) (text : List Char) :
    utf8Bytes (c :: text) = String.utf8EncodeChar c ++ utf8Bytes text :=
  List.flatMap_cons

theorem utf8Bytes_append (left right : List Char) :
    utf8Bytes (left ++ right) = utf8Bytes left ++ utf8Bytes right :=
  List.flatMap_append

theorem utf8Bytes_toList (text : String) : utf8Bytes text.toList = text.toUTF8.data.toList :=
  (Text.data_toUTF8 text).symm

@[simp] theorem length_utf8Bytes (text : List Char) : (utf8Bytes text).length = byteSize text := by
  induction text with
  | nil => rfl
  | cons c text ih =>
      rw [utf8Bytes_cons, List.length_append, ih, String.length_utf8EncodeChar, byteSize_cons]

theorem utf8Bytes_inj {left right : List Char} (same : utf8Bytes left = utf8Bytes right) :
    left = right := by
  have texts : String.ofList left = String.ofList right := by
    apply Text.toUTF8_inj
    rw [← utf8Bytes_toList, ← utf8Bytes_toList, String.toList_ofList, String.toList_ofList, same]
  exact String.ofList_inj.mp texts

theorem continuesChar_ofNat {value : Nat} (small : value < 256) :
    continuesChar (UInt8.ofNat value) = decide (128 ≤ value ∧ value < 192) := by
  have whole : (UInt8.ofNat value).toNat = value := UInt8.toNat_ofNat_of_lt' small
  simp [continuesChar, UInt8.le_iff_toNat_le, UInt8.lt_iff_toNat_lt, whole]

theorem continuesChar_of_high {byte : UInt8} (high : 192 ≤ byte.toNat) :
    continuesChar byte = false := by
  have above : ¬ byte.toNat < 192 := by omega
  simp [continuesChar, UInt8.lt_iff_toNat_lt, above]

theorem continuesChar_following (values : List Nat) :
    ∀ byte ∈ values.map fun value => UInt8.ofNat (value % 0x40 + 0x80),
      continuesChar byte = true := by
  intro byte member
  obtain ⟨value, _, rfl⟩ := List.mem_map.mp member
  rw [continuesChar_ofNat (by omega)]
  exact decide_eq_true (by omega)

theorem utf8EncodeChar_of_ascii {c : Char} (ascii : c.toNat < 128) :
    String.utf8EncodeChar c = [UInt8.ofNat c.toNat] := by
  have single : c.val.toNat ≤ 0x7f := Nat.le_of_lt_succ ascii
  rw [String.utf8EncodeChar, if_pos single]
  rfl

theorem utf8EncodeChar_of_beyond {c : Char} (beyond : 128 ≤ c.toNat) :
    ∃ first rest, String.utf8EncodeChar c = first :: rest ∧ 192 ≤ first.toNat ∧
      ∀ byte ∈ rest, continuesChar byte = true := by
  have several : ¬ c.val.toNat ≤ 0x7f := by
    change ¬ c.toNat ≤ 127
    omega
  have leads {value : Nat} (small : value < 256) (high : 192 ≤ value) :
      192 ≤ (UInt8.ofNat value).toNat := by
    rwa [UInt8.toNat_ofNat_of_lt' small]
  rw [String.utf8EncodeChar, if_neg several]
  split
  · exact ⟨_, _, rfl, leads (by omega) (by omega), continuesChar_following [_]⟩
  · split
    · exact ⟨_, _, rfl, leads (by omega) (by omega), continuesChar_following [_, _]⟩
    · exact ⟨_, _, rfl, leads (by omega) (by omega), continuesChar_following [_, _, _]⟩

/-- The first byte of a character begins it, and the others go on with it. -/
theorem exists_utf8EncodeChar (c : Char) :
    ∃ first rest, String.utf8EncodeChar c = first :: rest ∧ continuesChar first = false ∧
      ∀ byte ∈ rest, continuesChar byte = true := by
  by_cases ascii : c.toNat < 128
  · refine ⟨_, [], utf8EncodeChar_of_ascii ascii, ?_, by simp⟩
    rw [continuesChar_ofNat (by omega)]
    exact decide_eq_false (by omega)
  · obtain ⟨first, rest, encoded, high, following⟩ :=
      utf8EncodeChar_of_beyond (Nat.le_of_not_lt ascii)
    exact ⟨first, rest, encoded, continuesChar_of_high high, following⟩

/-- A byte, made small if it is a capital letter of ASCII. -/
def lowerByte (byte : UInt8) : UInt8 :=
  if 0x41 ≤ byte ∧ byte ≤ 0x5A then byte + 0x20 else byte

theorem lowerByte_of_high {byte : UInt8} (high : 128 ≤ byte.toNat) : lowerByte byte = byte := by
  have noCapital : ¬ (0x41 ≤ byte ∧ byte ≤ 0x5A) := by
    simp only [UInt8.le_iff_toNat_le]
    rintro ⟨_, low⟩
    have low : byte.toNat ≤ 90 := low
    omega
  rw [lowerByte, if_neg noCapital]

theorem lowerByte_ofNat {value : Nat} (ascii : value < 128) :
    lowerByte (UInt8.ofNat value) =
      UInt8.ofNat (if 65 ≤ value ∧ value ≤ 90 then value + 32 else value) := by
  have small : value < 256 := by omega
  have whole : (UInt8.ofNat value).toNat = value := UInt8.toNat_ofNat_of_lt' small
  have capital : (0x41 ≤ UInt8.ofNat value ∧ UInt8.ofNat value ≤ 0x5A) ↔
      (65 ≤ value ∧ value ≤ 90) := by
    rw [UInt8.le_iff_toNat_le, UInt8.le_iff_toNat_le, whole]
    rfl
  rw [lowerByte]
  simp only [capital]
  split
  · rw [UInt8.ofNat_add]
    rfl
  · rfl

/-- No byte of a character beyond ASCII is a letter of ASCII. -/
theorem lowerByte_of_mem {c : Char} (beyond : 128 ≤ c.toNat) {byte : UInt8}
    (member : byte ∈ String.utf8EncodeChar c) : lowerByte byte = byte := by
  obtain ⟨first, rest, encoded, high, following⟩ := utf8EncodeChar_of_beyond beyond
  rw [encoded] at member
  apply lowerByte_of_high
  rcases List.mem_cons.mp member with rfl | member
  · omega
  · have continued := following byte member
    simp only [continuesChar, Bool.and_eq_true, decide_eq_true_eq, UInt8.le_iff_toNat_le]
      at continued
    exact continued.1

theorem utf8EncodeChar_toLower (c : Char) :
    String.utf8EncodeChar c.toLower = (String.utf8EncodeChar c).map lowerByte := by
  by_cases ascii : c.toNat < 128
  · have lowered : c.toLower.toNat < 128 := by
      rw [toNat_toLower]
      split <;> omega
    rw [utf8EncodeChar_of_ascii ascii, utf8EncodeChar_of_ascii lowered, List.map_singleton,
      lowerByte_ofNat ascii, toNat_toLower]
  · have kept : c.toLower = c := by
      apply Char.toNat_inj.mp
      rw [toNat_toLower, if_neg (by omega)]
    rw [kept, List.map_congr_left (fun _ => lowerByte_of_mem (by omega)), List.map_id']

theorem utf8Bytes_map_toLower (text : List Char) :
    utf8Bytes (text.map Char.toLower) = (utf8Bytes text).map lowerByte := by
  induction text with
  | nil => rfl
  | cons c text ih =>
      rw [List.map_cons, utf8Bytes_cons, utf8Bytes_cons, List.map_append, ih,
        utf8EncodeChar_toLower]

/-- Whether bytes agree up to the case of ASCII letters. -/
def sameBytesIgnoringCase (left right : List UInt8) : Bool :=
  left.map lowerByte == right.map lowerByte

theorem sameBytesIgnoringCase_utf8Bytes (left right : List Char) :
    sameBytesIgnoringCase (utf8Bytes left) (utf8Bytes right) = sameIgnoringCase left right := by
  rw [Bool.eq_iff_iff, sameIgnoringCase_iff, sameBytesIgnoringCase, beq_iff_eq,
    ← utf8Bytes_map_toLower, ← utf8Bytes_map_toLower]
  exact ⟨utf8Bytes_inj, congrArg utf8Bytes⟩

/-- How a step on bytes fails. -/
inductive ByteFault where
  /-- More bytes are taken off than there are. -/
  | tooFew
  /-- A cut goes through a character or behind the end. -/
  | notBetween
deriving DecidableEq, Repr

/-- Whether an offset into bytes is between characters, the beginning and the end included. -/
def isBetween (offset : Nat) (bytes : List UInt8) : Bool :=
  offset == 0 ||
    match bytes[offset]? with
    | some byte => !continuesChar byte
    | none => offset == bytes.length

/-- The size that is left when a part is taken off. -/
def sizeLeft (whole part : Nat) : Except ByteFault Nat :=
  if part ≤ whole then .ok (whole - part) else .error .tooFew

/-- Bytes cut in two at an offset, which has to be between characters. -/
def cutBytes (offset : Nat) (bytes : List UInt8) : Except ByteFault (List UInt8 × List UInt8) :=
  if isBetween offset bytes then .ok (bytes.take offset, bytes.drop offset)
  else .error .notBetween

@[simp] theorem isBetween_zero (bytes : List UInt8) : isBetween 0 bytes = true := rfl

/-- An offset inside the first character is between none. -/
theorem isBetween_inside {c : Char} {offset : Nat} (inside : offset + 1 < c.utf8Size)
    (bytes : List UInt8) :
    isBetween (offset + 1) (String.utf8EncodeChar c ++ bytes) = false := by
  obtain ⟨first, rest, encoded, _, following⟩ := exists_utf8EncodeChar c
  have size : rest.length + 1 = c.utf8Size := by
    rw [← String.length_utf8EncodeChar, encoded, List.length_cons]
  have short : offset < rest.length := by omega
  have met : (String.utf8EncodeChar c ++ bytes)[offset + 1]? = some rest[offset] := by
    rw [encoded, List.cons_append, List.getElem?_cons_succ, List.getElem?_append_left short,
      List.getElem?_eq_getElem short]
  have continued : continuesChar rest[offset] = true := following _ (List.getElem_mem short)
  simp [isBetween, met, continued]

/-- The beginning of a text is between characters, also when other bytes are in front of it. -/
theorem isBetween_length (front : List UInt8) (text : List Char) :
    isBetween front.length (front ++ utf8Bytes text) = true := by
  cases text with
  | nil => simp [isBetween, utf8Bytes]
  | cons c text =>
      obtain ⟨first, rest, encoded, begun, _⟩ := exists_utf8EncodeChar c
      have met : (front ++ utf8Bytes (c :: text))[front.length]? = some first := by
        rw [List.getElem?_append_right (Nat.le_refl _), Nat.sub_self, utf8Bytes_cons, encoded]
        rfl
      simp [isBetween, met, begun]

/-- Behind the first character the offsets between characters are those of what follows it. -/
theorem isBetween_behind (c : Char) (offset : Nat) (text : List Char) :
    isBetween (c.utf8Size + offset) (String.utf8EncodeChar c ++ utf8Bytes text) =
      isBetween offset (utf8Bytes text) := by
  rw [← String.length_utf8EncodeChar]
  -- The beginning of all bytes needs no look at a byte, the beginning of the others does.
  cases offset with
  | zero => rw [Nat.add_zero, isBetween_length, isBetween_zero]
  | succ offset =>
      have met : (String.utf8EncodeChar c ++ utf8Bytes text)[
            (String.utf8EncodeChar c).length + (offset + 1)]? =
          (utf8Bytes text)[offset + 1]? := by
        rw [List.getElem?_append_right (Nat.le_add_right ..), Nat.add_sub_cancel_left]
      rw [isBetween, isBetween, met, List.length_append]
      cases (utf8Bytes text)[offset + 1]? with
      | none =>
          rw [Bool.eq_iff_iff]
          simp
      | some byte => simp

/-- The one byte at an offset tells whether characters can be cut there. -/
theorem isBetween_utf8Bytes (offset : Nat) (text : List Char) :
    isBetween offset (utf8Bytes text) = (cutAtByte offset text).isSome := by
  fun_induction cutAtByte offset text with
  | case1 text => rfl
  | case2 offset => rfl
  | case3 offset c rest fits ih =>
      have whole : offset + 1 = c.utf8Size + (offset + 1 - c.utf8Size) := by omega
      rw [Option.isSome_map, ← ih, utf8Bytes_cons, ← isBetween_behind c, ← whole]
  | case4 offset c rest cut =>
      rw [utf8Bytes_cons, isBetween_inside (by omega)]
      rfl

/-- Bytes are cut where their characters are. -/
theorem cutBytes_utf8Bytes {offset : Nat} {text head tail : List Char}
    (cut : cutAtByte offset text = some (head, tail)) :
    cutBytes offset (utf8Bytes text) = .ok (utf8Bytes head, utf8Bytes tail) := by
  have between : isBetween offset (utf8Bytes text) = true := by
    rw [isBetween_utf8Bytes, cut]
    rfl
  obtain ⟨rfl, rfl⟩ := cutAtByte_eq_some_iff.mp cut
  rw [cutBytes, if_pos between, utf8Bytes_append, ← length_utf8Bytes, List.take_left,
    List.drop_left]

/-- What precedes `mark` in bytes that end in it, up to the case of ASCII letters. -/
def stripBytes (mark bytes : List UInt8) : Except ByteFault (Option (List UInt8)) :=
  if bytes.length < mark.length then .ok none
  else do
    let offset ← sizeLeft bytes.length mark.length
    if isBetween offset bytes then
      let (head, tail) ← cutBytes offset bytes
      return if sameBytesIgnoringCase tail mark then some head else none
    else return none

/-- The steps on bytes never fail, and they strip from the bytes of characters what is stripped
from the characters. -/
theorem stripBytes_utf8Bytes (mark text : List Char) :
    stripBytes (utf8Bytes mark) (utf8Bytes text) =
      .ok ((stripMark? mark text).map utf8Bytes) := by
  rw [stripBytes, stripMark?, length_utf8Bytes, length_utf8Bytes]
  by_cases long : byteSize mark ≤ byteSize text
  · rw [if_neg (Nat.not_lt.mpr long), if_pos long, sizeLeft, if_pos long]
    have between := isBetween_utf8Bytes (byteSize text - byteSize mark) text
    cases cut : cutAtByte (byteSize text - byteSize mark) text with
    | none =>
        rw [cut, Option.isSome_none] at between
        simp [between, bind, Except.bind, pure, Except.pure]
    | some parts =>
        obtain ⟨head, tail⟩ := parts
        rw [cut, Option.isSome_some] at between
        have bytesCut := cutBytes_utf8Bytes cut
        have same := sameBytesIgnoringCase_utf8Bytes tail mark
        cases agree : sameIgnoringCase tail mark <;>
          simp [between, bytesCut, same, agree, bind, Except.bind, pure, Except.pure]
  · rw [if_pos (Nat.lt_of_not_le long), if_neg long, Option.map_none]

/-- Whether a title is `head` and a mark behind it, character for character up to the case of
ASCII letters. -/
def StandsBeforeMark (mark title : String) (head : List Char) : Prop :=
  ∃ tail, title.toList = head ++ tail ∧ tail.length = mark.toList.length ∧
    tail.map Char.toLower = mark.toList.map Char.toLower

theorem stripMark?_eq_some_iff_standsBeforeMark {mark title : String} {head : List Char} :
    stripMark? mark.toList title.toList = some head ↔ StandsBeforeMark mark title head := by
  rw [stripMark?_eq_some_iff]
  constructor
  · rintro ⟨tail, split, same⟩
    exact ⟨tail, split, length_of_sameIgnoringCase same, sameIgnoringCase_iff.mp same⟩
  · rintro ⟨tail, split, _, same⟩
    exact ⟨tail, split, sameIgnoringCase_iff.mpr same⟩

/-- No two parts meet inside a character. -/
theorem cutAtByte_inside {before after : List Char} {c : Char} {offset : Nat}
    (behind : byteSize before < offset) (inside : offset < byteSize before + c.utf8Size) :
    cutAtByte offset (before ++ c :: after) = none := by
  rw [Option.eq_none_iff_forall_not_mem]
  rintro ⟨head, tail⟩ cut
  obtain ⟨whole, size⟩ := cutAtByte_eq_some_iff.mp cut
  -- The first part ends with the character at least, or in front of it.
  rcases List.append_eq_append_iff.mp whole with ⟨more, rfl, rest⟩ | ⟨more, rfl, _⟩
  · rw [byteSize_append] at size
    cases more with
    | nil =>
        rw [byteSize_nil] at size
        omega
    | cons d more =>
        obtain ⟨rfl, _⟩ := List.cons.inj rest
        rw [byteSize_cons] at size
        omega
  · rw [byteSize_append] at behind
    omega

theorem byteSize_toList (text : String) : byteSize text.toList = text.utf8ByteSize := by
  rw [← length_utf8Bytes, utf8Bytes_toList]
  rfl

/-- How a mark is stripped from a title, by characters though sizes and offsets are in bytes. -/
structure StripsByCharacters (mark title : String) : Prop where
  /-- No step on the bytes fails, and what they give are the bytes of a text. -/
  onBytes : stripBytes mark.toUTF8.data.toList title.toUTF8.data.toList =
    .ok ((stripMark? mark.toList title.toList).map fun head =>
      (String.ofList head).toUTF8.data.toList)
  found : ∀ head, stripMark? mark.toList title.toList = some head ↔
    StandsBeforeMark mark title head
  onlyOne : ∀ head other, StandsBeforeMark mark title head →
    StandsBeforeMark mark title other → head = other
  nothing : stripMark? mark.toList title.toList = none ↔
    ∀ head, ¬ StandsBeforeMark mark title head
  short : title.utf8ByteSize < mark.utf8ByteSize → stripMark? mark.toList title.toList = none
  /-- Nothing is found where the mark would begin inside a character. -/
  inside : ∀ before c after, title.toList = before ++ c :: after →
    byteSize before < title.utf8ByteSize - mark.utf8ByteSize →
    title.utf8ByteSize - mark.utf8ByteSize < byteSize before + c.utf8Size →
    stripMark? mark.toList title.toList = none

/-- Stripping a mark from the bytes of a title is stripping it from the characters. -/
theorem strips_by_characters (mark title : String) : StripsByCharacters mark title := by
  constructor
  case onBytes =>
    rw [← utf8Bytes_toList, ← utf8Bytes_toList, stripBytes_utf8Bytes]
    congr 2
    funext head
    rw [← utf8Bytes_toList, String.toList_ofList]
  case found =>
    intro head
    exact stripMark?_eq_some_iff_standsBeforeMark
  case onlyOne =>
    intro head other first second
    have foundFirst := stripMark?_eq_some_iff_standsBeforeMark.mpr first
    rw [stripMark?_eq_some_iff_standsBeforeMark.mpr second] at foundFirst
    exact (Option.some.inj foundFirst).symm
  case nothing =>
    rw [Option.eq_none_iff_forall_not_mem]
    simp only [Option.mem_def, stripMark?_eq_some_iff_standsBeforeMark]
  case short =>
    intro short
    rw [← byteSize_toList, ← byteSize_toList] at short
    rw [stripMark?, if_neg (Nat.not_le.mpr short)]
  case inside =>
    intro before c after split behind inside
    rw [← byteSize_toList, ← byteSize_toList] at behind inside
    have uncut : ∀ offset, byteSize before < offset → offset < byteSize before + c.utf8Size →
        cutAtByte offset title.toList = none := by
      intro offset behind inside
      rw [split]
      exact cutAtByte_inside behind inside
    rw [stripMark?, uncut _ behind inside, ite_self]

/-- A mark in mixed case behind letters of three bytes, a mark that would begin inside such a
letter, and a title of fewer bytes than the mark. -/
theorem strips_by_characters_sample :
    (StandsBeforeMark draftMark "日本 (wIp)" ['日', '本'] ∧
      stripMark? draftMark.toList "日本 (wIp)".toList = some ['日', '本']) ∧
    stripMark? referenceMark.toList "日本".toList = none ∧
    ("é".utf8ByteSize < referenceMark.utf8ByteSize ∧
      stripMark? referenceMark.toList "é".toList = none) := by
  have stands : StandsBeforeMark draftMark "日本 (wIp)" ['日', '本'] :=
    ⟨" (wIp)".toList, by decide, by decide, by decide⟩
  have fewer : "é".utf8ByteSize < referenceMark.utf8ByteSize := by decide
  refine ⟨⟨stands, (strips_by_characters _ _).found _ |>.mpr stands⟩, ?_, fewer,
    (strips_by_characters _ _).short fewer⟩
  exact (strips_by_characters referenceMark "日本").inside [] '日' ['本'] (by decide) (by decide)
    (by decide)

end DraftBoard.Title
