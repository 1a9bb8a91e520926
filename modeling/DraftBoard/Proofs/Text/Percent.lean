import DraftBoard.Text.Percent

/-!
# Undoing percent-encoding

An encoded text decodes to its own bytes, provided that the percent sign is among
the characters that are encoded.  So an encoded component leads back to its text.
-/

namespace DraftBoard.Text

variable {keep : Char → Bool}

theorem hexValue?_upperHex {value : Nat} (digit : value < 16) :
    hexValue? (upperHex value) = some value := by
  revert value
  decide

theorem unreserved_upperHex {value : Nat} (digit : value < 16) :
    unreserved (upperHex value) = true := by
  revert value
  decide

theorem percentDecode_percentByte (byte : UInt8) (rest : List Char) :
    percentDecode (percentByte byte ++ rest) = byte :: percentDecode rest := by
  have small : byte.toNat < 256 := byte.toNat_lt
  have high := hexValue?_upperHex (by omega : byte.toNat / 16 < 16)
  have low := hexValue?_upperHex (by omega : byte.toNat % 16 < 16)
  have whole : 16 * (byte.toNat / 16) + byte.toNat % 16 = byte.toNat := by omega
  simp [percentByte, percentDecode, high, low, whole]

theorem percentDecode_percentBytes (bytes : List UInt8) (rest : List Char) :
    percentDecode (bytes.flatMap percentByte ++ rest) = bytes ++ percentDecode rest := by
  induction bytes with
  | nil => rfl
  | cons byte bytes ih =>
      rw [List.flatMap_cons, List.append_assoc, percentDecode_percentByte, ih,
        List.cons_append]

theorem percentDecode_cons {c : Char} (other : c ≠ '%') (rest : List Char) :
    percentDecode (c :: rest) = String.utf8EncodeChar c ++ percentDecode rest := by
  rw [percentDecode]
  rintro high low behind rfl
  exact absurd rfl other

theorem percentDecode_percentEncode (encodes : keep '%' = false) (text : List Char) :
    percentDecode (percentEncode keep text) = text.flatMap String.utf8EncodeChar := by
  induction text with
  | nil => rfl
  | cons c text ih =>
      have split : percentEncode keep (c :: text) =
          (if keep c then [c] else (String.utf8EncodeChar c).flatMap percentByte) ++
            percentEncode keep text := List.flatMap_cons
      rw [split, List.flatMap_cons]
      by_cases kept : keep c = true
      · have other : c ≠ '%' := by
          rintro rfl
          rw [encodes] at kept
          cases kept
        rw [if_pos kept, List.singleton_append, percentDecode_cons other, ih]
      · rw [if_neg kept, percentDecode_percentBytes, ih]

/-- A text of unreserved characters and percent triples. -/
inductive IsEscaped : List Char → Prop where
  | nil : IsEscaped []
  | unreserved {c : Char} {rest : List Char} (kept : unreserved c = true)
      (escaped : IsEscaped rest) : IsEscaped (c :: rest)
  | triple {high low : Char} {h l : Nat} {rest : List Char} (highDigit : hexValue? high = some h)
      (lowDigit : hexValue? low = some l) (escaped : IsEscaped rest) :
      IsEscaped ('%' :: high :: low :: rest)

theorem isEscaped_percentBytes (bytes : List UInt8) {rest : List Char}
    (escaped : IsEscaped rest) : IsEscaped (bytes.flatMap percentByte ++ rest) := by
  induction bytes with
  | nil => exact escaped
  | cons byte bytes ih =>
      have small : byte.toNat < 256 := byte.toNat_lt
      have high := hexValue?_upperHex (by omega : byte.toNat / 16 < 16)
      have low := hexValue?_upperHex (by omega : byte.toNat % 16 < 16)
      rw [List.flatMap_cons, List.append_assoc]
      exact .triple high low ih

theorem isEscaped_percentEncode (text : List Char) :
    IsEscaped (percentEncode unreserved text) := by
  induction text with
  | nil => exact .nil
  | cons c text ih =>
      rw [percentEncode, List.flatMap_cons]
      by_cases kept : unreserved c = true
      · rw [if_pos kept]
        exact .unreserved kept ih
      · rw [if_neg kept]
        exact isEscaped_percentBytes _ ih

theorem fromUTF8?_toUTF8 (text : String) : String.fromUTF8? text.toUTF8 = some text :=
  dif_pos text.isValidUTF8

theorem toUTF8_eq (text : String) :
    (⟨(text.toList.flatMap String.utf8EncodeChar).toArray⟩ : ByteArray) = text.toUTF8 := by
  apply ByteArray.ext
  have bytes : text.toUTF8 = text.toList.utf8Encode := String.utf8Encode_toList.symm
  rw [bytes, List.utf8Encode, List.data_toByteArray]

theorem data_toUTF8 (text : String) :
    text.toUTF8.data.toList = text.toList.flatMap String.utf8EncodeChar := by
  rw [← toUTF8_eq]

theorem toUTF8_inj {text other : String}
    (same : text.toUTF8.data.toList = other.toUTF8.data.toList) : text = other := by
  have bytes : text.toUTF8 = other.toUTF8 := ByteArray.ext (Array.toList_inj.mp same)
  have texts := fromUTF8?_toUTF8 text
  rw [bytes, fromUTF8?_toUTF8] at texts
  exact (Option.some.inj texts).symm

/-- What a component stands for. -/
def componentText? (component : List Char) : Option String :=
  String.fromUTF8? ⟨(percentDecode component).toArray⟩

theorem componentText?_urlComponent (text : String) :
    componentText? (urlComponent text).toList = some text := by
  rw [componentText?, urlComponent, String.toList_ofList,
    percentDecode_percentEncode rfl, toUTF8_eq, fromUTF8?_toUTF8]

theorem isEscaped_urlComponent (text : String) : IsEscaped (urlComponent text).toList := by
  rw [urlComponent, String.toList_ofList]
  exact isEscaped_percentEncode text.toList

theorem percentDecode_urlComponent (text : String) :
    percentDecode (urlComponent text).toList = text.toUTF8.data.toList := by
  rw [urlComponent, String.toList_ofList, percentDecode_percentEncode rfl, data_toUTF8]

theorem urlComponent_inj {text other : String} (same : urlComponent text = urlComponent other) :
    text = other := by
  have decoded := percentDecode_urlComponent text
  rw [same, percentDecode_urlComponent] at decoded
  exact (toUTF8_inj decoded).symm

/-- A component holds unreserved characters and percent triples alone. -/
theorem mem_urlComponent {text : String} {c : Char} (member : c ∈ (urlComponent text).toList) :
    unreserved c = true ∨ c = '%' := by
  rw [urlComponent, String.toList_ofList, percentEncode, List.mem_flatMap] at member
  obtain ⟨d, _, member⟩ := member
  split at member
  · next kept =>
      rw [List.mem_singleton] at member
      subst member
      exact Or.inl kept
  · rw [List.mem_flatMap] at member
    obtain ⟨byte, _, member⟩ := member
    have small : byte.toNat < 256 := byte.toNat_lt
    simp only [percentByte, List.mem_cons, List.not_mem_nil, or_false] at member
    rcases member with rfl | rfl | rfl
    · exact Or.inr rfl
    · exact Or.inl (unreserved_upperHex (by omega))
    · exact Or.inl (unreserved_upperHex (by omega))

end DraftBoard.Text
