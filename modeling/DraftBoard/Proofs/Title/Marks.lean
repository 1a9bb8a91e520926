import DraftBoard.Title

/-!
# Marks at the end of a title

Stripping a mark by bytes is stripping it by characters: a tail that agrees with
a mark up to the case of ASCII letters has as many bytes as the mark.  From this
follow the laws of the draft form and the reference form.
-/

namespace DraftBoard.Title

/-- Whether a title ends in a mark, up to the case of ASCII letters. -/
def EndsIn (mark title : String) : Prop :=
  ∃ head tail, title.toList = head ++ tail ∧ sameIgnoringCase tail mark.toList = true

@[simp] theorem byteSize_nil : byteSize [] = 0 := rfl

@[simp] theorem byteSize_cons (c : Char) (text : List Char) :
    byteSize (c :: text) = c.utf8Size + byteSize text := rfl

@[simp] theorem byteSize_append (left right : List Char) :
    byteSize (left ++ right) = byteSize left + byteSize right := by
  induction left with
  | nil => simp
  | cons c left ih => rw [List.cons_append, byteSize_cons, byteSize_cons, ih, Nat.add_assoc]

theorem cutAtByte_eq_some_iff {offset : Nat} {text head tail : List Char} :
    cutAtByte offset text = some (head, tail) ↔
      text = head ++ tail ∧ byteSize head = offset := by
  induction text generalizing offset head with
  | nil =>
      cases offset with
      | zero => cases head <;> simp [cutAtByte, eq_comm]
      | succ offset =>
          simp only [cutAtByte, reduceCtorEq, false_iff, not_and]
          intro empty
          obtain ⟨rfl, rfl⟩ := List.append_eq_nil_iff.mp empty.symm
          simp
  | cons c rest ih =>
      have positive : 0 < c.utf8Size := c.utf8Size_pos
      cases offset with
      | zero =>
          cases head with
          | nil => simp [cutAtByte]
          | cons d head =>
              have positive' : 0 < d.utf8Size := d.utf8Size_pos
              simp only [cutAtByte, Option.some.injEq, Prod.mk.injEq, reduceCtorEq,
                false_and, byteSize_cons, false_iff, not_and]
              omega
      | succ offset =>
          cases head with
          | nil =>
              simp only [cutAtByte, byteSize_nil]
              split <;> simp
          | cons d head =>
              simp only [cutAtByte, List.cons_append, List.cons.injEq, byteSize_cons]
              by_cases fits : c.utf8Size ≤ offset + 1
              · rw [if_pos fits]
                constructor
                · intro cut
                  cases inner : cutAtByte (offset + 1 - c.utf8Size) rest with
                  | none => simp [inner] at cut
                  | some parts =>
                      obtain ⟨found, behind⟩ := parts
                      simp only [inner, Option.map_some, Option.some.injEq, Prod.mk.injEq,
                        List.cons.injEq] at cut
                      obtain ⟨⟨rfl, rfl⟩, rfl⟩ := cut
                      obtain ⟨rfl, size⟩ := ih.mp inner
                      exact ⟨⟨rfl, rfl⟩, by omega⟩
                · rintro ⟨⟨rfl, rfl⟩, size⟩
                  have inner : cutAtByte (offset + 1 - c.utf8Size) (head ++ tail) =
                      some (head, tail) :=
                    ih.mpr ⟨rfl, by omega⟩
                  simp [inner]
              · simp only [if_neg fits, reduceCtorEq, false_iff, not_and]
                rintro ⟨rfl, rfl⟩
                omega

theorem toNat_toLower (c : Char) :
    c.toLower.toNat = if 65 ≤ c.toNat ∧ c.toNat ≤ 90 then c.toNat + 32 else c.toNat := by
  unfold Char.toLower
  split
  · next upper =>
      have low : 65 ≤ c.toNat := upper.1
      have high : c.toNat ≤ 90 := upper.2
      have sum : (c.val + ('a'.val - 'A'.val)).toNat = c.toNat + 32 := by
        change (c.val + 32).toNat = c.val.toNat + 32
        have small : c.val.toNat ≤ 90 := high
        rw [UInt32.toNat_add]
        change (c.val.toNat + 32) % 2 ^ 32 = c.val.toNat + 32
        omega
      rw [if_pos ⟨low, high⟩]
      exact sum
  · next notUpper =>
      have outside : ¬ (65 ≤ c.toNat ∧ c.toNat ≤ 90) := notUpper
      rw [if_neg outside]

theorem eq_of_toLower_eq {c d : Char} (lowered : c.toLower = d) (unlettered : d.toNat < 97) :
    c = d := by
  have values := congrArg Char.toNat lowered
  rw [toNat_toLower] at values
  split at values
  · omega
  · exact Char.toNat_inj.mp values

theorem eq_or_eq_of_toLower_eq {c small capital : Char} (lowered : c.toLower = small)
    (pair : capital.toNat + 32 = small.toNat) : c = small ∨ c = capital := by
  have values := congrArg Char.toNat lowered
  rw [toNat_toLower] at values
  split at values
  · exact Or.inr (Char.toNat_inj.mp (by omega))
  · exact Or.inl (Char.toNat_inj.mp values)

theorem utf8Size_of_ascii {c : Char} (ascii : c.toNat < 128) : c.utf8Size = 1 := by
  have small : c.val ≤ 0x7f := by
    rw [UInt32.le_iff_toNat_le]
    change c.toNat ≤ 127
    omega
  simp [Char.utf8Size, small]

theorem utf8Size_toLower (c : Char) : c.toLower.utf8Size = c.utf8Size := by
  by_cases capital : 65 ≤ c.toNat ∧ c.toNat ≤ 90
  · have lowered : c.toLower.toNat = c.toNat + 32 := by rw [toNat_toLower, if_pos capital]
    have single : c.utf8Size = 1 := utf8Size_of_ascii (by omega)
    rw [single, utf8Size_of_ascii (by omega)]
  · have kept : c.toLower.toNat = c.toNat := by rw [toNat_toLower, if_neg capital]
    rw [Char.toNat_inj.mp kept]

theorem byteSize_map_toLower (text : List Char) :
    byteSize (text.map Char.toLower) = byteSize text := by
  induction text with
  | nil => rfl
  | cons c rest ih =>
      rw [List.map_cons, byteSize_cons, byteSize_cons, utf8Size_toLower, ih]

theorem sameIgnoringCase_iff {left right : List Char} :
    sameIgnoringCase left right = true ↔
      left.map Char.toLower = right.map Char.toLower := by
  simp [sameIgnoringCase]

theorem length_of_sameIgnoringCase {left right : List Char}
    (same : sameIgnoringCase left right = true) : left.length = right.length := by
  have lengths := congrArg List.length (sameIgnoringCase_iff.mp same)
  simpa using lengths

theorem byteSize_of_sameIgnoringCase {left right : List Char}
    (same : sameIgnoringCase left right = true) : byteSize left = byteSize right := by
  rw [← byteSize_map_toLower left, sameIgnoringCase_iff.mp same, byteSize_map_toLower]

/-- Cutting off as many bytes as a mark has finds exactly the tails that agree with
it. -/
theorem stripMark?_eq_some_iff {mark text head : List Char} :
    stripMark? mark text = some head ↔
      ∃ tail, text = head ++ tail ∧ sameIgnoringCase tail mark = true := by
  constructor
  · intro stripped
    unfold stripMark? at stripped
    split at stripped
    · split at stripped
      · next found tail cut =>
          split at stripped
          · next same =>
              cases stripped
              exact ⟨tail, (cutAtByte_eq_some_iff.mp cut).1, same⟩
          · cases stripped
      · cases stripped
    · cases stripped
  · rintro ⟨tail, rfl, same⟩
    have size := byteSize_of_sameIgnoringCase same
    have cut : cutAtByte (byteSize (head ++ tail) - byteSize mark) (head ++ tail) =
        some (head, tail) := by
      rw [cutAtByte_eq_some_iff]
      exact ⟨rfl, by rw [byteSize_append, size]; omega⟩
    have long : byteSize mark ≤ byteSize (head ++ tail) := by
      rw [byteSize_append, size]
      omega
    rw [stripMark?, if_pos long, cut]
    simp only [same, if_true]

theorem stripMark?_eq_none_iff {mark text : List Char} :
    stripMark? mark text = none ↔
      ¬ ∃ head tail, text = head ++ tail ∧ sameIgnoringCase tail mark = true := by
  rw [Option.eq_none_iff_forall_not_mem]
  simp only [Option.mem_def, stripMark?_eq_some_iff, not_exists]

/-- Whether a text is a mark, up to the case of ASCII letters. -/
def Spells (mark text : String) : Prop :=
  sameIgnoringCase text.toList mark.toList = true

instance (mark text : String) : Decidable (Spells mark text) :=
  inferInstanceAs (Decidable (_ = true))

theorem spells_self (mark : String) : Spells mark mark :=
  sameIgnoringCase_iff.mpr rfl

theorem endsIn_append_spelled {mark text : String} (spelled : Spells mark text)
    (base : String) : EndsIn mark (base ++ text) :=
  ⟨base.toList, text.toList, String.toList_append, spelled⟩

theorem endsIn_append (title mark : String) : EndsIn mark (title ++ mark) :=
  endsIn_append_spelled (spells_self mark) title

instance (title : String) : Decidable (EndsIn draftMark title) :=
  decidable_of_iff ((stripMark? draftMark.toList title.toList).isSome = true) (by
    simp [Option.isSome_iff_exists, stripMark?_eq_some_iff, EndsIn])

instance (title : String) : Decidable (EndsIn referenceMark title) :=
  decidable_of_iff ((stripMark? referenceMark.toList title.toList).isSome = true) (by
    simp [Option.isSome_iff_exists, stripMark?_eq_some_iff, EndsIn])

theorem draft_of_endsIn {title : String} (marked : EndsIn draftMark title) :
    draft title = title := by
  obtain ⟨head, tail, split, same⟩ := marked
  have stripped := stripMark?_eq_some_iff.mpr ⟨tail, split, same⟩
  simp [draft, stripped]

theorem draft_of_not_endsIn {title : String} (plain : ¬ EndsIn draftMark title) :
    draft title = title ++ draftMark := by
  have unstripped := stripMark?_eq_none_iff.mpr plain
  simp [draft, unstripped]

/-- A title without one draft mark at its end. -/
def undrafted (title : String) : String :=
  String.ofList ((stripMark? draftMark.toList title.toList).getD title.toList)

theorem undrafted_of_not_endsIn {title : String} (plain : ¬ EndsIn draftMark title) :
    undrafted title = title := by
  have unstripped := stripMark?_eq_none_iff.mpr plain
  simp [undrafted, unstripped]

theorem undrafted_append_spelled {text : String} (spelled : Spells draftMark text)
    (base : String) : undrafted (base ++ text) = base := by
  have stripped : stripMark? draftMark.toList (base ++ text).toList = some base.toList :=
    stripMark?_eq_some_iff.mpr ⟨text.toList, String.toList_append, spelled⟩
  rw [undrafted, stripped, Option.getD_some, String.ofList_toList]

theorem undrafted_append_draftMark (title : String) :
    undrafted (title ++ draftMark) = title :=
  undrafted_append_spelled (spells_self draftMark) title

theorem reference_eq (title : String) :
    reference title =
      if EndsIn referenceMark (undrafted title) then undrafted title
      else undrafted title ++ referenceMark := by
  unfold reference undrafted
  by_cases referenced : EndsIn referenceMark (undrafted title)
  · obtain ⟨head, tail, split, same⟩ := id referenced
    have stripped := stripMark?_eq_some_iff.mpr ⟨tail, split, same⟩
    rw [undrafted, String.toList_ofList] at stripped
    rw [undrafted] at referenced
    simp only [stripped, if_pos referenced]
  · have unstripped := stripMark?_eq_none_iff.mpr referenced
    rw [undrafted, String.toList_ofList] at unstripped
    rw [undrafted] at referenced
    simp only [unstripped, if_neg referenced]

/-- The draft mark that a draft adds to a title without one is dropped again. -/
theorem reference_append_draftMark {title : String} (plain : ¬ EndsIn draftMark title) :
    reference (title ++ draftMark) = reference title := by
  rw [reference_eq, reference_eq title, undrafted_append_draftMark,
    undrafted_of_not_endsIn plain]

private theorem last_of_endsIn {mark title : String} (lastOfMark : Char)
    (ended : EndsIn mark title) (markLast : mark.toList.getLast? = some lastOfMark) :
    (title.toList.getLast?).map Char.toLower = some lastOfMark.toLower := by
  obtain ⟨head, tail, split, same⟩ := ended
  have tails := congrArg List.getLast? (sameIgnoringCase_iff.mp same)
  rw [List.getLast?_map, List.getLast?_map, markLast] at tails
  cases tailLast : tail.getLast? with
  | none => simp [tailLast] at tails
  | some c =>
      rw [tailLast] at tails
      rw [split, List.getLast?_append, tailLast]
      exact tails

/-- No title ends in both marks: their last characters differ in more than case. -/
theorem not_endsIn_draftMark {title : String} (referenced : EndsIn referenceMark title) :
    ¬ EndsIn draftMark title := by
  intro marked
  have asReference := last_of_endsIn 'f' referenced (by decide)
  have asDraft := last_of_endsIn ')' marked (by decide)
  rw [asReference] at asDraft
  exact absurd asDraft (by decide)

theorem reference_of_endsIn {title : String} (referenced : EndsIn referenceMark title) :
    reference title = title := by
  rw [reference_eq, undrafted_of_not_endsIn (not_endsIn_draftMark referenced),
    if_pos referenced]

theorem endsIn_reference (title : String) : EndsIn referenceMark (reference title) := by
  rw [reference_eq]
  split
  · next referenced => exact referenced
  · exact endsIn_append _ referenceMark

/-- A reference title is found again in the draft form of itself. -/
theorem reference_draft_reference (title : String) :
    reference (reference title ++ draftMark) = reference title := by
  rw [reference_append_draftMark (not_endsIn_draftMark (endsIn_reference title)),
    reference_of_endsIn (endsIn_reference title)]

end DraftBoard.Title
