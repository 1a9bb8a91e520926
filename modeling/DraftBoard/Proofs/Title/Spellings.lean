import DraftBoard.Proofs.Title.Forms
import DraftBoard.Proofs.Title.Slug

/-!
# Spellings of the reference mark in slugs

The reference mark is recognised in any case, and slugs are in lower case.  But a small letter
before a capital begins a word of camel case in a slug, also inside the mark: there are four
spellings of it that a slug parts.
-/

namespace DraftBoard.Title

/-- The spellings of the reference mark. -/
def markSpellings : List String :=
  ["-ref", "-Ref", "-rEf", "-reF", "-REf", "-ReF", "-rEF", "-REF"]

/-- The spellings of the reference mark that have a small letter before a capital. -/
def partedMarks : List String :=
  ["-rEf", "-rEF", "-reF", "-ReF"]

theorem mem_markSpellings {mark : String} (spelled : Spells referenceMark mark) :
    mark ∈ markSpellings := by
  have lowered : mark.toList.map Char.toLower = ['-', 'r', 'e', 'f'] :=
    sameIgnoringCase_iff.mp spelled
  obtain ⟨a, rest, whole, hyphen, lowered⟩ := List.map_eq_cons_iff.mp lowered
  obtain ⟨b, rest, rfl, first, lowered⟩ := List.map_eq_cons_iff.mp lowered
  obtain ⟨c, rest, rfl, second, lowered⟩ := List.map_eq_cons_iff.mp lowered
  obtain ⟨d, rest, rfl, third, lowered⟩ := List.map_eq_cons_iff.mp lowered
  obtain rfl := List.map_eq_nil_iff.mp lowered
  -- The hyphen has no case, and each of the three letters has two.
  obtain rfl := eq_of_toLower_eq hyphen (by decide)
  have text : mark = String.ofList ['-', b, c, d] := by rw [← whole, String.ofList_toList]
  rcases eq_or_eq_of_toLower_eq first (rfl : 'R'.toNat + 32 = 'r'.toNat) with rfl | rfl <;>
    rcases eq_or_eq_of_toLower_eq second (rfl : 'E'.toNat + 32 = 'e'.toNat) with rfl | rfl <;>
      rcases eq_or_eq_of_toLower_eq third (rfl : 'F'.toNat + 32 = 'f'.toNat) with rfl | rfl <;>
        rw [text] <;> decide

/-- A mark that is not parted has the slug of the reference mark. -/
theorem slug_mark_eq_iff {mark : String} (spelled : Spells referenceMark mark) :
    slug mark = referenceMark ↔ mark ∉ partedMarks := by
  have table : ∀ spelling ∈ markSpellings,
      (slug spelling = referenceMark ↔ spelling ∉ partedMarks) := by
    decide
  exact table mark (mem_markSpellings spelled)

/-- The slug of a title that ends in a reference mark ends in the slug of the mark. -/
theorem slug_append_mark {mark : String} (spelled : Spells referenceMark mark) (base : String) :
    (slug (base ++ mark)).toList =
      (slug base).toList.rdropWhile (· == '-') ++ (slug mark).toList := by
  have hyphened : ∀ spelling ∈ markSpellings, spelling.toList.head? = some '-' := by
    decide
  obtain ⟨rest, text⟩ := List.head?_eq_some_iff.mp (hyphened mark (mem_markSpellings spelled))
  rw [slug, slug, slug, String.toList_ofList, String.toList_ofList, String.toList_ofList,
    String.toList_append, text, slugChars_append_hyphen]

theorem slug_append_mark_eq_iff {mark : String} (spelled : Spells referenceMark mark)
    (base : String) :
    slug (base ++ mark) = slug (base ++ referenceMark) ↔ mark ∉ partedMarks := by
  have plain : Spells referenceMark referenceMark := spells_self referenceMark
  have ownSlug : slug referenceMark = referenceMark := by decide
  rw [← slug_mark_eq_iff spelled, ← String.toList_inj, slug_append_mark spelled,
    slug_append_mark plain, List.append_cancel_left_eq, String.toList_inj, ownSlug]

/-- Whether a title ends in a reference mark that a slug parts. -/
def EndsParted (title : String) : Prop :=
  ∃ mark ∈ partedMarks, mark.toList <:+ title.toList

theorem endsParted_append_iff {mark : String} (spelled : Spells referenceMark mark)
    (base : String) : EndsParted (base ++ mark) ↔ mark ∈ partedMarks := by
  have ends : mark.toList <:+ (base ++ mark).toList := by
    rw [String.toList_append]
    exact List.suffix_append ..
  constructor
  · rintro ⟨other, parted, otherEnds⟩
    have lengths : ∀ spelling ∈ markSpellings, spelling.toList.length = 4 := by decide
    have among : ∀ spelling ∈ partedMarks, spelling ∈ markSpellings := by decide
    have sameLength : other.toList.length = mark.toList.length := by
      rw [lengths other (among other parted), lengths mark (mem_markSpellings spelled)]
    have sameText : other.toList = mark.toList :=
      (List.suffix_of_suffix_length_le otherEnds ends sameLength.le).eq_of_length sameLength
    rw [← String.toList_inj.mp sameText]
    exact parted
  · intro parted
    exact ⟨mark, parted, ends⟩

/-- The slug of a reference form ends in the reference mark unless it parts the mark. -/
theorem slug_reference_ends_iff (title : String) :
    referenceMark.toList <:+ (slug (reference title)).toList ↔
      ¬ EndsParted (reference title) := by
  obtain ⟨base, mark, split, spelled⟩ := exists_spelled_of_endsIn (endsIn_reference title)
  have table : ∀ spelling ∈ markSpellings, referenceMark.toList.length ≤
      (slug spelling).toList.length ∧
      (referenceMark.toList <:+ (slug spelling).toList ↔ spelling ∉ partedMarks) := by
    decide
  obtain ⟨long, ends⟩ := table mark (mem_markSpellings spelled)
  rw [split, endsParted_append_iff spelled, slug_append_mark spelled, ← ends]
  constructor
  · intro whole
    exact List.suffix_of_suffix_length_le whole (List.suffix_append ..) long
  · intro behind
    exact behind.trans (List.suffix_append ..)

/-- A draft mark at the end does not matter to the slug of a title with a reference mark. -/
theorem reference_append_marks {mark tail : String} (spelled : Spells referenceMark mark)
    (drafted : tail = "" ∨ Spells draftMark tail) (base : String) :
    reference (base ++ mark ++ tail) = base ++ mark := by
  have referenced : EndsIn referenceMark (base ++ mark) := endsIn_append_spelled spelled base
  rcases drafted with rfl | drafted
  · rw [String.append_empty, reference_of_endsIn referenced]
  · rw [reference_append_spelled drafted, if_pos referenced]

end DraftBoard.Title
