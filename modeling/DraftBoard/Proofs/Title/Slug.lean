import DraftBoard.Proofs.Text.Lowercase
import DraftBoard.Proofs.Text.Split
import DraftBoard.Title

/-!
# Slugs

A slug consists of the characters that a slug keeps and of single hyphens, so it is a plain
part of a path.  The slug of a title holds what a slug keeps of the lowered title, in its order,
and the titles that are their own slugs are the slugs.
-/

namespace DraftBoard.Title

/-- The characters of a title that stand in its slug. -/
def KeptInSlug (c : Char) : Prop :=
  ('a' ≤ c ∧ c ≤ 'z') ∨ ('0' ≤ c ∧ c ≤ '9') ∨ c = '_'

instance : DecidablePred KeptInSlug :=
  fun _ => inferInstanceAs (Decidable (_ ∨ _))

/-- The texts that are slugs. -/
structure IsSlug (text : List Char) : Prop where
  alphabet : ∀ c ∈ text, KeptInSlug c ∨ c = '-'
  single : ¬ ['-', '-'] <:+: text

theorem isLower_iff {c : Char} : c.isLower = true ↔ 'a' ≤ c ∧ c ≤ 'z' := by
  delta Char.isLower
  simp [Char.le_def]

theorem isUpper_iff {c : Char} : c.isUpper = true ↔ 'A' ≤ c ∧ c ≤ 'Z' := by
  delta Char.isUpper
  simp [Char.le_def]

theorem isSlugChar_iff {c : Char} : isSlugChar c = true ↔ KeptInSlug c := by
  simp only [isSlugChar, KeptInSlug, Bool.or_eq_true, isLower_iff, beq_iff_eq, or_assoc]
  simp [Char.isDigit, Char.le_def]

theorem filter_isSlugChar (text : List Char) :
    text.filter isSlugChar = text.filter (fun c => KeptInSlug c) := by
  apply List.filter_congr
  intro c _
  rw [Bool.eq_iff_iff, isSlugChar_iff, decide_eq_true_eq]

theorem ne_hyphen_of_isSlugChar {c : Char} (kept : isSlugChar c = true) : c ≠ '-' := by
  rintro rfl
  exact absurd kept (by decide)

/-- Nothing in a slug is lowered or begins a word. -/
theorem small_of_keptInSlug {c : Char} (kept : KeptInSlug c ∨ c = '-') :
    c.toNat < 128 ∧ c.toLower = c ∧ c.isUpper = false := by
  -- The characters of slugs are ASCII, so that one table covers them.
  have table : ∀ n, n < 128 → (KeptInSlug (Char.ofNat n) ∨ Char.ofNat n = '-') →
      (Char.ofNat n).toLower = Char.ofNat n ∧ (Char.ofNat n).isUpper = false := by
    decide
  have ascii : c.toNat < 128 := by
    rcases kept with (⟨_, high⟩ | ⟨_, high⟩ | rfl) | rfl
    · exact Nat.lt_of_le_of_lt high (by decide)
    · exact Nat.lt_of_le_of_lt high (by decide)
    · decide
    · decide
  have found := table c.toNat ascii
  rw [Char.ofNat_toNat] at found
  exact ⟨ascii, found kept⟩

theorem keptInSlug_of_isLower {c : Char} (lower : c.isLower = true) : KeptInSlug c :=
  Or.inl (isLower_iff.mp lower)

theorem isUpper_of_isLower {c : Char} (lower : c.isLower = true) : c.isUpper = false :=
  (small_of_keptInSlug (Or.inl (keptInSlug_of_isLower lower))).2.2

theorem lowerChar_of_isLower {c : Char} (lower : c.isLower = true) : Text.lowerChar c = [c] := by
  obtain ⟨ascii, lowered, _⟩ := small_of_keptInSlug (Or.inl (keptInSlug_of_isLower lower))
  rw [Text.lowerChar_of_ascii ascii, lowered]

theorem mem_hyphenateFrom {inRun : Bool} {text : List Char} {c : Char}
    (member : c ∈ hyphenateFrom inRun text) : isSlugChar c = true ∨ c = '-' := by
  induction text generalizing inRun with
  | nil => simp [hyphenateFrom] at member
  | cons d rest ih =>
      rw [hyphenateFrom] at member
      split at member
      · next kept =>
          rcases List.mem_cons.mp member with rfl | later
          · exact Or.inl kept
          · exact ih later
      · split at member
        · exact ih member
        · rcases List.mem_cons.mp member with rfl | later
          · exact Or.inr rfl
          · exact ih later

theorem head?_hyphenateFrom_true (text : List Char) :
    (hyphenateFrom true text).head? ≠ some '-' := by
  induction text with
  | nil => simp [hyphenateFrom]
  | cons c rest ih =>
      rw [hyphenateFrom]
      split
      · next kept =>
          rw [List.head?_cons]
          exact fun same => ne_hyphen_of_isSlugChar kept (Option.some.inj same)
      · exact ih

theorem hyphens_infix_cons_iff {c : Char} {text : List Char} :
    ['-', '-'] <:+: c :: text ↔
      (c = '-' ∧ text.head? = some '-') ∨ ['-', '-'] <:+: text := by
  have front : ['-'] <+: text ↔ text.head? = some '-' := by
    cases text with
    | nil => simp
    | cons d rest =>
        rw [List.cons_prefix_cons, List.head?_cons, Option.some.injEq, eq_comm]
        exact and_iff_left List.nil_prefix
  rw [List.infix_cons_iff, List.cons_prefix_cons, front, eq_comm]

theorem single_hyphenateFrom (inRun : Bool) (text : List Char) :
    ¬ ['-', '-'] <:+: hyphenateFrom inRun text := by
  induction text generalizing inRun with
  | nil => simp [hyphenateFrom]
  | cons c rest ih =>
      rw [hyphenateFrom]
      split
      · next kept =>
          rw [hyphens_infix_cons_iff]
          rintro (⟨rfl, _⟩ | later)
          · exact absurd kept (by decide)
          · exact ih false later
      · split
        · exact ih true
        · rw [hyphens_infix_cons_iff]
          rintro (⟨_, doubled⟩ | later)
          · exact head?_hyphenateFrom_true rest doubled
          · exact ih true later

theorem isSlug_hyphenateFrom (inRun : Bool) (text : List Char) :
    IsSlug (hyphenateFrom inRun text) where
  alphabet := by
    intro c member
    rw [← isSlugChar_iff]
    exact mem_hyphenateFrom member
  single := single_hyphenateFrom inRun text

theorem filter_hyphenateFrom (inRun : Bool) (text : List Char) :
    (hyphenateFrom inRun text).filter isSlugChar = text.filter isSlugChar := by
  induction text generalizing inRun with
  | nil => rfl
  | cons c rest ih =>
      rw [hyphenateFrom]
      split
      · next kept => rw [List.filter_cons_of_pos kept, List.filter_cons_of_pos kept, ih]
      · next dropped =>
          rw [List.filter_cons_of_neg dropped]
          split
          · exact ih true
          · rw [List.filter_cons_of_neg (by decide), ih]

/-- A slug in which no hyphen follows the run that comes before it is hyphenated already. -/
theorem hyphenateFrom_of_isSlug {inRun : Bool} {text : List Char} (isSlug : IsSlug text)
    (apart : inRun = true → text.head? ≠ some '-') : hyphenateFrom inRun text = text := by
  induction text generalizing inRun with
  | nil => rfl
  | cons c rest ih =>
      obtain ⟨alphabet, single⟩ := isSlug
      rw [hyphens_infix_cons_iff, not_or] at single
      have isSlugRest : IsSlug rest :=
        ⟨fun d member => alphabet d (List.mem_cons_of_mem c member), single.2⟩
      rw [hyphenateFrom]
      rcases alphabet c List.mem_cons_self with kept | rfl
      · rw [if_pos (isSlugChar_iff.mpr kept), ih isSlugRest (by simp)]
      · have notInRun : ¬ inRun = true := fun inRun => apart inRun rfl
        rw [if_neg (by decide), if_neg notInRun,
          ih isSlugRest (fun _ doubled => single.1 ⟨rfl, doubled⟩)]

/-- A text hyphenated from inside a run on, with the hyphen of that run. -/
def hyphenatedRun (inRun : Bool) (text : List Char) : List Char :=
  (if inRun then ['-'] else []) ++ hyphenateFrom inRun text

theorem hyphenatedRun_of_dropped {c : Char} (dropped : isSlugChar c = false) (inRun : Bool)
    (rest : List Char) : hyphenatedRun inRun (c :: rest) = hyphenatedRun true rest := by
  cases inRun <;> simp [hyphenatedRun, hyphenateFrom, dropped]

theorem hyphenatedRun_of_kept {c : Char} (kept : isSlugChar c = true) (inRun : Bool)
    (rest : List Char) :
    hyphenatedRun inRun (c :: rest) =
      ((if inRun then ['-'] else []) ++ [c]) ++ hyphenatedRun false rest := by
  simp [hyphenatedRun, hyphenateFrom, kept]

/-- A hyphen joins the run that ends before it. -/
theorem hyphenatedRun_append_hyphen (inRun : Bool) (left right : List Char) :
    hyphenatedRun inRun (left ++ '-' :: right) =
      (hyphenatedRun inRun left).rdropWhile (· == '-') ++ hyphenatedRun true right := by
  induction left generalizing inRun with
  | nil =>
      rw [List.nil_append, hyphenatedRun_of_dropped (by decide)]
      cases inRun <;> rfl
  | cons c left ih =>
      rw [List.cons_append]
      cases kept : isSlugChar c with
      | false => rw [hyphenatedRun_of_dropped kept, hyphenatedRun_of_dropped kept, ih]
      | true =>
          have stops : ((if inRun then ['-'] else []) ++ [c]).rdropWhile (· == '-') =
              (if inRun then ['-'] else []) ++ [c] :=
            List.rdropWhile_concat_neg _ _ _ (by simpa using ne_hyphen_of_isSlugChar kept)
          rw [hyphenatedRun_of_kept kept, hyphenatedRun_of_kept kept, ih,
            Text.rdropWhile_append stops]
          exact (List.append_assoc ..).symm

/-- What a character counts as in a slug. -/
def inSlug (c : Char) : Char :=
  if isSlugChar c then c else '-'

theorem isSlugChar_inSlug (c : Char) : isSlugChar (inSlug c) = isSlugChar c := by
  unfold inSlug
  split
  · rfl
  · next dropped =>
      rw [Bool.not_eq_true] at dropped
      rw [dropped]
      rfl

theorem hyphenateFrom_map_inSlug (inRun : Bool) (text : List Char) :
    hyphenateFrom inRun (text.map inSlug) = hyphenateFrom inRun text := by
  induction text generalizing inRun with
  | nil => rfl
  | cons c rest ih =>
      rw [List.map_cons, hyphenateFrom, hyphenateFrom, isSlugChar_inSlug, ih, ih]
      by_cases kept : isSlugChar c = true
      · rw [if_pos kept, if_pos kept, inSlug, if_pos kept]
      · rw [if_neg kept, if_neg kept]

/-- Both shapes of a lowered sigma count as a hyphen. -/
theorem hyphenate_lowercaseChars (text : List Char) :
    hyphenate (Text.lowercaseChars text) = hyphenate (text.flatMap Text.lowerChar) := by
  have alike := Text.map_lowercaseChars (by decide : inSlug 'ς' = inSlug 'σ') text
  calc hyphenate (Text.lowercaseChars text)
      = hyphenate ((Text.lowercaseChars text).map inSlug) :=
        (hyphenateFrom_map_inSlug false _).symm
    _ = hyphenate ((text.flatMap Text.lowerChar).map inSlug) := by rw [alike]
    _ = hyphenate (text.flatMap Text.lowerChar) := hyphenateFrom_map_inSlug false _

theorem filter_lowercaseChars (text : List Char) :
    (Text.lowercaseChars text).filter isSlugChar =
      (text.flatMap Text.lowerChar).filter isSlugChar := by
  rw [← filter_hyphenateFrom false, ← filter_hyphenateFrom false (text.flatMap _)]
  exact congrArg (List.filter isSlugChar) (hyphenate_lowercaseChars text)

@[simp] theorem splitCamel_nil : splitCamel [] = [] := rfl

@[simp] theorem splitCamel_singleton (a : Char) : splitCamel [a] = [a] := rfl

theorem splitCamel_of_boundary {a b : Char} (boundary : (a.isLower && b.isUpper) = true)
    (rest : List Char) : splitCamel (a :: b :: rest) = a :: '-' :: b :: splitCamel rest := by
  rw [splitCamel, if_pos boundary]

theorem splitCamel_of_joined {a b : Char} (joined : ¬ (a.isLower && b.isUpper) = true)
    (rest : List Char) : splitCamel (a :: b :: rest) = a :: splitCamel (b :: rest) := by
  rw [splitCamel, if_neg joined]

/-- Induction along the words of a text: both characters of a boundary are passed at once. -/
theorem word_induction {motive : List Char → Prop} (nil : motive [])
    (single : ∀ a, motive [a])
    (boundary : ∀ a b rest, (a.isLower && b.isUpper) = true → motive rest →
      motive (a :: b :: rest))
    (joined : ∀ a b rest, ¬ (a.isLower && b.isUpper) = true → motive (b :: rest) →
      motive (a :: b :: rest))
    (text : List Char) : motive text := by
  fun_induction splitCamel text with
  | case1 a b rest isBoundary ih => exact boundary a b rest isBoundary ih
  | case2 a b rest isJoined ih => exact joined a b rest isJoined ih
  | case3 text short =>
      cases text with
      | nil => exact nil
      | cons a rest =>
          cases rest with
          | nil => exact single a
          | cons b rest => exact absurd rfl (short a b rest)

theorem filter_lowerChar_splitCamel (text : List Char) :
    ((splitCamel text).flatMap Text.lowerChar).filter isSlugChar =
      (text.flatMap Text.lowerChar).filter isSlugChar := by
  induction text using word_induction with
  | nil => rfl
  | single a => rfl
  | boundary a b rest boundary ih =>
      have hyphen : (Text.lowerChar '-').filter isSlugChar = [] := by decide
      rw [splitCamel_of_boundary boundary]
      simp only [List.flatMap_cons, List.filter_append, hyphen, List.nil_append, ih]
  | joined a b rest joined ih =>
      rw [splitCamel_of_joined joined, List.flatMap_cons, List.filter_append, ih,
        ← List.filter_append, ← List.flatMap_cons]

theorem splitCamel_of_no_capital {text : List Char}
    (small : ∀ c ∈ text, c.isUpper = false) : splitCamel text = text := by
  induction text using word_induction with
  | nil => rfl
  | single a => rfl
  | boundary a b rest boundary _ =>
      have notUpper := small b (List.mem_cons_of_mem a List.mem_cons_self)
      rw [notUpper, Bool.and_false] at boundary
      cases boundary
  | joined a b rest joined ih =>
      rw [splitCamel_of_joined joined, ih (fun c member => small c (List.mem_cons_of_mem a member))]

theorem splitCamel_append_hyphen (left right : List Char) :
    splitCamel (left ++ '-' :: right) = splitCamel left ++ splitCamel ('-' :: right) := by
  induction left using word_induction with
  | nil => rfl
  | single a =>
      have joined : ¬ (a.isLower && Char.isUpper '-') = true := by simp
      exact splitCamel_of_joined joined right
  | boundary a b rest boundary ih =>
      rw [List.cons_append, List.cons_append, splitCamel_of_boundary boundary,
        splitCamel_of_boundary boundary, ih]
      rfl
  | joined a b rest joined ih =>
      rw [List.cons_append, List.cons_append, splitCamel_of_joined joined,
        splitCamel_of_joined joined, ← List.cons_append, ih, List.cons_append]

theorem splitCamel_hyphen_cons (text : List Char) :
    ∃ rest, splitCamel ('-' :: text) = '-' :: rest := by
  cases text with
  | nil => exact ⟨[], rfl⟩
  | cons c rest => exact ⟨splitCamel (c :: rest), by simp [splitCamel]⟩

theorem slugChars_eq (title : List Char) :
    slugChars title = hyphenate ((splitCamel title).flatMap Text.lowerChar) :=
  hyphenate_lowercaseChars (splitCamel title)

/-- A title with a hyphen inside has the slugs of its two parts, the hyphen joining the run
that ends before it. -/
theorem slugChars_append_hyphen (left right : List Char) :
    slugChars (left ++ '-' :: right) =
      (slugChars left).rdropWhile (· == '-') ++ slugChars ('-' :: right) := by
  obtain ⟨rest, behind⟩ := splitCamel_hyphen_cons right
  have lowered : ('-' :: rest).flatMap Text.lowerChar = '-' :: rest.flatMap Text.lowerChar := rfl
  rw [slugChars_eq, slugChars_eq, slugChars_eq, splitCamel_append_hyphen, behind,
    List.flatMap_append, lowered]
  exact hyphenatedRun_append_hyphen false _ _

theorem isSlug_slug (title : String) : IsSlug (slug title).toList := by
  rw [slug, String.toList_ofList]
  exact isSlug_hyphenateFrom false _

theorem filter_slugChars (title : List Char) :
    (slugChars title).filter isSlugChar = (Text.lowercaseChars title).filter isSlugChar := by
  rw [slugChars_eq, hyphenate, filter_hyphenateFrom, filter_lowerChar_splitCamel,
    filter_lowercaseChars]

theorem slugChars_of_isSlug {text : List Char} (isSlug : IsSlug text) :
    slugChars text = text := by
  have small : ∀ c ∈ text, c.toNat < 128 ∧ c.toLower = c ∧ c.isUpper = false :=
    fun c member => small_of_keptInSlug (isSlug.alphabet c member)
  rw [slugChars, splitCamel_of_no_capital (fun c member => (small c member).2.2),
    Text.lowercaseChars_of_small (fun c member => ⟨(small c member).1, (small c member).2.1⟩)]
  exact hyphenateFrom_of_isSlug isSlug (by simp)

theorem slug_eq_self_iff {title : String} : slug title = title ↔ IsSlug title.toList := by
  constructor
  · intro same
    rw [← same]
    exact isSlug_slug title
  · intro isSlug
    rw [slug, slugChars_of_isSlug isSlug, String.ofList_toList]

theorem slug_slug (title : String) : slug (slug title) = slug title :=
  slug_eq_self_iff.mpr (isSlug_slug title)

theorem mem_slug {title : String} {c : Char} (member : c ∈ (slug title).toList) :
    isSlugChar c = true ∨ c = '-' := by
  rw [slug, String.toList_ofList] at member
  exact mem_hyphenateFrom member

theorem slash_not_mem_slug (title : String) : '/' ∉ (slug title).toList := by
  intro member
  rcases mem_slug member with kept | hyphen
  · exact absurd kept (by decide)
  · exact absurd hyphen (by decide)

end DraftBoard.Title
