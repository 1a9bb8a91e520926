import DraftBoard.Proofs.Title.Slug

/-!
# Slugs in one pass

A slug is made by rewriting a title three times: words of camel case are parted, letters lowered,
and runs of other characters replaced.  One pass from left to right that looks back at one
character of the title and one of what it has written makes the same slug.
-/

namespace DraftBoard.Title

open Text

/-- What a pattern finds at the front of a text: what is written for it and what stands behind
it. -/
structure Match (text : List Char) where
  written : List Char
  rest : List Char
  shorter : rest.length < text.length

/-- Rewrites the matches of a pattern: the first from the left, then the first behind it. -/
def replaceAll (find : (text : List Char) → Option (Match text)) : List Char → List Char
  | [] => []
  | c :: rest =>
      match find (c :: rest) with
      | some found => found.written ++ replaceAll find found.rest
      | none => c :: replaceAll find rest
termination_by text => text.length
decreasing_by
  · exact found.shorter
  · exact Nat.lt_succ_self rest.length

section

variable {find : (text : List Char) → Option (Match text)} {c : Char} {rest : List Char}

@[simp] theorem replaceAll_nil : replaceAll find [] = [] := by
  rw [replaceAll]

theorem replaceAll_of_match {found : Match (c :: rest)} (matched : find (c :: rest) = some found) :
    replaceAll find (c :: rest) = found.written ++ replaceAll find found.rest := by
  rw [replaceAll, matched]

theorem replaceAll_of_no_match (unmatched : find (c :: rest) = none) :
    replaceAll find (c :: rest) = c :: replaceAll find rest := by
  rw [replaceAll, unmatched]

end

/-- Whether a word of camel case begins between two characters. -/
def IsBoundary (a b : Char) : Prop :=
  ('a' ≤ a ∧ a ≤ 'z') ∧ 'A' ≤ b ∧ b ≤ 'Z'

instance (a b : Char) : Decidable (IsBoundary a b) :=
  inferInstanceAs (Decidable (_ ∧ _))

/-- `([a-z])([A-Z])`, with a hyphen put between the two. -/
def camelBoundary : (text : List Char) → Option (Match text)
  | a :: b :: rest =>
      if IsBoundary a b then some ⟨[a, '-', b], rest, Nat.lt_of_succ_lt (Nat.lt_succ_self _)⟩
      else none
  | _ => none

/-- `[^a-z_0-9]+`, as many characters as there are, with one hyphen put for them. -/
def droppedRun : (text : List Char) → Option (Match text)
  | c :: rest =>
      if KeptInSlug c then none
      else some ⟨['-'], rest.dropWhile (¬ KeptInSlug ·),
        Nat.lt_succ_of_le (List.dropWhile_sublist _).length_le⟩
  | [] => none

theorem isBoundary_iff {a b : Char} : (a.isLower && b.isUpper) = true ↔ IsBoundary a b := by
  rw [Bool.and_eq_true, isLower_iff, isUpper_iff, IsBoundary]

theorem splitCamel_eq_replaceAll (text : List Char) :
    splitCamel text = replaceAll camelBoundary text := by
  induction text using word_induction with
  | nil => rw [splitCamel_nil, replaceAll_nil]
  | single a => rw [splitCamel_singleton, replaceAll_of_no_match rfl, replaceAll_nil]
  | boundary a b rest boundary ih =>
      have matched : camelBoundary (a :: b :: rest) = some ⟨[a, '-', b], rest, _⟩ :=
        if_pos (isBoundary_iff.mp boundary)
      rw [splitCamel_of_boundary boundary, replaceAll_of_match matched, ih]
      rfl
  | joined a b rest joined ih =>
      have unmatched : camelBoundary (a :: b :: rest) = none :=
        if_neg (mt isBoundary_iff.mpr joined)
      rw [splitCamel_of_joined joined, replaceAll_of_no_match unmatched, ih]

theorem hyphenateFrom_true (text : List Char) :
    hyphenateFrom true text = hyphenateFrom false (text.dropWhile (¬ KeptInSlug ·)) := by
  induction text with
  | nil => rfl
  | cons c rest ih =>
      by_cases kept : KeptInSlug c
      · rw [List.dropWhile_cons_of_neg (by simpa using kept), hyphenateFrom, hyphenateFrom,
          if_pos (isSlugChar_iff.mpr kept), if_pos (isSlugChar_iff.mpr kept)]
      · rw [List.dropWhile_cons_of_pos (by simpa using kept), hyphenateFrom,
          if_neg (mt isSlugChar_iff.mp kept), if_pos rfl, ih]

theorem hyphenate_eq_replaceAll (text : List Char) :
    hyphenate text = replaceAll droppedRun text := by
  -- Along the matches: a whole run is passed in one step, as `hyphenateFrom_true` does.
  fun_induction replaceAll droppedRun text with
  | case1 => rfl
  | case2 c rest found matched ih =>
      by_cases kept : KeptInSlug c
      · rw [droppedRun, if_pos kept] at matched
        cases matched
      · rw [droppedRun, if_neg kept] at matched
        cases matched
        rw [hyphenate, hyphenateFrom, if_neg (mt isSlugChar_iff.mp kept), if_neg (by simp),
          hyphenateFrom_true]
        exact congrArg (List.cons '-') ih
  | case3 c rest unmatched ih =>
      by_cases kept : KeptInSlug c
      · rw [hyphenate, hyphenateFrom, if_pos (isSlugChar_iff.mpr kept)]
        exact congrArg (List.cons c) ih
      · rw [droppedRun, if_neg kept] at unmatched
        cases unmatched

/-- The hyphen before a character that begins a word, given the character in front of it. -/
def hyphenBefore (before : Option Char) (c : Char) : List Char :=
  match before with
  | some a => if IsBoundary a c then ['-'] else []
  | none => []

/-- The rest of a text with its words of camel case parted. -/
def partedAfter (before : Option Char) : List Char → List Char
  | [] => []
  | c :: rest => hyphenBefore before c ++ c :: partedAfter (some c) rest

theorem lowered_hyphenBefore (before : Option Char) (c : Char) :
    (hyphenBefore before c).flatMap lowerChar = hyphenBefore before c := by
  unfold hyphenBefore
  split
  · split <;> rfl
  · rfl

theorem hyphenBefore_of_not_lower {a c : Char} (notLower : a.isLower = false) :
    hyphenBefore (some a) c = [] := by
  have noBoundary : ¬ IsBoundary a c := by
    rw [← isBoundary_iff, notLower]
    simp
  rw [hyphenBefore, if_neg noBoundary]

/-- The capital that a boundary takes along begins no word with the character behind it. -/
theorem splitCamel_eq_partedAfter (text : List Char) (before : Option Char)
    (apart : ∀ c ∈ text.head?, hyphenBefore before c = []) :
    splitCamel text = partedAfter before text := by
  -- `before` changes along the text, and behind a boundary it is the capital taken along.
  induction text using word_induction generalizing before with
  | nil => rfl
  | single a =>
      rw [partedAfter, apart a rfl]
      rfl
  | boundary a b rest boundary ih =>
      have notLower : b.isLower = false := by
        rw [Bool.eq_false_iff]
        intro lower
        rw [isUpper_of_isLower lower, Bool.and_false] at boundary
        cases boundary
      have parted : hyphenBefore (some a) b = ['-'] := if_pos (isBoundary_iff.mp boundary)
      rw [splitCamel_of_boundary boundary, partedAfter, partedAfter, apart a rfl, parted,
        ih (some b) (fun c _ => hyphenBefore_of_not_lower notLower)]
      rfl
  | joined a b rest joined ih =>
      have together : hyphenBefore (some a) b = [] := if_neg (mt isBoundary_iff.mpr joined)
      have later : ∀ c ∈ (b :: rest).head?, hyphenBefore (some a) c = [] := by
        rintro c ⟨⟩
        exact together
      rw [splitCamel_of_joined joined, partedAfter, apart a rfl, ih (some a) later]
      rfl

/-- How far a pass has come: the character of the title that was read last, and what has been
written, the last character first. -/
structure Scan where
  before : Option Char
  written : List Char

namespace Scan

/-- Writes a lowered character, or the hyphen for it unless a hyphen was written last. -/
def write (written : List Char) (c : Char) : List Char :=
  if KeptInSlug c then c :: written
  else if written.head? = some '-' then written
  else '-' :: written

/-- Reads one character of the title. -/
def read (scan : Scan) (c : Char) : Scan where
  before := some c
  written := (lowerChar c).foldl write (hyphenBefore scan.before c ++ scan.written)

/-- What a pass over a title writes. -/
def slug (title : List Char) : List Char :=
  (title.foldl read ⟨none, []⟩).written.reverse

/-- What is written once the rest of the lowered text has been hyphenated. -/
def settled (written rest : List Char) : List Char :=
  written.reverse ++ hyphenateFrom (written.head? == some '-') rest

theorem settled_write (written : List Char) (c : Char) (rest : List Char) :
    settled (write written c) rest = settled written (c :: rest) := by
  unfold settled write
  by_cases kept : KeptInSlug c
  · have notHyphen : (c == '-') = false :=
      beq_false_of_ne (ne_hyphen_of_isSlugChar (isSlugChar_iff.mpr kept))
    rw [if_pos kept, hyphenateFrom, if_pos (isSlugChar_iff.mpr kept)]
    simp [notHyphen]
  · rw [if_neg kept, hyphenateFrom, if_neg (mt isSlugChar_iff.mp kept)]
    by_cases inRun : written.head? = some '-' <;> simp [inRun]

theorem settled_foldl_write (written text rest : List Char) :
    settled (text.foldl write written) rest = settled written (text ++ rest) := by
  induction text generalizing written with
  | nil => rfl
  | cons c text ih => rw [List.foldl_cons, ih, settled_write, List.cons_append]

/-- A small letter that was read last was written last. -/
def Steady (scan : Scan) : Prop :=
  ∀ a ∈ scan.before, a.isLower = true → scan.written.head? = some a

theorem steady_read (scan : Scan) (c : Char) : (scan.read c).Steady := by
  rintro a ⟨⟩ lower
  rw [read, lowerChar_of_isLower lower, List.foldl_cons, List.foldl_nil, write,
    if_pos (keptInSlug_of_isLower lower), List.head?_cons]

/-- Where a word begins the letter before it was written last, so that its hyphen is no second
one. -/
theorem settled_hyphenBefore {scan : Scan} (steady : scan.Steady) (c : Char)
    (rest : List Char) :
    settled (hyphenBefore scan.before c ++ scan.written) rest =
      settled scan.written (hyphenBefore scan.before c ++ rest) := by
  cases last : scan.before with
  | none => rfl
  | some a =>
      by_cases boundary : IsBoundary a c
      · have lower : a.isLower = true := isLower_iff.mpr boundary.1
        have kept : isSlugChar a = true := isSlugChar_iff.mpr (keptInSlug_of_isLower lower)
        have notHyphen : (some a == some '-') = false := by
          simpa using ne_hyphen_of_isSlugChar kept
        have parted : hyphenBefore (some a) c = ['-'] := if_pos boundary
        rw [parted, List.singleton_append, List.singleton_append, settled, settled,
          steady a last lower, notHyphen, hyphenateFrom]
        simp [isSlugChar]
      · have together : hyphenBefore (some a) c = [] := if_neg boundary
        rw [together, List.nil_append, List.nil_append]

theorem settled_read {scan : Scan} (steady : scan.Steady) (c : Char) (rest : List Char) :
    settled (scan.read c).written rest =
      settled scan.written (hyphenBefore scan.before c ++ (lowerChar c ++ rest)) := by
  rw [read, settled_foldl_write, settled_hyphenBefore steady]

theorem settled_foldl_read {scan : Scan} (steady : scan.Steady) (title : List Char) :
    settled (title.foldl read scan).written [] =
      settled scan.written ((partedAfter scan.before title).flatMap lowerChar) := by
  induction title generalizing scan with
  | nil => rfl
  | cons c rest ih =>
      rw [List.foldl_cons, ih (steady_read scan c), settled_read steady, partedAfter,
        List.flatMap_append, List.flatMap_cons, lowered_hyphenBefore]
      rfl

end Scan

theorem slugChars_eq_scan (title : List Char) : slugChars title = Scan.slug title := by
  have steady : (⟨none, []⟩ : Scan).Steady := by simp [Scan.Steady]
  have run := Scan.settled_foldl_read steady title
  rw [Scan.settled, hyphenateFrom, List.append_nil] at run
  rw [slugChars_eq, splitCamel_eq_partedAfter title none (fun _ _ => rfl), Scan.slug, run]
  rfl

/-- The slug of a title is what the three rewritings make of it, and what one pass from left to
right writes. -/
theorem slug_in_one_pass (title : String) :
    slug title = String.ofList (replaceAll droppedRun (lowercase
      (String.ofList (replaceAll camelBoundary title.toList))).toList) ∧
    slug title = String.ofList (Scan.slug title.toList) := by
  constructor
  · rw [lowercase, String.toList_ofList, String.toList_ofList, ← splitCamel_eq_replaceAll,
      ← hyphenate_eq_replaceAll]
    rfl
  · rw [slug, slugChars_eq_scan]

example : Scan.slug "aBcDeF (\u212aB)".toList = "a-bc-de-f-kb-".toList := by decide

end DraftBoard.Title
