import DraftBoard.Text.Split
import Mathlib.Data.List.DropRight

/-!
# Laws of cutting

A mark between two texts separates their pieces, and a text without the mark is
one piece.
-/

namespace DraftBoard.Text

theorem forall_mem_of_all {test : Char → Prop} [DecidablePred test] {text : List Char}
    (passed : text.all (test ·) = true) : ∀ c ∈ text, test c := by
  intro c member
  exact of_decide_eq_true (List.all_eq_true.mp passed c member)

/-- What is dropped from the end of a text depends on nothing in front of what stays. -/
theorem rdropWhile_append {test : Char → Bool} {front : List Char}
    (stops : front.rdropWhile test = front) (text : List Char) :
    (front ++ text).rdropWhile test = front ++ text.rdropWhile test := by
  induction text using List.reverseRecOn with
  | nil => rw [List.rdropWhile_nil, List.append_nil, stops]
  | append_singleton text c ih =>
      rw [← List.append_assoc, List.rdropWhile_concat, List.rdropWhile_concat, ih]
      split
      · rfl
      · exact List.append_assoc ..

variable {mark : Char}

theorem splitAtMark_ne_nil (mark : Char) (text : List Char) :
    splitAtMark mark text ≠ [] := by
  cases text with
  | nil => simp [splitAtMark]
  | cons c rest =>
      rw [splitAtMark]
      split
      · simp
      · split <;> simp

theorem splitAtMark_cons_of_ne {c : Char} (different : c ≠ mark) {rest : List Char}
    {first : List Char} {others : List (List Char)}
    (pieces : splitAtMark mark rest = first :: others) :
    splitAtMark mark (c :: rest) = (c :: first) :: others := by
  rw [splitAtMark, if_neg different, pieces]

theorem splitAtMark_append_mark (mark : Char) (left right : List Char) :
    splitAtMark mark (left ++ mark :: right) =
      splitAtMark mark left ++ splitAtMark mark right := by
  induction left with
  | nil => simp [splitAtMark]
  | cons c rest ih =>
      by_cases same : c = mark
      · simp [splitAtMark, same, ih]
      · obtain ⟨first, others, pieces⟩ :=
          List.exists_cons_of_ne_nil (splitAtMark_ne_nil mark rest)
        have joined : splitAtMark mark (rest ++ mark :: right) =
            first :: (others ++ splitAtMark mark right) := by
          rw [ih, pieces, List.cons_append]
        rw [List.cons_append, splitAtMark_cons_of_ne same joined,
          splitAtMark_cons_of_ne same pieces, List.cons_append]

theorem splitAtMark_append_of_cut {left first : List Char} {others : List (List Char)}
    (pieces : splitAtMark mark left = first :: others) (right : List Char) :
    splitAtMark mark (left ++ mark :: right) =
      first :: (others ++ splitAtMark mark right) := by
  rw [splitAtMark_append_mark, pieces, List.cons_append]

theorem splitAtMark_of_not_mem {text : List Char} (absent : mark ∉ text) :
    splitAtMark mark text = [text] := by
  induction text with
  | nil => rfl
  | cons c rest ih =>
      rw [List.mem_cons, not_or] at absent
      exact splitAtMark_cons_of_ne (Ne.symm absent.1) (ih absent.2)

/-- Pieces that are joined with the mark are cut again. -/
theorem splitAtMark_intercalate {first : List Char} {others : List (List Char)}
    (unmarked : ∀ piece ∈ first :: others, mark ∉ piece) :
    splitAtMark mark ([mark].intercalate (first :: others)) = first :: others := by
  induction others generalizing first with
  | nil =>
      have alone : [mark].intercalate [first] = first := by simp [List.intercalate]
      rw [alone, splitAtMark_of_not_mem (unmarked first List.mem_cons_self)]
  | cons second others ih =>
      have joined : [mark].intercalate (first :: second :: others) =
          first ++ mark :: [mark].intercalate (second :: others) := by
        simp [List.intercalate]
      rw [joined, splitAtMark_append_mark,
        splitAtMark_of_not_mem (unmarked first List.mem_cons_self),
        ih fun piece member => unmarked piece (List.mem_cons_of_mem _ member)]
      rfl

/-- The last piece is empty only behind a mark or where there is no text. -/
theorem splitAtMark_getLast? {text : List Char} (nonempty : text ≠ [])
    (unmarked : text.getLast? ≠ some mark) :
    ∃ last, (splitAtMark mark text).getLast? = some last ∧ last ≠ [] := by
  induction text with
  | nil => exact absurd rfl nonempty
  | cons c rest ih =>
      by_cases alone : rest = []
      · subst rest
        have different : c ≠ mark := by simpa using unmarked
        exact ⟨[c], by simp [splitAtMark, different], by simp⟩
      · have unmarkedRest : rest.getLast? ≠ some mark := by
          rwa [List.getLast?_cons_of_ne_nil alone] at unmarked
        obtain ⟨last, found, named⟩ := ih alone unmarkedRest
        obtain ⟨first, others, pieces⟩ :=
          List.exists_cons_of_ne_nil (splitAtMark_ne_nil mark rest)
        rw [pieces] at found
        by_cases same : c = mark
        · refine ⟨last, ?_, named⟩
          rw [splitAtMark, if_pos same, pieces, List.getLast?_cons_cons, found]
        · rw [splitAtMark_cons_of_ne same pieces]
          cases others with
          | nil => exact ⟨c :: first, rfl, by simp⟩
          | cons second others => exact ⟨last, found, named⟩

theorem flatMap_splitAtMark (mark : Char) (text : List Char) :
    (splitAtMark mark text).flatMap (fun piece => mark :: piece) = mark :: text := by
  induction text with
  | nil => rfl
  | cons c rest ih =>
      by_cases same : c = mark
      · rw [splitAtMark, if_pos same, List.flatMap_cons, ih, same]
        rfl
      · obtain ⟨first, others, pieces⟩ :=
          List.exists_cons_of_ne_nil (splitAtMark_ne_nil mark rest)
        rw [pieces, List.flatMap_cons, List.cons_append] at ih
        rw [splitAtMark_cons_of_ne same pieces, List.flatMap_cons, List.cons_append,
          List.cons_append, (List.cons.inj ih).2]

theorem mem_of_mem_splitAtMark {text piece : List Char} (member : piece ∈ splitAtMark mark text)
    {c : Char} (inside : c ∈ piece) : c ∈ text := by
  induction text generalizing piece with
  | nil =>
      rw [splitAtMark, List.mem_singleton] at member
      subst member
      exact inside
  | cons d rest ih =>
      by_cases same : d = mark
      · rw [splitAtMark, if_pos same] at member
        rcases List.mem_cons.mp member with rfl | later
        · cases inside
        · exact List.mem_cons_of_mem _ (ih later inside)
      · obtain ⟨first, others, pieces⟩ :=
          List.exists_cons_of_ne_nil (splitAtMark_ne_nil mark rest)
        rw [splitAtMark_cons_of_ne same pieces] at member
        rcases List.mem_cons.mp member with rfl | later
        · rcases List.mem_cons.mp inside with rfl | behind
          · exact List.mem_cons_self
          · refine List.mem_cons_of_mem _ (ih ?_ behind)
            rw [pieces]
            exact List.mem_cons_self
        · refine List.mem_cons_of_mem _ (ih ?_ inside)
          rw [pieces]
          exact List.mem_cons_of_mem _ later

theorem not_mem_of_mem_splitAtMark {text piece : List Char}
    (member : piece ∈ splitAtMark mark text) : mark ∉ piece := by
  induction text generalizing piece with
  | nil =>
      rw [splitAtMark, List.mem_singleton] at member
      subst member
      exact List.not_mem_nil
  | cons c rest ih =>
      by_cases same : c = mark
      · rw [splitAtMark, if_pos same] at member
        rcases List.mem_cons.mp member with rfl | later
        · exact List.not_mem_nil
        · exact ih later
      · obtain ⟨first, others, pieces⟩ :=
          List.exists_cons_of_ne_nil (splitAtMark_ne_nil mark rest)
        rw [splitAtMark_cons_of_ne same pieces] at member
        rw [pieces] at ih
        rcases List.mem_cons.mp member with rfl | later
        · rw [List.mem_cons, not_or]
          exact ⟨Ne.symm same, ih List.mem_cons_self⟩
        · exact ih (List.mem_cons_of_mem _ later)

theorem cutBefore_append {test : Char → Bool} {left right : List Char}
    (passed : ∀ c ∈ left, test c = false) (stops : ∀ c, right.head? = some c → test c = true) :
    cutBefore test (left ++ right) = (left, right) := by
  induction left with
  | nil =>
      cases right with
      | nil => rfl
      | cons c right => simp [cutBefore, stops c rfl]
  | cons c left ih =>
      have first := passed c List.mem_cons_self
      have others := ih fun d member => passed d (List.mem_cons_of_mem _ member)
      rw [cutBefore, Prod.mk.injEq] at others
      simp [cutBefore, first, others]

end DraftBoard.Text
