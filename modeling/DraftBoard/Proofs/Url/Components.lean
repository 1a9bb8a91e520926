import DraftBoard.Proofs.Text.Percent
import DraftBoard.Proofs.Title.Marks
import DraftBoard.Proofs.Url.Sites

/-!
# Components in URLs

An encoded component is a plain segment and a plain query.  Only the texts `.` and
`..` are encoded as segments that mean a directory.
-/

namespace DraftBoard.Url

open Text

/-- The two ways to write a dot, up to the case of letters. -/
def IsWrittenDot (text : List Char) : Prop :=
  text.map Char.toLower = ['.'] ∨ text.map Char.toLower = ['%', '2', 'e']

theorem percentDecode_of_isWrittenDot {text : List Char} (dot : IsWrittenDot text)
    (rest : List Char) : percentDecode (text ++ rest) = 46 :: percentDecode rest := by
  rcases dot with plain | encoded
  · obtain ⟨c, others, rfl, lowered, nothing⟩ := List.map_eq_cons_iff.mp plain
    obtain rfl := List.map_eq_nil_iff.mp nothing
    obtain rfl := Title.eq_of_toLower_eq lowered (by decide)
    exact percentDecode_cons (by decide) rest
  · obtain ⟨percent, digits, rfl, percentLowered, digitsLowered⟩ :=
      List.map_eq_cons_iff.mp encoded
    obtain ⟨two, letters, rfl, twoLowered, lettersLowered⟩ :=
      List.map_eq_cons_iff.mp digitsLowered
    obtain ⟨letter, others, rfl, letterLowered, nothing⟩ :=
      List.map_eq_cons_iff.mp lettersLowered
    obtain rfl := Title.eq_of_toLower_eq percentLowered (by decide)
    obtain rfl := Title.eq_of_toLower_eq twoLowered (by decide)
    obtain rfl := List.map_eq_nil_iff.mp nothing
    have letter :=
      Title.eq_or_eq_of_toLower_eq letterLowered (rfl : 'E'.toNat + 32 = 'e'.toNat)
    rcases letter with rfl | rfl <;> rfl

theorem componentText?_of_isDot {segment : List Char} (dot : isDot segment = true) :
    componentText? segment = some "." := by
  have written : IsWrittenDot segment := by
    simpa [isDot, IsWrittenDot] using dot
  have decoded := percentDecode_of_isWrittenDot written []
  rw [List.append_nil] at decoded
  rw [componentText?, decoded]
  exact (congrArg String.fromUTF8? (toUTF8_eq ".")).trans (fromUTF8?_toUTF8 ".")

theorem componentText?_of_isDoubleDot {segment : List Char}
    (dots : isDoubleDot segment = true) : componentText? segment = some ".." := by
  have parts : ∃ first second, segment.map Char.toLower = first ++ second ∧
      (first = ['.'] ∨ first = ['%', '2', 'e']) ∧
      (second = ['.'] ∨ second = ['%', '2', 'e']) := by
    simp only [isDoubleDot, Bool.or_eq_true, beq_iff_eq] at dots
    rcases dots with ((dots | dots) | dots) | dots
    · exact ⟨['.'], ['.'], dots, Or.inl rfl, Or.inl rfl⟩
    · exact ⟨['.'], ['%', '2', 'e'], dots, Or.inl rfl, Or.inr rfl⟩
    · exact ⟨['%', '2', 'e'], ['.'], dots, Or.inr rfl, Or.inl rfl⟩
    · exact ⟨['%', '2', 'e'], ['%', '2', 'e'], dots, Or.inr rfl, Or.inr rfl⟩
  have written : ∃ left right, segment = left ++ right ∧ IsWrittenDot left ∧
      IsWrittenDot right := by
    obtain ⟨first, second, lowered, firstDot, secondDot⟩ := parts
    obtain ⟨left, right, split, leftLowered, rightLowered⟩ := List.map_eq_append_iff.mp lowered
    refine ⟨left, right, split, ?_, ?_⟩
    · rw [IsWrittenDot, leftLowered]
      exact firstDot
    · rw [IsWrittenDot, rightLowered]
      exact secondDot
  obtain ⟨left, right, rfl, leftDot, rightDot⟩ := written
  have decoded := percentDecode_of_isWrittenDot rightDot []
  rw [List.append_nil] at decoded
  rw [componentText?, percentDecode_of_isWrittenDot leftDot, decoded]
  exact (congrArg String.fromUTF8? (toUTF8_eq "..")).trans (fromUTF8?_toUTF8 "..")

theorem isDot_urlComponent {text : String} (named : text ≠ ".") :
    isDot (urlComponent text).toList = false := by
  rw [Bool.eq_false_iff]
  intro dot
  have decoded := componentText?_of_isDot dot
  rw [componentText?_urlComponent] at decoded
  exact named (Option.some.inj decoded)

theorem isDoubleDot_urlComponent {text : String} (named : text ≠ "..") :
    isDoubleDot (urlComponent text).toList = false := by
  rw [Bool.eq_false_iff]
  intro dots
  have decoded := componentText?_of_isDoubleDot dots
  rw [componentText?_urlComponent] at decoded
  exact named (Option.some.inj decoded)

theorem ascii_of_unreserved {c : Char} (kept : unreserved c = true) : c.toNat < 128 := by
  delta unreserved Char.isAlphanum Char.isAlpha Char.isUpper Char.isLower Char.isDigit at kept
  simp only [Bool.or_eq_true, Bool.and_eq_true, decide_eq_true_eq, beq_iff_eq, ge_iff_le,
    UInt32.le_iff_toNat_le] at kept
  rcases kept with (((((upper | lower) | digit) | rfl) | rfl) | rfl) | rfl
  · exact Nat.lt_of_le_of_lt upper.2 (by decide)
  · exact Nat.lt_of_le_of_lt lower.2 (by decide)
  · exact Nat.lt_of_le_of_lt digit.2 (by decide)
  all_goals decide

/-- What a component holds needs no encoding in a path or in a query. -/
theorem kept_of_unreserved {c : Char} (member : unreserved c = true ∨ c = '%') :
    keptInPath c = true ∧ keptInQuery c = true ∧ c ≠ '\\' ∧ c ≠ '/' := by
  rcases member with plain | rfl
  · have table : ∀ n, n < 128 → unreserved (Char.ofNat n) = true →
        keptInPath (Char.ofNat n) = true ∧ keptInQuery (Char.ofNat n) = true ∧
          Char.ofNat n ≠ '\\' ∧ Char.ofNat n ≠ '/' := by
      decide
    have found := table c.toNat (ascii_of_unreserved plain)
    rw [Char.ofNat_toNat] at found
    exact found plain
  · decide

theorem keptInQuery_urlComponent (text : String) :
    ∀ c ∈ (urlComponent text).toList, keptInQuery c = true := by
  intro c member
  exact (kept_of_unreserved (mem_urlComponent member)).2.1

/-- A straight directory with a component behind it. -/
theorem isStraight_component {directory : List Char} (straight : IsStraight directory)
    {text : String} (notDot : text ≠ ".") (notDoubleDot : text ≠ "..") :
    IsStraight (directory ++ '/' :: (urlComponent text).toList) where
  rooted := by
    rw [List.head?_append, straight.rooted]
    rfl
  kept := by
    intro c member
    rcases List.mem_append.mp member with above | named
    · exact straight.kept c above
    · rcases List.mem_cons.mp named with rfl | inside
      · decide
      · obtain ⟨inPath, _, notBackslash, _⟩ := kept_of_unreserved (mem_urlComponent inside)
        exact ⟨inPath, notBackslash⟩
  undotted := by
    have slashless : '/' ∉ (urlComponent text).toList := by
      intro member
      exact (kept_of_unreserved (mem_urlComponent member)).2.2.2 rfl
    obtain ⟨tail, rfl⟩ := List.head?_eq_some_iff.mp straight.rooted
    intro segment member
    rw [List.cons_append, List.drop_succ_cons, List.drop_zero, splitAtMark_append_mark,
      splitAtMark_of_not_mem slashless] at member
    rcases List.mem_append.mp member with above | last
    · exact straight.undotted segment above
    · rw [List.mem_singleton] at last
      subst last
      exact ⟨isDot_urlComponent notDot, isDoubleDot_urlComponent notDoubleDot⟩

end DraftBoard.Url
