import DraftBoard.Json.Bytes
import DraftBoard.Proofs.Json.Loops
import DraftBoard.Proofs.Json.Tokens

/-!
# Readers at a gap

Nothing that is kept goes past a gap: the readers stop in front of it or fail.  A string that is
passed over may have any gaps.
-/

namespace DraftBoard.Json

variable {α σ : Type} {behind text rest : List Char}

/-- Whatever a reader reads of a text, it leaves a gap and all that is behind it. -/
def StopsAtGaps (reader : Reader α) : Prop :=
  ∀ {behind text rest : List Char} {result : α}, gapMark ++ behind <:+ text →
    reader text = .ok (result, rest) → gapMark ++ behind <:+ rest

theorem gap_of_cons {c : Char} (other : c ≠ Text.replacement)
    (gap : gapMark ++ behind <:+ c :: text) : gapMark ++ behind <:+ text := by
  rcases List.suffix_cons_iff.mp gap with same | further
  · exact absurd (List.cons.inj same).1.symm other
  · exact further

theorem gap_dropWhile {test : Char → Bool} (stops : test Text.replacement = false)
    (gap : gapMark ++ behind <:+ text) : gapMark ++ behind <:+ text.dropWhile test := by
  induction text with
  | nil => exact gap
  | cons c text ih =>
      rw [List.dropWhile_cons]
      split
      · next passed =>
          refine ih (gap_of_cons ?_ gap)
          rintro rfl
          rw [stops] at passed
          cases passed
      · exact gap

theorem gap_skipBlank (gap : gapMark ++ behind <:+ text) : gapMark ++ behind <:+ skipBlank text :=
  gap_dropWhile rfl gap

theorem gap_of_begins {c : Char} {start : List Char} (other : c ≠ Text.replacement)
    (begins : skipBlank text = c :: start) (gap : gapMark ++ behind <:+ text) :
    gapMark ++ behind <:+ start := by
  have visible := gap_skipBlank gap
  rw [begins] at visible
  exact gap_of_cons other visible

theorem gap_of_expectChar {expected : Char} (other : expected ≠ Text.replacement)
    (gap : gapMark ++ behind <:+ text) (passed : expectChar expected text = .ok rest) :
    gapMark ++ behind <:+ rest := by
  unfold expectChar at passed
  split at passed
  · cases passed
  · next c start begins =>
      split at passed
      · next same =>
          subst same
          cases passed
          exact gap_of_begins other begins gap
      · cases passed

theorem gap_of_expectWord {word : List Char} (letters : Text.replacement ∉ word)
    (gap : gapMark ++ behind <:+ text) (passed : expectWord word text = .ok rest) :
    gapMark ++ behind <:+ rest := by
  induction word generalizing text with
  | nil =>
      cases passed
      exact gap
  | cons letter word ih =>
      obtain ⟨other, others⟩ := List.ne_and_not_mem_of_not_mem_cons letters
      cases text with
      | nil => cases passed
      | cons c text =>
          rw [expectWord] at passed
          split at passed
          · next same =>
              subst same
              exact ih others (gap_of_cons other.symm gap) passed
          · cases passed

theorem readDigits_stops (mode : Mode) : StopsAtGaps (readDigits mode) := by
  intro behind text rest digits gap read
  unfold readDigits at read
  split at read
  · cases read
  · cases read
    exact gap_dropWhile rfl gap

theorem readWhole_stops (mode : Mode) : StopsAtGaps (readWhole mode) := by
  intro behind text rest digits gap read
  unfold readWhole at read
  split at read
  · have further := gap_of_cons (by decide) gap
    split at read
    · split at read
      · cases read
      · cases read
        exact further
    · cases read
      exact further
  · exact readDigits_stops mode gap read

theorem readFraction_stops (mode : Mode) : StopsAtGaps (readFraction mode) := by
  intro behind text rest fraction gap read
  unfold readFraction at read
  split at read
  · obtain ⟨⟨digits, left⟩, digitsRead, same⟩ := bind_eq_ok.mp read
    cases same
    exact readDigits_stops mode (gap_of_cons (by decide) gap) digitsRead
  · cases read
    exact gap

theorem gap_readSign (gap : gapMark ++ behind <:+ text) :
    gapMark ++ behind <:+ (readSign text).2 := by
  unfold readSign
  split
  · exact gap_of_cons (by decide) gap
  · exact gap_of_cons (by decide) gap
  · exact gap

theorem readExponent_stops (mode : Mode) : StopsAtGaps (readExponent mode) := by
  intro behind text rest exponent gap read
  unfold readExponent at read
  split at read
  · next c start =>
      split at read
      · next marked =>
          have other : c ≠ Text.replacement := by
            rcases marked with rfl | rfl <;> decide
          obtain ⟨⟨digits, left⟩, digitsRead, same⟩ := bind_eq_ok.mp read
          cases same
          exact readDigits_stops mode (gap_readSign (gap_of_cons other gap)) digitsRead
      · cases read
        exact gap
  · cases read
    exact gap

theorem readNumber_stops (mode : Mode) (negative : Bool) :
    StopsAtGaps (readNumber mode negative) := by
  intro behind text rest number gap read
  obtain ⟨⟨literal, left⟩, literalRead, read⟩ := bind_eq_ok.mp read
  obtain ⟨⟨whole, first⟩, wholeRead, literalRead⟩ := bind_eq_ok.mp literalRead
  obtain ⟨⟨fraction, second⟩, fractionRead, literalRead⟩ := bind_eq_ok.mp literalRead
  obtain ⟨⟨exponent, third⟩, exponentRead, same⟩ := bind_eq_ok.mp literalRead
  cases same
  have further := readExponent_stops mode
    (readFraction_stops mode (readWhole_stops mode gap wholeRead) fractionRead) exponentRead
  simp only at read
  split at read
  · cases read
    exact further
  · cases read
    exact further
  · cases read

theorem readStringFrom_keep_gap (state : StringState) (done rest : List Char) :
    readStringFrom .keep state done (gapMark ++ rest) = .error .malformed := by
  have noDigit : Text.hexValue? Text.replacement = none := by decide
  cases state with
  | plain =>
      have lone : readStringFrom .keep .escape (Text.replacement :: done)
          ('u' :: 'd' :: 'c' :: '0' :: '0' :: rest) = .error .malformed := by
        rw [readStringFrom, if_pos rfl, enterNumbered, fourBytesLeft_of_length (by simp)]
        rfl
      rw [gapMark, List.cons_append, readStringFrom]
      exact lone
  | escape => rfl
  | numbered value due high =>
      rw [gapMark, List.cons_append, readStringFrom, noDigit]
  | pairBackslash high => rfl
  | pairLetter high => rfl

theorem readStringFrom_skip_gap (done rest : List Char) :
    readStringFrom .skip .plain done (gapMark ++ rest) =
      readStringFrom .skip .plain (Text.replacement :: done) rest := by
  have passed : readStringFrom .skip .escape (Text.replacement :: done)
      ('u' :: 'd' :: 'c' :: '0' :: '0' :: rest) =
        readStringFrom .skip .plain (Text.replacement :: done) rest := by
    rw [readStringFrom, if_pos rfl, enterNumbered, fourBytesLeft_of_length (by simp)]
    rfl
  rw [gapMark, List.cons_append, readStringFrom]
  exact passed

theorem StringRun.gap {state : StringState} {done chars : List Char}
    (run : StringRun .keep state done text chars rest) (gap : gapMark ++ behind <:+ text) :
    gapMark ++ behind <:+ rest := by
  induction run with
  | ends => exact gap_of_cons (by decide) gap
  | @reads state _ done _ _ _ _ _ step others ih =>
      rcases List.suffix_cons_iff.mp gap with same | further
      · have read := readStringFrom_iff.mpr (.reads step others)
        rw [← same, readStringFrom_keep_gap] at read
        cases read
      · exact ih further

theorem readString_stops : StopsAtGaps (readString .keep) := by
  intro behind text rest string gap read
  obtain ⟨⟨chars, left⟩, charsRead, same⟩ := bind_eq_ok.mp read
  cases same
  exact (readStringFrom_iff.mp charsRead).gap gap

theorem gap_of_nextItem {first : Bool} {start : List Char} (gap : gapMark ++ behind <:+ text)
    (next : nextItem first text = .ok (some start)) : gapMark ++ behind <:+ start := by
  have visible := gap_skipBlank gap
  unfold nextItem at next
  split at next
  · cases next
  · next c left begins =>
      rw [begins] at visible
      split at next
      · cases next
      split at next
      · cases next
        exact visible
      split at next
      · next comma =>
          subst comma
          have further := gap_skipBlank (gap_of_cons (by decide) visible)
          split at next
          · cases next
          · next d left begins =>
              rw [begins] at further
              split at next
              · cases next
              · cases next
                exact further
      · cases next

theorem gap_of_nextKey {first : Bool} {start : List Char} (gap : gapMark ++ behind <:+ text)
    (next : nextKey first text = .ok (some start)) : gapMark ++ behind <:+ start := by
  have visible := gap_skipBlank gap
  unfold nextKey at next
  split at next
  · cases next
  · next c left begins =>
      rw [begins] at visible
      split at next
      · cases next
      cases first with
      | true =>
          simp only [if_true, Bool.not_true, Bool.false_eq_true, false_and, if_false] at next
          split at next
          · next quote =>
              subst quote
              cases next
              exact gap_of_cons (by decide) visible
          · cases next
      | false =>
          simp only [Bool.false_eq_true, if_false, Bool.not_false, true_and] at next
          split at next
          · cases next
          · next comma =>
              obtain rfl := Decidable.not_not.mp comma
              have further := gap_skipBlank (gap_of_cons (by decide) visible)
              split at next
              · cases next
              · next d left begins =>
                  rw [begins] at further
                  split at next
                  · next quote =>
                      subst quote
                      cases next
                      exact gap_of_cons (by decide) further
                  · cases next

theorem ItemRun.gap {item : Reader α} (items : StopsAtGaps item) {first : Bool} {values : List α}
    (run : ItemRun item first text values rest) (gap : gapMark ++ behind <:+ text) :
    gapMark ++ behind <:+ rest := by
  induction run with
  | ends _ => exact gap
  | reads next one _ ih => exact ih (items (gap_of_nextItem gap next) one)

theorem sequence_stops {item : Reader α} (items : StopsAtGaps item) :
    StopsAtGaps (sequence item) := by
  intro behind text rest values gap read
  obtain ⟨left, _, run, bracket⟩ := sequence_iff.mp read
  exact gap_of_expectChar (by decide) (run.gap items gap) bracket

theorem EntryRun.gap {step : σ → String → Reader σ}
    (steps : ∀ state key, StopsAtGaps (step state key)) {first : Bool} {start final : σ}
    {keys : List String} (run : EntryRun .keep step first start text keys final rest)
    (gap : gapMark ++ behind <:+ text) : gapMark ++ behind <:+ rest := by
  induction run with
  | ends _ => exact gap
  | reads next named one _ ih =>
      exact ih (steps _ _ (readString_stops (gap_of_nextKey gap next) named) one)

theorem keyed_stops {step : σ → String → Reader σ}
    (steps : ∀ state key, StopsAtGaps (step state key)) (start : σ)
    (finish : σ → Except Problem α) : StopsAtGaps (keyed .keep step start finish) := by
  intro behind text rest result gap read
  obtain ⟨keys, final, left, _, run, _, brace⟩ := keyed_iff.mp read
  exact gap_of_expectChar (by decide) (run.gap steps gap) brace

theorem insertEntry_stops {item : Reader Json} (items : StopsAtGaps item) (before : Fields)
    (key : String) : StopsAtGaps (insertEntry item before key) := by
  intro behind text rest after gap read
  obtain ⟨start, found, colon, one, _⟩ := insertEntry_iff.mp read
  exact items (gap_of_expectChar (by decide) gap colon) one

theorem valueWith_stops {inner : Option (Reader Json)}
    (stops : ∀ item, inner = some item → StopsAtGaps item) :
    StopsAtGaps (valueWith .keep inner) := by
  intro behind text rest found gap read
  cases valueWith_iff.mp read with
  | null begins word =>
      exact gap_of_expectWord (by decide) (gap_of_begins (by decide) begins gap) word
  | true begins word =>
      exact gap_of_expectWord (by decide) (gap_of_begins (by decide) begins gap) word
  | false begins word =>
      exact gap_of_expectWord (by decide) (gap_of_begins (by decide) begins gap) word
  | string begins content =>
      exact readString_stops (gap_of_begins (by decide) begins gap) content
  | negative begins number =>
      exact readNumber_stops .keep true (gap_of_begins (by decide) begins gap) number
  | natural begins digit number =>
      have visible := gap_skipBlank gap
      rw [begins] at visible
      exact readNumber_stops .keep false visible number
  | array isInner begins items =>
      exact sequence_stops (stops _ isInner) (gap_of_begins (by decide) begins gap) items
  | object isInner begins entries =>
      exact keyed_stops (insertEntry_stops (stops _ isInner)) [] .ok
        (gap_of_begins (by decide) begins gap) entries

theorem value_stops (depth : Nat) : StopsAtGaps (value .keep depth) := by
  induction depth with
  | zero =>
      refine valueWith_stops ?_
      intro item same
      cases same
  | succ depth ih =>
      refine valueWith_stops ?_
      intro item same
      cases same
      exact ih

end DraftBoard.Json
