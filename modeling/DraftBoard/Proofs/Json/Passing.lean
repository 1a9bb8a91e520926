import DraftBoard.Proofs.Json.Loops

/-!
# Passing over what can be read

A value that can be read can be passed over, up to the same place.  A reader that skips looks
at the grammar alone, and its levels of nesting do not run out: each of them costs a character
of the text.
-/

namespace DraftBoard.Json

variable {α β : Type}

/-- Whatever one reader reads of a text no longer than a bound, the other one reads as well, up
to the same place. -/
def Passes (bound : Nat) (reader : Reader α) (other : Reader β) : Prop :=
  ∀ {text rest : List Char} {a : α}, text.length ≤ bound → reader text = .ok (a, rest) →
    rest.length ≤ text.length ∧ ∃ b, other text = .ok (b, rest)

theorem length_skipBlank (text : List Char) : (skipBlank text).length ≤ text.length :=
  (List.dropWhile_sublist _).length_le

theorem length_expectWord {word text rest : List Char}
    (passed : expectWord word text = .ok rest) : rest.length ≤ text.length := by
  induction word generalizing text with
  | nil =>
      cases passed
      exact Nat.le_refl _
  | cons letter word ih =>
      cases text with
      | nil => cases passed
      | cons c text =>
          rw [expectWord] at passed
          split at passed
          · exact Nat.le_succ_of_le (ih passed)
          · cases passed

theorem length_expectChar {expected : Char} {text rest : List Char}
    (passed : expectChar expected text = .ok rest) : rest.length < text.length := by
  have blanks := length_skipBlank text
  unfold expectChar at passed
  split at passed
  · cases passed
  · next c behind visible =>
      rw [visible, List.length_cons] at blanks
      split at passed
      · cases passed
        omega
      · cases passed

theorem readDigits_passes (bound : Nat) : Passes bound (readDigits .keep) (readDigits .skip) := by
  intro text rest digits _ read
  unfold readDigits at read ⊢
  split at read
  · cases read
  · next digits some =>
      cases read
      exact ⟨(List.dropWhile_sublist _).length_le, _, rfl⟩

theorem readWhole_passes (bound : Nat) : Passes bound (readWhole .keep) (readWhole .skip) := by
  intro text rest digits short read
  unfold readWhole at read ⊢
  split at read
  · next behind =>
      refine ⟨?_, digits, read⟩
      split at read
      · split at read
        · cases read
        · cases read
          exact Nat.le_succ _
      · cases read
        exact Nat.le_succ _
  · exact readDigits_passes bound short read

theorem readFraction_passes (bound : Nat) :
    Passes bound (readFraction .keep) (readFraction .skip) := by
  intro text rest fraction short read
  unfold readFraction at read ⊢
  split at read
  · next behind =>
      obtain ⟨⟨digits, left⟩, digitsRead, same⟩ := bind_eq_ok.mp read
      cases same
      rw [List.length_cons] at short ⊢
      obtain ⟨shorter, others, passed⟩ := readDigits_passes bound (by omega) digitsRead
      exact ⟨by omega, _, bind_eq_ok.mpr ⟨_, passed, rfl⟩⟩
  · cases read
    exact ⟨Nat.le_refl _, _, rfl⟩

theorem length_readSign (text : List Char) : (readSign text).2.length ≤ text.length := by
  unfold readSign
  split
  · exact Nat.le_succ _
  · exact Nat.le_succ _
  · exact Nat.le_refl _

theorem readExponent_passes (bound : Nat) :
    Passes bound (readExponent .keep) (readExponent .skip) := by
  intro text rest exponent short read
  unfold readExponent at read ⊢
  split at read
  · next c behind =>
      by_cases marked : c = 'e' ∨ c = 'E'
      · rw [if_pos marked] at read ⊢
        have signed := length_readSign behind
        generalize readSign behind = sign at read signed ⊢
        obtain ⟨negative, start⟩ := sign
        obtain ⟨⟨digits, left⟩, digitsRead, same⟩ := bind_eq_ok.mp read
        cases same
        simp only [List.length_cons] at short signed ⊢
        obtain ⟨shorter, others, passed⟩ := readDigits_passes bound (by omega) digitsRead
        exact ⟨by omega, _, bind_eq_ok.mpr ⟨_, passed, rfl⟩⟩
      · rw [if_neg marked] at read ⊢
        cases read
        exact ⟨Nat.le_refl _, _, rfl⟩
  · cases read
    exact ⟨Nat.le_refl _, _, rfl⟩

theorem readNumberText_passes (bound : Nat) (negative : Bool) :
    Passes bound (readNumberText .keep negative) (readNumberText .skip negative) := by
  intro text rest literal short read
  obtain ⟨⟨whole, behind⟩, wholeRead, read⟩ := bind_eq_ok.mp read
  obtain ⟨⟨fraction, left⟩, fractionRead, read⟩ := bind_eq_ok.mp read
  obtain ⟨⟨exponent, last⟩, exponentRead, same⟩ := bind_eq_ok.mp read
  cases same
  obtain ⟨wholeShorter, _, wholePassed⟩ := readWhole_passes bound short wholeRead
  obtain ⟨fractionShorter, _, fractionPassed⟩ :=
    readFraction_passes bound (by omega) fractionRead
  obtain ⟨exponentShorter, _, exponentPassed⟩ :=
    readExponent_passes bound (by omega) exponentRead
  exact ⟨by omega, _, bind_eq_ok.mpr ⟨_, wholePassed, bind_eq_ok.mpr ⟨_, fractionPassed,
    bind_eq_ok.mpr ⟨_, exponentPassed, rfl⟩⟩⟩⟩

/-- A number that is passed over may be out of range, one that is read is not. -/
theorem readNumber_passes (bound : Nat) (negative : Bool) :
    Passes bound (readNumber .keep negative) (readNumber .skip negative) := by
  intro text rest number short read
  obtain ⟨⟨literal, behind⟩, literalRead, read⟩ := bind_eq_ok.mp read
  obtain ⟨shorter, other, passed⟩ := readNumberText_passes bound negative short literalRead
  simp only at read
  have left : behind = rest := by
    split at read
    · cases read
      rfl
    · next skips _ => cases skips
    · cases read
  subst left
  refine ⟨shorter, ?_⟩
  cases value : other.value? with
  | none => exact ⟨.integer 0, bind_eq_ok.mpr ⟨_, passed, by simp only [value]⟩⟩
  | some number => exact ⟨number, bind_eq_ok.mpr ⟨_, passed, by simp only [value]⟩⟩

/-- Where a reader that skips stands in a string that the other one reads: it does not wait for
the second half of a pair. -/
inductive StringState.SkippedAs : StringState → StringState → Prop where
  | plain : SkippedAs .plain .plain
  | escape : SkippedAs .escape .escape
  | numbered (value due : Nat) (high : Option Nat) :
      SkippedAs (.numbered value due high) (.numbered value due none)
  | pairBackslash (high : Nat) : SkippedAs (.pairBackslash high) .plain
  | pairLetter (high : Nat) : SkippedAs (.pairLetter high) .escape

theorem enterNumbered_skippedAs {high : Option Nat} {rest : List Char} {state : StringState}
    (entered : enterNumbered high rest = .ok state) :
    ∃ other, enterNumbered none rest = .ok other ∧ state.SkippedAs other := by
  unfold enterNumbered at entered ⊢
  split at entered
  · next long =>
      cases entered
      exact ⟨_, if_pos long, .numbered 0 4 high⟩
  · cases entered

theorem finishNumbered_skippedAs {value : Nat} {high : Option Nat} {read : Option Char}
    {state : StringState} (finished : finishNumbered .keep value high = .ok (read, state)) :
    ∃ readToo other, finishNumbered .skip value none = .ok (readToo, other) ∧
      state.SkippedAs other := by
  unfold finishNumbered at finished ⊢
  simp only [reduceCtorEq, and_false, if_false, and_true, if_true] at finished ⊢
  cases high with
  | some high =>
      simp only at finished
      split at finished
      · next second =>
          cases finished
          rw [if_neg (by omega)]
          exact ⟨_, _, rfl, .plain⟩
      · cases finished
  | none =>
      simp only at finished
      split at finished
      · next whole =>
          cases finished
          rw [if_pos whole]
          exact ⟨_, _, rfl, .plain⟩
      · next half =>
          rw [if_neg half]
          split at finished
          · cases finished
            exact ⟨_, _, rfl, .pairBackslash value⟩
          · cases finished

theorem StringStep.skippedAs {state other next : StringState} {text done doneToo : List Char}
    {c : Char} (step : StringStep .keep text done state c next doneToo)
    (same : state.SkippedAs other) (doneOther : List Char) :
    ∃ nextOther doneOtherToo, StringStep .skip text doneOther other c nextOther doneOtherToo ∧
      next.SkippedAs nextOther := by
  cases step with
  | backslash =>
      cases same
      exact ⟨_, _, .backslash, .escape⟩
  | plain notQuote notBackslash visible =>
      cases same
      exact ⟨_, _, .plain notQuote notBackslash visible, .plain⟩
  | numbered entered =>
      cases same
      obtain ⟨_, enteredToo, same⟩ := enterNumbered_skippedAs entered
      exact ⟨_, _, .numbered enteredToo, same⟩
  | short letter named =>
      cases same
      exact ⟨_, _, .short letter named, .plain⟩
  | digit hex more =>
      cases same
      exact ⟨_, _, .digit hex more, .numbered _ _ _⟩
  | last hex ended finished =>
      cases same
      obtain ⟨_, _, finishedToo, same⟩ := finishNumbered_skippedAs finished
      exact ⟨_, _, .last hex ended finishedToo, same⟩
  | pairBackslash =>
      cases same
      exact ⟨_, _, .backslash, .pairLetter _⟩
  | pairLetter entered =>
      cases same
      obtain ⟨_, enteredToo, same⟩ := enterNumbered_skippedAs entered
      exact ⟨_, _, .numbered enteredToo, same⟩

theorem StringRun.skippedAs {state other : StringState} {text done doneOther chars rest : List Char}
    (run : StringRun .keep state done text chars rest) (same : state.SkippedAs other) :
    rest.length ≤ text.length ∧
      ∃ charsOther, StringRun .skip other doneOther text charsOther rest := by
  induction run generalizing other doneOther with
  | ends =>
      cases same
      exact ⟨Nat.le_succ _, _, .ends⟩
  | reads step _ ih =>
      obtain ⟨_, _, stepOther, same⟩ := step.skippedAs same doneOther
      obtain ⟨shorter, charsOther, runOther⟩ := ih same
      exact ⟨Nat.le_succ_of_le shorter, charsOther, .reads stepOther runOther⟩

theorem readString_passes (bound : Nat) : Passes bound (readString .keep) (readString .skip) := by
  intro text rest string _ read
  obtain ⟨⟨chars, left⟩, charsRead, same⟩ := bind_eq_ok.mp read
  cases same
  obtain ⟨shorter, others, passed⟩ := (readStringFrom_iff.mp charsRead).skippedAs .plain
  exact ⟨shorter, _, bind_eq_ok.mpr ⟨_, readStringFrom_iff.mpr passed, rfl⟩⟩

/-- Every item but the first one costs a comma. -/
theorem length_nextItem {first : Bool} {text start : List Char}
    (next : nextItem first text = .ok (some start)) :
    start.length < text.length + first.toNat := by
  have blanks := length_skipBlank text
  unfold nextItem at next
  split at next
  · cases next
  · next c behind visible =>
      rw [visible, List.length_cons] at blanks
      have further := length_skipBlank behind
      split at next
      · cases next
      · split at next
        · next isFirst =>
            cases next
            rw [isFirst, Bool.toNat_true, List.length_cons]
            omega
        · split at next
          · split at next
            · cases next
            · next d left visibleToo =>
                rw [visibleToo] at further
                split at next
                · cases next
                · cases next
                  omega
          · cases next

theorem length_nextKey {first : Bool} {text start : List Char}
    (next : nextKey first text = .ok (some start)) : start.length ≤ text.length := by
  have blanks := length_skipBlank text
  unfold nextKey at next
  split at next
  · cases next
  · next c behind visible =>
      rw [visible, List.length_cons] at blanks
      have further := length_skipBlank behind
      split at next
      · cases next
      · simp only at next
        split at next
        · cases next
        · split at next
          · cases next
          · next d left due =>
              have short := congrArg List.length due
              rw [List.length_cons] at short
              split at next
              · cases next
                split at short
                · rw [List.length_cons] at short
                  omega
                · omega
              · cases next

theorem ItemRun.passes {bound : Nat} {item : Reader α} {other : Reader β}
    (items : Passes bound item other) {first : Bool} {text rest : List Char} {values : List α}
    (run : ItemRun item first text values rest) (short : text.length ≤ bound) :
    rest.length ≤ text.length ∧
      ∃ others, others.length = values.length ∧ ItemRun other first text others rest := by
  induction run with
  | ends next => exact ⟨Nat.le_refl _, [], rfl, .ends next⟩
  | @reads first _ _ _ _ _ _ next one _ ih =>
      have begins := length_nextItem next
      have comma := Bool.toNat_le first
      obtain ⟨shorter, value, oneToo⟩ := items (by omega) one
      obtain ⟨left, others, same, run⟩ := ih (by omega)
      exact ⟨by omega, value :: others, congrArg (· + 1) same, .reads next oneToo run⟩

/-- A sequence has no more items than its text has characters, so it is read in full. -/
theorem sequence_of_run {item : Reader α}
    (shrinks : ∀ {text rest value}, item text = .ok (value, rest) → rest.length ≤ text.length)
    {text behind rest : List Char} {values : List α} (run : ItemRun item true text values behind)
    (bracket : expectChar ']' behind = .ok rest) : sequence item text = .ok (values, rest) := by
  have costs : ∀ {first text values behind}, ItemRun item first text values behind →
      values.length + behind.length ≤ text.length + first.toNat := by
    intro first text values behind run
    induction run with
    | ends next =>
        rw [List.length_nil]
        omega
    | reads next one _ ih =>
        have begins := length_nextItem next
        have shorter := shrinks one
        rw [Bool.toNat_false] at ih
        rw [List.length_cons]
        omega
  have closing := length_expectChar bracket
  have enough := costs run
  rw [Bool.toNat_true] at enough
  exact sequence_iff.mpr ⟨behind, by omega, run, bracket⟩

theorem sequence_passes {bound : Nat} {item : Reader α} {other : Reader β}
    (items : Passes bound item other) : Passes bound (sequence item) (sequence other) := by
  intro text rest result short read
  obtain ⟨behind, enough, run, bracket⟩ := sequence_iff.mp read
  obtain ⟨shorter, others, same, runToo⟩ := run.passes items short
  have closing := length_expectChar bracket
  rw [← same] at enough
  exact ⟨by omega, others, sequence_iff.mpr ⟨behind, enough, runToo, bracket⟩⟩

theorem insertEntry_passes {bound : Nat} {item other : Reader Json}
    (items : Passes bound item other) (done doneToo : Fields) (key keyToo : String) :
    Passes bound (insertEntry item done key) (insertEntry other doneToo keyToo) := by
  intro text rest after short read
  obtain ⟨behind, value, colon, one, rfl⟩ := insertEntry_iff.mp read
  have passed := length_expectChar colon
  obtain ⟨shorter, other, oneToo⟩ := items (by omega) one
  exact ⟨by omega, _, insertEntry_iff.mpr ⟨behind, other, colon, oneToo, rfl⟩⟩

/-- The keys are passed over, too, and may come out as others. -/
theorem EntryRun.passes {bound : Nat} {item other : Reader Json}
    (items : Passes bound item other) {first : Bool} {done doneToo result : Fields}
    {text rest : List Char} {keys : List String}
    (run : EntryRun .keep (insertEntry item) first done text keys result rest)
    (short : text.length ≤ bound) :
    rest.length ≤ text.length ∧ ∃ keysToo resultToo, keysToo.length = keys.length ∧
      EntryRun .skip (insertEntry other) first doneToo text keysToo resultToo rest := by
  induction run generalizing doneToo with
  | ends next => exact ⟨Nat.le_refl _, [], doneToo, rfl, .ends next⟩
  | @reads _ done _ _ _ _ _ _ _ key _ next named one _ ih =>
      have begins := length_nextKey next
      obtain ⟨keyShorter, keyToo, namedToo⟩ := readString_passes bound (by omega) named
      obtain ⟨shorter, afterToo, oneToo⟩ :=
        insertEntry_passes items done doneToo key keyToo (by omega) one
      obtain ⟨left, keysToo, resultToo, same, run⟩ := ih (by omega)
      exact ⟨by omega, keyToo :: keysToo, resultToo, congrArg (· + 1) same,
        .reads next namedToo oneToo run⟩

theorem fields_passes {bound : Nat} {item other : Reader Json}
    (items : Passes bound item other) : Passes bound (fields .keep item) (fields .skip other) := by
  intro text rest result short read
  obtain ⟨keys, final, behind, enough, run, isFinished, brace⟩ := keyed_iff.mp read
  obtain ⟨shorter, keysToo, finalToo, same, runToo⟩ := run.passes items short
  have closing := length_expectChar brace
  rw [← same] at enough
  exact ⟨by omega, finalToo,
    keyed_iff.mpr ⟨keysToo, finalToo, behind, enough, runToo, rfl, brace⟩⟩

/-- One level of nesting is spent on a bracket, which is a character of the text. -/
theorem valueWith_passes {bound : Nat} {inner : Option (Reader Json)} {other : Reader Json}
    (passes : ∀ item, inner = some item → Passes bound item other) :
    Passes (bound + 1) (valueWith .keep inner) (valueWith .skip (some other)) := by
  intro text rest found short read
  have blanks := length_skipBlank text
  have run := valueWith_iff.mp read
  cases run with
  | null begins word =>
      rw [begins, List.length_cons] at blanks
      have shorter := length_expectWord word
      exact ⟨by omega, _, valueWith_iff.mpr (.null begins word)⟩
  | true begins word =>
      rw [begins, List.length_cons] at blanks
      have shorter := length_expectWord word
      exact ⟨by omega, _, valueWith_iff.mpr (.true begins word)⟩
  | false begins word =>
      rw [begins, List.length_cons] at blanks
      have shorter := length_expectWord word
      exact ⟨by omega, _, valueWith_iff.mpr (.false begins word)⟩
  | string begins content =>
      rw [begins, List.length_cons] at blanks
      obtain ⟨shorter, _, passed⟩ := readString_passes bound (by omega) content
      exact ⟨by omega, _, valueWith_iff.mpr (.string begins passed)⟩
  | negative begins number =>
      rw [begins, List.length_cons] at blanks
      obtain ⟨shorter, _, passed⟩ := readNumber_passes bound true (by omega) number
      exact ⟨by omega, _, valueWith_iff.mpr (.negative begins passed)⟩
  | natural begins digit number =>
      rw [begins] at blanks
      obtain ⟨shorter, _, passed⟩ := readNumber_passes (bound + 1) false (by omega) number
      exact ⟨by omega, _, valueWith_iff.mpr (.natural begins digit passed)⟩
  | array isInner begins items =>
      rw [begins, List.length_cons] at blanks
      obtain ⟨shorter, _, passed⟩ := sequence_passes (passes _ isInner) (by omega) items
      exact ⟨by omega, _, valueWith_iff.mpr (.array rfl begins passed)⟩
  | object isInner begins entries =>
      rw [begins, List.length_cons] at blanks
      obtain ⟨shorter, _, passed⟩ := fields_passes (passes _ isInner) (by omega) entries
      exact ⟨by omega, _, valueWith_iff.mpr (.object rfl begins passed)⟩

/-- The levels that a text can be nested are as many as it has characters. -/
theorem value_passes (depth bound : Nat) :
    Passes bound (value .keep depth) (value .skip bound) := by
  induction depth generalizing bound with
  | zero =>
      intro text rest result short read
      cases bound with
      | zero =>
          obtain rfl := List.length_eq_zero_iff.mp (Nat.le_zero.mp short)
          cases read
      | succ bound =>
          refine valueWith_passes ?_ short read
          intro item same
          cases same
  | succ depth ih =>
      intro text rest result short read
      cases bound with
      | zero =>
          obtain rfl := List.length_eq_zero_iff.mp (Nat.le_zero.mp short)
          cases read
      | succ bound =>
          refine valueWith_passes ?_ short read
          intro item same
          cases same
          exact ih bound

theorem length_value {depth : Nat} {text rest : List Char} {found : Json}
    (read : value .keep depth text = .ok (found, rest)) : rest.length ≤ text.length :=
  (value_passes depth text.length (Nat.le_refl _) read).1

/-- What can be read as a value can be passed over. -/
theorem skipValue_of_value {depth : Nat} {text rest : List Char} {found : Json}
    (read : value .keep depth text = .ok (found, rest)) : skipValue text = .ok rest := by
  obtain ⟨_, other, passed⟩ := value_passes depth text.length (Nat.le_refl _) read
  exact bind_eq_ok.mpr ⟨_, passed, rfl⟩

end DraftBoard.Json
