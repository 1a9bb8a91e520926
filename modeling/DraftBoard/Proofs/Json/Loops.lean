import DraftBoard.Json.Reader
import DraftBoard.Proofs.Steps

/-!
# Runs of the readers

`ItemRun` and `EntryRun` are the runs of the two loops that read containers, one constructor
for each round.  A loop succeeds where there is a run that its rounds suffice for.  `ValueRun`
has one constructor for each way a value can begin, and `StringStep` one for each way a string
can go on.
-/

namespace DraftBoard.Json

variable {α σ : Type}

/-- A run over the items of a sequence, up to its bracket. -/
inductive ItemRun (item : Reader α) : Bool → List Char → List α → List Char → Prop where
  | ends {first : Bool} {text : List Char} (next : nextItem first text = .ok none) :
      ItemRun item first text [] text
  | reads {first : Bool} {text start behind rest : List Char} {value : α} {values : List α}
      (next : nextItem first text = .ok (some start)) (one : item start = .ok (value, behind))
      (others : ItemRun item false behind values rest) :
      ItemRun item first text (value :: values) rest

section

variable {item : Reader α} {first : Bool} {text start rest : List Char} {values : List α}

theorem ItemRun.of_none (run : ItemRun item first text values rest)
    (next : nextItem first text = .ok none) : values = [] ∧ rest = text := by
  cases run with
  | ends _ => exact ⟨rfl, rfl⟩
  | reads other _ _ =>
      rw [next] at other
      cases other

theorem ItemRun.of_some (run : ItemRun item first text values rest)
    (next : nextItem first text = .ok (some start)) :
    ∃ value behind others, values = value :: others ∧ item start = .ok (value, behind) ∧
      ItemRun item false behind others rest := by
  cases run with
  | ends other =>
      rw [next] at other
      cases other
  | reads other one others =>
      rw [next] at other
      cases other
      exact ⟨_, _, _, rfl, one, others⟩

end

theorem itemsFrom_iff {item : Reader α} {rounds : Nat} {first : Bool} {done result : List α}
    {text rest : List Char} :
    itemsFrom item rounds first done text = .ok (result, rest) ↔
      ∃ values, values.length < rounds ∧ result = done.reverse ++ values ∧
        ItemRun item first text values rest := by
  constructor
  · intro read
    induction rounds generalizing first done text with
    | zero => cases read
    | succ rounds ih =>
        rw [itemsFrom] at read
        split at read
        · cases read
        · next next =>
            cases read
            exact ⟨[], Nat.zero_lt_succ _, (List.append_nil _).symm, .ends next⟩
        · next start next =>
            split at read
            · cases read
            · next value behind one =>
                obtain ⟨values, enough, rfl, run⟩ := ih read
                exact ⟨value :: values, Nat.succ_lt_succ enough, by simp, .reads next one run⟩
  · rintro ⟨values, enough, rfl, run⟩
    induction run generalizing rounds done with
    | ends next =>
        obtain ⟨left, rfl⟩ := Nat.exists_eq_succ_of_ne_zero (by omega : rounds ≠ 0)
        rw [itemsFrom, next, List.append_nil]
    | reads next one others ih =>
        obtain ⟨left, rfl⟩ := Nat.exists_eq_succ_of_ne_zero (by omega : rounds ≠ 0)
        rw [itemsFrom, next]
        simp only [one]
        rw [ih (Nat.lt_of_succ_lt_succ enough)]
        simp

theorem sequence_iff {item : Reader α} {values : List α} {text rest : List Char} :
    sequence item text = .ok (values, rest) ↔
      ∃ behind, values.length ≤ text.length ∧ ItemRun item true text values behind ∧
        expectChar ']' behind = .ok rest := by
  constructor
  · intro read
    obtain ⟨⟨found, behind⟩, itemsRead, read⟩ := bind_eq_ok.mp read
    obtain ⟨closed, bracket, same⟩ := bind_eq_ok.mp read
    cases same
    obtain ⟨values, enough, rfl, run⟩ := itemsFrom_iff.mp itemsRead
    exact ⟨behind, Nat.lt_succ_iff.mp enough, run, bracket⟩
  · rintro ⟨behind, enough, run, bracket⟩
    have itemsRead : itemsFrom item (text.length + 1) true [] text = .ok (values, behind) :=
      itemsFrom_iff.mpr ⟨values, Nat.lt_succ_iff.mpr enough, rfl, run⟩
    exact bind_eq_ok.mpr ⟨_, itemsRead, bind_eq_ok.mpr ⟨_, bracket, rfl⟩⟩

/-- A run over the entries of an object, up to its brace, with the keys in order. -/
inductive EntryRun (mode : Mode) (step : σ → String → Reader σ) :
    Bool → σ → List Char → List String → σ → List Char → Prop where
  | ends {first : Bool} {state : σ} {text : List Char} (next : nextKey first text = .ok none) :
      EntryRun mode step first state text [] state text
  | reads {first : Bool} {state after final : σ} {text start behind left rest : List Char}
      {key : String} {keys : List String} (next : nextKey first text = .ok (some start))
      (named : readString mode start = .ok (key, behind))
      (one : step state key behind = .ok (after, left))
      (others : EntryRun mode step false after left keys final rest) :
      EntryRun mode step first state text (key :: keys) final rest

theorem entriesFrom_iff {mode : Mode} {step : σ → String → Reader σ} {rounds : Nat}
    {first : Bool} {state final : σ} {text rest : List Char} :
    entriesFrom mode step rounds first state text = .ok (final, rest) ↔
      ∃ keys, keys.length < rounds ∧ EntryRun mode step first state text keys final rest := by
  constructor
  · intro read
    induction rounds generalizing first state text with
    | zero => cases read
    | succ rounds ih =>
        rw [entriesFrom] at read
        split at read
        · cases read
        · next next =>
            cases read
            exact ⟨[], Nat.zero_lt_succ _, .ends next⟩
        · next start next =>
            split at read
            · cases read
            · next key behind named =>
                split at read
                · cases read
                · next after left one =>
                    obtain ⟨keys, enough, run⟩ := ih read
                    exact ⟨key :: keys, Nat.succ_lt_succ enough, .reads next named one run⟩
  · rintro ⟨keys, enough, run⟩
    induction run generalizing rounds with
    | ends next =>
        obtain ⟨left, rfl⟩ := Nat.exists_eq_succ_of_ne_zero (by omega : rounds ≠ 0)
        rw [entriesFrom, next]
    | reads next named one others ih =>
        obtain ⟨left, rfl⟩ := Nat.exists_eq_succ_of_ne_zero (by omega : rounds ≠ 0)
        rw [entriesFrom, next]
        simp only [named, one]
        exact ih (Nat.lt_of_succ_lt_succ enough)

theorem keyed_iff {mode : Mode} {step : σ → String → Reader σ} {start : σ}
    {finish : σ → Except Problem α} {result : α} {text rest : List Char} :
    keyed mode step start finish text = .ok (result, rest) ↔
      ∃ keys final behind, keys.length ≤ text.length ∧
        EntryRun mode step true start text keys final behind ∧ finish final = .ok result ∧
        expectChar '}' behind = .ok rest := by
  constructor
  · intro read
    obtain ⟨⟨final, behind⟩, entriesRead, read⟩ := bind_eq_ok.mp read
    obtain ⟨finished, isFinished, read⟩ := bind_eq_ok.mp read
    obtain ⟨closed, brace, same⟩ := bind_eq_ok.mp read
    cases same
    obtain ⟨keys, enough, run⟩ := entriesFrom_iff.mp entriesRead
    exact ⟨keys, final, behind, Nat.lt_succ_iff.mp enough, run, isFinished, brace⟩
  · rintro ⟨keys, final, behind, enough, run, isFinished, brace⟩
    have entriesRead := entriesFrom_iff.mpr ⟨keys, Nat.lt_succ_iff.mpr enough, run⟩
    exact bind_eq_ok.mpr ⟨_, entriesRead, bind_eq_ok.mpr ⟨_, isFinished,
      bind_eq_ok.mpr ⟨_, brace, rfl⟩⟩⟩

theorem insertEntry_iff {item : Reader Json} {before after : Fields} {key : String}
    {text rest : List Char} :
    insertEntry item before key text = .ok (after, rest) ↔
      ∃ start found, expectChar ':' text = .ok start ∧ item start = .ok (found, rest) ∧
        after = before.insert key found := by
  constructor
  · intro read
    obtain ⟨start, colon, read⟩ := bind_eq_ok.mp read
    obtain ⟨⟨found, left⟩, one, same⟩ := bind_eq_ok.mp read
    cases same
    exact ⟨start, found, colon, one, rfl⟩
  · rintro ⟨start, found, colon, one, rfl⟩
    exact bind_eq_ok.mpr ⟨_, colon, bind_eq_ok.mpr ⟨_, one, rfl⟩⟩

/-- A character of a string that does not end it: where it leaves the reader, and with what. -/
inductive StringStep (mode : Mode) (text done : List Char) :
    StringState → Char → StringState → List Char → Prop where
  | backslash : StringStep mode text done .plain '\\' .escape done
  | plain {c : Char} (notQuote : c ≠ '"') (notBackslash : c ≠ '\\') (visible : ¬ c.toNat < 0x20) :
      StringStep mode text done .plain c .plain (c :: done)
  | numbered {next : StringState} (entered : enterNumbered none text = .ok next) :
      StringStep mode text done .escape 'u' next done
  | short {c d : Char} (other : c ≠ 'u') (named : shortEscape? c = some d) :
      StringStep mode text done .escape c .plain (d :: done)
  | digit {c : Char} {digit value due : Nat} {high : Option Nat}
      (hex : Text.hexValue? c = some digit) (more : ¬ due ≤ 1) :
      StringStep mode text done (.numbered value due high) c
        (.numbered (16 * value + digit) (due - 1) high) done
  | last {c : Char} {digit value due : Nat} {high : Option Nat} {found : Option Char}
      {next : StringState} (hex : Text.hexValue? c = some digit) (ended : due ≤ 1)
      (finished : finishNumbered mode (16 * value + digit) high = .ok (found, next)) :
      StringStep mode text done (.numbered value due high) c next (found.toList ++ done)
  | pairBackslash {high : Nat} :
      StringStep mode text done (.pairBackslash high) '\\' (.pairLetter high) done
  | pairLetter {high : Nat} {next : StringState}
      (entered : enterNumbered (some high) text = .ok next) :
      StringStep mode text done (.pairLetter high) 'u' next done

/-- A run over the characters of a string, up to the one behind its quote. -/
inductive StringRun (mode : Mode) :
    StringState → List Char → List Char → List Char → List Char → Prop where
  | ends {done text : List Char} : StringRun mode .plain done ('"' :: text) done.reverse text
  | reads {state next : StringState} {done doneToo text chars rest : List Char} {c : Char}
      (step : StringStep mode text done state c next doneToo)
      (others : StringRun mode next doneToo text chars rest) :
      StringRun mode state done (c :: text) chars rest

theorem readStringFrom_of_step {mode : Mode} {state next : StringState}
    {text done doneToo : List Char} {c : Char}
    (step : StringStep mode text done state c next doneToo) :
    readStringFrom mode state done (c :: text) = readStringFrom mode next doneToo text := by
  cases step with
  | backslash => rfl
  | plain notQuote notBackslash visible =>
      rw [readStringFrom, if_neg notQuote, if_neg notBackslash, if_neg visible]
  | numbered entered => rw [readStringFrom, if_pos rfl, entered]
  | short other named => rw [readStringFrom, if_neg other, named]
  | digit hex more =>
      rw [readStringFrom, hex]
      exact if_neg more
  | @last _ _ _ _ _ found _ hex ended finished =>
      rw [readStringFrom, hex]
      refine (if_pos ended).trans ?_
      rw [finished]
      cases found <;> rfl
  | pairBackslash => rfl
  | pairLetter entered => rw [readStringFrom, if_pos rfl, entered]

theorem step_of_readStringFrom {mode : Mode} {state : StringState} {done text : List Char}
    {c : Char} {result : List Char × List Char}
    (read : readStringFrom mode state done (c :: text) = .ok result) :
    (state = .plain ∧ c = '"' ∧ result = (done.reverse, text)) ∨
      ∃ next doneToo, StringStep mode text done state c next doneToo ∧
        readStringFrom mode next doneToo text = .ok result := by
  cases state with
  | plain =>
      rw [readStringFrom] at read
      split at read
      · next quote => exact .inl ⟨rfl, quote, (Except.ok.inj read).symm⟩
      · next notQuote =>
          split at read
          · next backslash =>
              subst backslash
              exact .inr ⟨_, _, .backslash, read⟩
          · next notBackslash =>
              split at read
              · cases read
              · next visible => exact .inr ⟨_, _, .plain notQuote notBackslash visible, read⟩
  | escape =>
      rw [readStringFrom] at read
      split at read
      · next letter =>
          subst letter
          split at read
          · next entered => exact .inr ⟨_, _, .numbered entered, read⟩
          · cases read
      · next other =>
          split at read
          · next named => exact .inr ⟨_, _, .short other named, read⟩
          · cases read
  | numbered value due high =>
      rw [readStringFrom] at read
      split at read
      · cases read
      · next digit hex =>
          simp only at read
          split at read
          · next ended =>
              split at read
              · next finished => exact .inr ⟨_, _, .last hex ended finished, read⟩
              · next finished => exact .inr ⟨_, _, .last hex ended finished, read⟩
              · cases read
          · next more => exact .inr ⟨_, _, .digit hex more, read⟩
  | pairBackslash high =>
      rw [readStringFrom] at read
      split at read
      · next backslash =>
          subst backslash
          exact .inr ⟨_, _, .pairBackslash, read⟩
      · cases read
  | pairLetter high =>
      rw [readStringFrom] at read
      split at read
      · next letter =>
          subst letter
          split at read
          · next entered => exact .inr ⟨_, _, .pairLetter entered, read⟩
          · cases read
      · cases read

theorem readStringFrom_iff {mode : Mode} {state : StringState} {done text chars rest : List Char} :
    readStringFrom mode state done text = .ok (chars, rest) ↔
      StringRun mode state done text chars rest := by
  constructor
  · intro read
    induction text generalizing state done with
    | nil => cases state <;> cases read
    | cons c text ih =>
        rcases step_of_readStringFrom read with ⟨rfl, rfl, same⟩ | ⟨next, doneToo, step, read⟩
        · cases same
          exact .ends
        · exact .reads step (ih read)
  · intro run
    induction run with
    | ends => rfl
    | reads step _ ih => exact (readStringFrom_of_step step).trans ih

/-- A run over one value, by what it begins with. -/
inductive ValueRun (mode : Mode) (inner : Option (Reader Json)) (text rest : List Char) :
    Json → Prop where
  | null {behind : List Char} (begins : skipBlank text = 'n' :: behind)
      (word : expectWord ['u', 'l', 'l'] behind = .ok rest) : ValueRun mode inner text rest .null
  | true {behind : List Char} (begins : skipBlank text = 't' :: behind)
      (word : expectWord ['r', 'u', 'e'] behind = .ok rest) :
      ValueRun mode inner text rest (.bool true)
  | false {behind : List Char} (begins : skipBlank text = 'f' :: behind)
      (word : expectWord ['a', 'l', 's', 'e'] behind = .ok rest) :
      ValueRun mode inner text rest (.bool false)
  | string {behind : List Char} {content : String} (begins : skipBlank text = '"' :: behind)
      (read : readString mode behind = .ok (content, rest)) :
      ValueRun mode inner text rest (.string content)
  | negative {behind : List Char} {number : Number} (begins : skipBlank text = '-' :: behind)
      (read : readNumber mode true behind = .ok (number, rest)) :
      ValueRun mode inner text rest (.number number)
  | natural {c : Char} {behind : List Char} {number : Number}
      (begins : skipBlank text = c :: behind) (digit : c.isDigit = true)
      (read : readNumber mode false (c :: behind) = .ok (number, rest)) :
      ValueRun mode inner text rest (.number number)
  | array {item : Reader Json} {behind : List Char} {items : List Json}
      (isInner : inner = some item) (begins : skipBlank text = '[' :: behind)
      (read : sequence item behind = .ok (items, rest)) :
      ValueRun mode inner text rest (.array items)
  | object {item : Reader Json} {behind : List Char} {entries : Fields}
      (isInner : inner = some item) (begins : skipBlank text = '{' :: behind)
      (read : fields mode item behind = .ok (entries, rest)) :
      ValueRun mode inner text rest (.object entries)

theorem ne_of_isDigit {c : Char} (digit : c.isDigit = true) (mark : Char)
    (notDigit : mark.isDigit = false) : c ≠ mark := by
  rintro rfl
  rw [notDigit] at digit
  cases digit

theorem valueWith_iff {mode : Mode} {inner : Option (Reader Json)} {text rest : List Char}
    {found : Json} :
    valueWith mode inner text = .ok (found, rest) ↔ ValueRun mode inner text rest found := by
  constructor
  · intro read
    rw [valueWith] at read
    split at read
    · cases read
    · next c behind begins =>
      by_cases isNull : c = 'n'
      · subst isNull
        obtain ⟨left, word, same⟩ := bind_eq_ok.mp read
        cases same
        exact .null begins word
      rw [if_neg isNull] at read
      by_cases isTrue : c = 't'
      · subst isTrue
        obtain ⟨left, word, same⟩ := bind_eq_ok.mp read
        cases same
        exact .true begins word
      rw [if_neg isTrue] at read
      by_cases isFalse : c = 'f'
      · subst isFalse
        obtain ⟨left, word, same⟩ := bind_eq_ok.mp read
        cases same
        exact .false begins word
      rw [if_neg isFalse] at read
      by_cases isQuote : c = '"'
      · subst isQuote
        obtain ⟨⟨content, left⟩, contentRead, same⟩ := bind_eq_ok.mp read
        cases same
        exact .string begins contentRead
      rw [if_neg isQuote] at read
      by_cases isMinus : c = '-'
      · subst isMinus
        obtain ⟨⟨number, left⟩, numberRead, same⟩ := bind_eq_ok.mp read
        cases same
        exact .negative begins numberRead
      rw [if_neg isMinus] at read
      by_cases digit : c.isDigit = true
      · rw [if_pos digit] at read
        obtain ⟨⟨number, left⟩, numberRead, same⟩ := bind_eq_ok.mp read
        cases same
        exact .natural begins digit numberRead
      rw [if_neg digit] at read
      by_cases isBracket : c = '['
      · subst isBracket
        cases inner with
        | none => cases read
        | some item =>
            obtain ⟨⟨items, left⟩, itemsRead, same⟩ := bind_eq_ok.mp read
            cases same
            exact .array rfl begins itemsRead
      rw [if_neg isBracket] at read
      by_cases isBrace : c = '{'
      · subst isBrace
        cases inner with
        | none => cases read
        | some item =>
            obtain ⟨⟨entries, left⟩, entriesRead, same⟩ := bind_eq_ok.mp read
            cases same
            exact .object rfl begins entriesRead
      rw [if_neg isBrace] at read
      cases read
  · intro run
    cases run with
    | null begins word =>
        rw [valueWith, begins]
        exact bind_eq_ok.mpr ⟨_, word, rfl⟩
    | true begins word =>
        rw [valueWith, begins]
        exact bind_eq_ok.mpr ⟨_, word, rfl⟩
    | false begins word =>
        rw [valueWith, begins]
        exact bind_eq_ok.mpr ⟨_, word, rfl⟩
    | string begins read =>
        rw [valueWith, begins]
        exact bind_eq_ok.mpr ⟨_, read, rfl⟩
    | negative begins read =>
        rw [valueWith, begins]
        exact bind_eq_ok.mpr ⟨_, read, rfl⟩
    | natural begins digit read =>
        have other := ne_of_isDigit digit
        rw [valueWith, begins]
        simp only [other 'n' rfl, other 't' rfl, other 'f' rfl, other '"' rfl, other '-' rfl, digit,
          if_true, if_false]
        exact bind_eq_ok.mpr ⟨_, read, rfl⟩
    | array isInner begins read =>
        rw [valueWith, begins, isInner]
        exact bind_eq_ok.mpr ⟨_, read, rfl⟩
    | object isInner begins read =>
        rw [valueWith, begins, isInner]
        exact bind_eq_ok.mpr ⟨_, read, rfl⟩

end DraftBoard.Json
