import DraftBoard.Json.Shape
import DraftBoard.Proofs.Json.Loops
import DraftBoard.Proofs.Json.RoundTrip
import Mathlib.Data.List.DropRight
import Mathlib.Data.List.Forall2

/-!
# Readers that agree

Two readers agree if they stop at the same place whenever both of them can read a text, and
what they have read is related.  Neither of them has to read what the other one reads: a reader
of records passes over entries that are too deep for a reader of values, and a reader of values
takes what is no record.
-/

namespace DraftBoard.Json

variable {α β σ τ : Type} {relates : α → β → Prop} {states : σ → τ → Prop}

def Agrees (relates : α → β → Prop) (reader : Reader α) (other : Reader β) : Prop :=
  ∀ {text rest restToo : List Char} {a : α} {b : β}, reader text = .ok (a, rest) →
    other text = .ok (b, restToo) → restToo = rest ∧ relates a b

theorem ItemRun.agrees {item : Reader α} {other : Reader β} (items : Agrees relates item other)
    {first : Bool} {text rest restToo : List Char} {values : List α} {others : List β}
    (run : ItemRun item first text values rest) (runToo : ItemRun other first text others restToo) :
    restToo = rest ∧ List.Forall₂ relates values others := by
  induction run generalizing others with
  | ends next =>
      obtain ⟨rfl, rfl⟩ := runToo.of_none next
      exact ⟨rfl, .nil⟩
  | reads next one _ ih =>
      obtain ⟨other, behind, others, rfl, oneToo, runToo⟩ := runToo.of_some next
      obtain ⟨rfl, related⟩ := items one oneToo
      obtain ⟨same, each⟩ := ih runToo
      exact ⟨same, .cons related each⟩

theorem sequence_agrees {item : Reader α} {other : Reader β} (items : Agrees relates item other) :
    Agrees (List.Forall₂ relates) (sequence item) (sequence other) := by
  intro text rest restToo values others read readToo
  obtain ⟨behind, _, run, bracket⟩ := sequence_iff.mp read
  obtain ⟨behindToo, _, runToo, bracketToo⟩ := sequence_iff.mp readToo
  obtain ⟨rfl, each⟩ := run.agrees items runToo
  rw [bracket] at bracketToo
  exact ⟨(Except.ok.inj bracketToo).symm, each⟩

theorem EntryRun.agrees {mode : Mode} {step : σ → String → Reader σ}
    {other : τ → String → Reader τ}
    (steps : ∀ {state stateToo} key, states state stateToo →
      Agrees states (step state key) (other stateToo key))
    {first : Bool} {state final : σ} {stateToo finalToo : τ} {text rest restToo : List Char}
    {keys keysToo : List String} (run : EntryRun mode step first state text keys final rest)
    (runToo : EntryRun mode other first stateToo text keysToo finalToo restToo)
    (sofar : states state stateToo) : restToo = rest ∧ states final finalToo := by
  induction run generalizing stateToo keysToo with
  | ends next =>
      cases runToo with
      | ends _ => exact ⟨rfl, sofar⟩
      | reads nextToo _ _ _ =>
          rw [next] at nextToo
          cases nextToo
  | reads next named one _ ih =>
      cases runToo with
      | ends nextToo =>
          rw [next] at nextToo
          cases nextToo
      | reads nextToo namedToo oneToo others =>
          rw [next] at nextToo
          cases nextToo
          rw [named] at namedToo
          cases namedToo
          obtain ⟨rfl, related⟩ := steps _ sofar one oneToo
          exact ih others related

theorem keyed_agrees {mode : Mode} {step : σ → String → Reader σ}
    {other : τ → String → Reader τ}
    (steps : ∀ {state stateToo} key, states state stateToo →
      Agrees states (step state key) (other stateToo key))
    {start : σ} {startToo : τ} (starts : states start startToo)
    {finish : σ → Except Problem α} {finishToo : τ → Except Problem β}
    (finishes : ∀ {state stateToo a b}, states state stateToo → finish state = .ok a →
      finishToo stateToo = .ok b → relates a b) :
    Agrees relates (keyed mode step start finish) (keyed mode other startToo finishToo) := by
  intro text rest restToo result resultToo read readToo
  obtain ⟨keys, final, behind, _, run, isFinished, brace⟩ := keyed_iff.mp read
  obtain ⟨keysToo, finalToo, behindToo, _, runToo, isFinishedToo, braceToo⟩ := keyed_iff.mp readToo
  obtain ⟨rfl, related⟩ := run.agrees steps runToo starts
  rw [brace] at braceToo
  exact ⟨(Except.ok.inj braceToo).symm, finishes related isFinished isFinishedToo⟩

theorem readAll_iff {reader : Reader α} {text : String} {result : α} :
    readAll reader text = .ok result ↔
      ∃ rest, reader text.toList = .ok (result, rest) ∧ skipBlank rest = [] := by
  constructor
  · intro read
    obtain ⟨⟨found, rest⟩, foundRead, ends⟩ := bind_eq_ok.mp read
    dsimp only at ends
    split at ends
    · next nothing =>
        cases ends
        exact ⟨rest, foundRead, nothing⟩
    · cases ends
  · rintro ⟨rest, foundRead, nothing⟩
    refine bind_eq_ok.mpr ⟨(result, rest), foundRead, ?_⟩
    dsimp only
    rw [nothing]

theorem readAll_agrees {reader : Reader α} {other : Reader β} (agrees : Agrees relates reader other)
    {text : String} {result : α} {resultToo : β} (read : readAll reader text = .ok result)
    (readToo : readAll other text = .ok resultToo) : relates result resultToo := by
  obtain ⟨rest, found, _⟩ := readAll_iff.mp read
  obtain ⟨restToo, foundToo, _⟩ := readAll_iff.mp readToo
  exact (agrees found foundToo).2

/-- Behind the last item of a sequence there is no other one. -/
theorem nextItem_of_bracket (first : Bool) {text rest : List Char}
    (bracket : expectChar ']' text = .ok rest) : nextItem first text = .ok none := by
  unfold expectChar at bracket
  unfold nextItem
  split at bracket
  · cases bracket
  · next c behind visible =>
      split at bracket
      · next isBracket => exact if_pos isBracket
      · cases bracket

section

variable {text behind : List Char} {depth : Nat}

theorem value_null (visible : skipBlank text = 'n' :: behind) :
    value .keep depth text = (do .ok (.null, ← expectWord ['u', 'l', 'l'] behind)) := by
  obtain ⟨inner, same⟩ := value_eq_valueWith .keep depth
  rw [same, valueWith, visible]
  rfl

theorem value_string (visible : skipBlank text = '"' :: behind) :
    value .keep depth text = (do
      let (content, rest) ← readString .keep behind
      .ok (.string content, rest)) := by
  obtain ⟨inner, same⟩ := value_eq_valueWith .keep depth
  rw [same, valueWith, visible]
  rfl

theorem value_array (visible : skipBlank text = '[' :: behind) :
    value .keep (depth + 1) text = (do
      let (items, rest) ← sequence (value .keep depth) behind
      .ok (.array items, rest)) := by
  rw [value, valueWith, visible]
  rfl

theorem value_object (visible : skipBlank text = '{' :: behind) :
    value .keep (depth + 1) text = (do
      let (entries, rest) ← fields .keep (value .keep depth) behind
      .ok (.object entries, rest)) := by
  rw [value, valueWith, visible]
  rfl

end

section

variable {depth : Nat} {text rest : List Char}

theorem value_array_iff {items : List Json} :
    value .keep depth text = .ok (.array items, rest) ↔
      ∃ inner behind, depth = inner + 1 ∧ skipBlank text = '[' :: behind ∧
        sequence (value .keep inner) behind = .ok (items, rest) := by
  constructor
  · intro read
    cases depth with
    | zero =>
        cases valueWith_iff.mp read with
        | array isInner _ _ => cases isInner
    | succ depth =>
        cases valueWith_iff.mp read with
        | array isInner begins itemsRead =>
            cases isInner
            exact ⟨depth, _, rfl, begins, itemsRead⟩
  · rintro ⟨inner, behind, rfl, begins, itemsRead⟩
    exact valueWith_iff.mpr (.array rfl begins itemsRead)

theorem value_object_iff {entries : Fields} :
    value .keep depth text = .ok (.object entries, rest) ↔
      ∃ inner behind, depth = inner + 1 ∧ skipBlank text = '{' :: behind ∧
        fields .keep (value .keep inner) behind = .ok (entries, rest) := by
  constructor
  · intro read
    cases depth with
    | zero =>
        cases valueWith_iff.mp read with
        | object isInner _ _ => cases isInner
    | succ depth =>
        cases valueWith_iff.mp read with
        | object isInner begins entriesRead =>
            cases isInner
            exact ⟨depth, _, rfl, begins, entriesRead⟩
  · rintro ⟨inner, behind, rfl, begins, entriesRead⟩
    exact valueWith_iff.mpr (.object rfl begins entriesRead)

/-- What begins with a bracket is read as an array or not at all. -/
theorem array_of_bracket {behind : List Char} {found : Json}
    (visible : skipBlank text = '[' :: behind)
    (read : value .keep depth text = .ok (found, rest)) :
    ∃ inner items, depth = inner + 1 ∧ found = .array items ∧
      sequence (value .keep inner) behind = .ok (items, rest) := by
  cases depth with
  | zero =>
      rw [value, valueWith, visible] at read
      cases read
  | succ depth =>
      rw [value_array visible] at read
      obtain ⟨⟨items, left⟩, itemsRead, same⟩ := bind_eq_ok.mp read
      cases same
      exact ⟨depth, items, rfl, rfl, itemsRead⟩

theorem object_of_brace {behind : List Char} {found : Json}
    (visible : skipBlank text = '{' :: behind)
    (read : value .keep depth text = .ok (found, rest)) :
    ∃ inner entries, depth = inner + 1 ∧ found = .object entries ∧
      fields .keep (value .keep inner) behind = .ok (entries, rest) := by
  cases depth with
  | zero =>
      rw [value, valueWith, visible] at read
      cases read
  | succ depth =>
      rw [value_object visible] at read
      obtain ⟨⟨entries, left⟩, entriesRead, same⟩ := bind_eq_ok.mp read
      cases same
      exact ⟨depth, entries, rfl, rfl, entriesRead⟩

end

/-- A value is not read behind more brackets than it has levels of nesting. -/
theorem value_of_brackets (depth : Nat) (rest : List Char) :
    value .keep depth (List.replicate (depth + 1) '[' ++ rest) = .error .malformed := by
  induction depth with
  | zero => rfl
  | succ depth ih =>
      have visible : skipBlank (List.replicate (depth + 2) '[' ++ rest) =
          '[' :: (List.replicate (depth + 1) '[' ++ rest) := rfl
      have next : nextItem true (List.replicate (depth + 1) '[' ++ rest) =
          .ok (some (List.replicate (depth + 1) '[' ++ rest)) := rfl
      rw [value_array visible, sequence, itemsFrom, next]
      simp only [ih]
      rfl

theorem skipBlank_skipBlank (text : List Char) : skipBlank (skipBlank text) = skipBlank text :=
  List.dropWhile_idempotent ..

theorem expectString_iff {depth : Nat} {text rest : List Char} {content : String} :
    expectString text = .ok (content, rest) ↔
      value .keep depth text = .ok (.string content, rest) := by
  constructor
  · intro read
    unfold expectString at read
    split at read
    · next behind visible =>
        rw [value_string visible, read]
        rfl
    · cases read
  · intro read
    obtain ⟨inner, same⟩ := value_eq_valueWith .keep depth
    rw [same] at read
    cases valueWith_iff.mp read with
    | string begins contentRead =>
        rw [expectString, begins]
        exact contentRead

theorem expectString_agrees (depth : Nat) :
    Agrees (fun content found => found = .string content) expectString (value .keep depth) := by
  intro text rest restToo content found read readToo
  rw [expectString_iff.mp read] at readToo
  cases readToo
  exact ⟨rfl, rfl⟩

/-- A string, or none for `null`. -/
def ofOptionalString : Option String → Json
  | none => .null
  | some content => .string content

theorem expectOptionalString_iff {depth : Nat} {text rest : List Char} {content : Option String} :
    expectOptionalString text = .ok (content, rest) ↔
      value .keep depth text = .ok (ofOptionalString content, rest) := by
  -- The blanks have been passed once already.
  have again : expectString (skipBlank text) = expectString text := by
    rw [expectString, expectString, skipBlank_skipBlank]
  constructor
  · intro read
    unfold expectOptionalString at read
    split at read
    · next behind visible =>
        obtain ⟨left, isWord, same⟩ := bind_eq_ok.mp read
        cases same
        rw [value_null visible]
        exact bind_eq_ok.mpr ⟨_, isWord, rfl⟩
    · obtain ⟨⟨content, left⟩, contentRead, same⟩ := bind_eq_ok.mp read
      cases same
      rw [again] at contentRead
      exact expectString_iff.mp contentRead
  · intro read
    cases content with
    | none =>
        obtain ⟨inner, same⟩ := value_eq_valueWith .keep depth
        rw [same] at read
        cases valueWith_iff.mp read with
        | null begins word =>
            rw [expectOptionalString, begins]
            exact bind_eq_ok.mpr ⟨_, word, rfl⟩
    | some content =>
        have contentRead : expectString (skipBlank text) = .ok (content, rest) :=
          again.trans (expectString_iff.mpr read)
        unfold expectOptionalString
        split
        · next behind visible =>
            rw [visible] at contentRead
            cases contentRead
        · exact bind_eq_ok.mpr ⟨_, contentRead, rfl⟩

theorem expectOptionalString_agrees (depth : Nat) :
    Agrees (fun content found => found = ofOptionalString content) expectOptionalString
      (value .keep depth) := by
  intro text rest restToo content found read readToo
  rw [expectOptionalString_iff.mp read] at readToo
  cases readToo
  exact ⟨rfl, rfl⟩

/-- An entry of a record is either one that is awaited or an unknown one. -/
theorem RecordReader.entry_iff {record : RecordReader σ α} {state after : σ} {key : String}
    {text rest : List Char} :
    record.entry state key text = .ok (after, rest) ↔
      ∃ start, expectChar ':' text = .ok start ∧
        (record.given? state key = some false ∧ record.read state key start = .ok (after, rest) ∨
          record.given? state key = none ∧ after = state ∧ skipValue start = .ok rest) := by
  unfold RecordReader.entry
  cases given : record.given? state key with
  | none =>
      constructor
      · intro read
        obtain ⟨start, colon, read⟩ := bind_eq_ok.mp read
        obtain ⟨left, skipped, same⟩ := bind_eq_ok.mp read
        cases same
        exact ⟨start, colon, .inr ⟨rfl, rfl, skipped⟩⟩
      · rintro ⟨start, colon, ⟨other, _⟩ | ⟨_, rfl, skipped⟩⟩
        · cases other
        · exact bind_eq_ok.mpr ⟨_, colon, bind_eq_ok.mpr ⟨_, skipped, rfl⟩⟩
  | some before =>
      cases before with
      | true =>
          constructor
          · intro read
            cases read
          · rintro ⟨start, colon, ⟨other, _⟩ | ⟨other, _⟩⟩ <;> cases other
      | false =>
          constructor
          · intro read
            obtain ⟨start, colon, read⟩ := bind_eq_ok.mp read
            exact ⟨start, colon, .inl ⟨rfl, read⟩⟩
          · rintro ⟨start, colon, ⟨_, read⟩ | ⟨other, _⟩⟩
            · exact bind_eq_ok.mpr ⟨_, colon, read⟩
            · cases other

end DraftBoard.Json
