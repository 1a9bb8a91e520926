import DraftBoard.Json.Shape
import DraftBoard.Proofs.Json.Loops
import DraftBoard.Proofs.Json.Numbers

/-!
# Texts with their literals

A `Source` is a JSON value with its numbers as they are written.  A text that is read as a
value is read as a source, too, and the value is what that source comes to.
-/

namespace DraftBoard.Json

/-- A JSON value whose numbers are kept as they are written; an object keeps every entry. -/
inductive Source where
  | null
  | bool (value : Bool)
  | number (literal : NumberText)
  | string (text : String)
  | array (items : List Source)
  | object (entries : List (String × Source))

namespace Source

/-- Reads the value of an entry and puts it behind all others. -/
def entry (item : Reader Source) (entries : List (String × Source)) (key : String)
    (text : List Char) : Except Problem (List (String × Source) × List Char) := do
  let text ← expectChar ':' text
  let (value, rest) ← item text
  .ok (entries ++ [(key, value)], rest)

/-- The entries of an object after its brace. -/
def entries (item : Reader Source) (text : List Char) :
    Except Problem (List (String × Source) × List Char) :=
  keyed .keep (entry item) [] .ok text

/-- A source whose containers read their items with `inner`. -/
def readWith (inner : Option (Reader Source)) (text : List Char) :
    Except Problem (Source × List Char) :=
  match skipBlank text with
  | [] => .error .cutShort
  | c :: rest =>
      if c = 'n' then do .ok (.null, ← expectWord ['u', 'l', 'l'] rest)
      else if c = 't' then do .ok (.bool true, ← expectWord ['r', 'u', 'e'] rest)
      else if c = 'f' then do .ok (.bool false, ← expectWord ['a', 'l', 's', 'e'] rest)
      else if c = '"' then do
        let (text, rest) ← readString .keep rest
        .ok (.string text, rest)
      else if c = '-' then do
        let (literal, rest) ← readNumberText .keep true rest
        .ok (.number literal, rest)
      else if c.isDigit then do
        let (literal, rest) ← readNumberText .keep false (c :: rest)
        .ok (.number literal, rest)
      else if c = '[' then
        match inner with
        | none => .error .malformed
        | some item => do
            let (items, rest) ← sequence item rest
            .ok (.array items, rest)
      else if c = '{' then
        match inner with
        | none => .error .malformed
        | some item => do
            let (entries, rest) ← entries item rest
            .ok (.object entries, rest)
      else .error .malformed

/-- A source that nests at most `depth` levels. -/
def read : Nat → Reader Source
  | 0 => readWith none
  | depth + 1 => readWith (some (read depth))

/-- The source that a text holds, however deep it nests. -/
def parse (text : String) : Except Problem Source :=
  readAll (read text.length) text

mutual

/-- The value of a source: numbers are read, and of repeated keys the last entry counts. -/
def value? : Source → Option Json
  | .null => some .null
  | .bool value => some (.bool value)
  | .number literal => literal.value?.map .number
  | .string text => some (.string text)
  | .array items => (itemValues? items).map .array
  | .object entries => (fieldValues? entries [] ).map .object

/-- The values of items. -/
def itemValues? : List Source → Option (List Json)
  | [] => some []
  | item :: items =>
      match value? item, itemValues? items with
      | some value, some values => some (value :: values)
      | _, _ => none

/-- The values of entries, set one after another. -/
def fieldValues? : List (String × Source) → Fields → Option Fields
  | [], fields => some fields
  | (key, source) :: entries, fields =>
      match value? source with
      | some value => fieldValues? entries (fields.insert key value)
      | none => none

end

end Source

section

variable {α β σ τ : Type} {relates : α → β → Prop} {states : σ → τ → Prop}

/-- Whatever one reader reads, the other one reads as well, up to the same place. -/
def Follows (relates : α → β → Prop) (reader : Reader α) (other : Reader β) : Prop :=
  ∀ {text rest : List Char} {a : α}, reader text = .ok (a, rest) →
    ∃ b, other text = .ok (b, rest) ∧ relates a b

theorem ItemRun.follows {item : Reader α} {other : Reader β} (items : Follows relates item other)
    {first : Bool} {text rest : List Char} {values : List α}
    (run : ItemRun item first text values rest) :
    ∃ others, List.Forall₂ relates values others ∧ ItemRun other first text others rest := by
  induction run with
  | ends next => exact ⟨[], .nil, .ends next⟩
  | reads next one _ ih =>
      obtain ⟨value, oneToo, related⟩ := items one
      obtain ⟨others, each, run⟩ := ih
      exact ⟨value :: others, .cons related each, .reads next oneToo run⟩

theorem sequence_follows {item : Reader α} {other : Reader β}
    (items : Follows relates item other) :
    Follows (List.Forall₂ relates) (sequence item) (sequence other) := by
  intro text rest result read
  obtain ⟨behind, enough, run, bracket⟩ := sequence_iff.mp read
  obtain ⟨others, each, runToo⟩ := run.follows items
  rw [each.length_eq] at enough
  exact ⟨others, sequence_iff.mpr ⟨behind, enough, runToo, bracket⟩, each⟩

theorem EntryRun.follows {mode : Mode} {step : σ → String → Reader σ}
    {other : τ → String → Reader τ}
    (steps : ∀ {state stateToo} key, states state stateToo →
      Follows states (step state key) (other stateToo key))
    {first : Bool} {state final : σ} {stateToo : τ} {text rest : List Char} {keys : List String}
    (run : EntryRun mode step first state text keys final rest)
    (sofar : states state stateToo) :
    ∃ finalToo, states final finalToo ∧
      EntryRun mode other first stateToo text keys finalToo rest := by
  induction run generalizing stateToo with
  | ends next => exact ⟨stateToo, sofar, .ends next⟩
  | reads next named one _ ih =>
      obtain ⟨afterToo, oneToo, related⟩ := steps _ sofar one
      obtain ⟨finalToo, last, run⟩ := ih related
      exact ⟨finalToo, last, .reads next named oneToo run⟩

theorem keyed_follows {mode : Mode} {step : σ → String → Reader σ}
    {other : τ → String → Reader τ}
    (steps : ∀ {state stateToo} key, states state stateToo →
      Follows states (step state key) (other stateToo key))
    {start : σ} {startToo : τ} (starts : states start startToo)
    {finish : σ → Except Problem α} {finishToo : τ → Except Problem β}
    (finishes : ∀ {state stateToo a}, states state stateToo → finish state = .ok a →
      ∃ b, finishToo stateToo = .ok b ∧ relates a b) :
    Follows relates (keyed mode step start finish) (keyed mode other startToo finishToo) := by
  intro text rest result read
  obtain ⟨keys, final, behind, enough, run, isFinished, brace⟩ := keyed_iff.mp read
  obtain ⟨finalToo, related, runToo⟩ := run.follows steps starts
  obtain ⟨resultToo, isFinishedToo, same⟩ := finishes related isFinished
  exact ⟨resultToo,
    keyed_iff.mpr ⟨keys, finalToo, behind, enough, runToo, isFinishedToo, brace⟩, same⟩

/-- Two ways to read a record that go side by side: they know the same keys, and each part of
the one is followed by that of the other. -/
structure RecordReader.Follows (states : σ → τ → Prop) (relates : α → β → Prop)
    (record : RecordReader σ α) (other : RecordReader τ β) : Prop where
  start : states record.start other.start
  given? : ∀ {state stateToo} key, states state stateToo →
    record.given? state key = other.given? stateToo key
  read : ∀ {state stateToo} key, states state stateToo →
    Json.Follows states (record.read state key) (other.read stateToo key)
  finish : ∀ {state stateToo a}, states state stateToo → record.finish state = .ok a →
    ∃ b, other.finish stateToo = .ok b ∧ relates a b
  positional : Json.Follows relates record.positional other.positional

theorem RecordReader.Follows.entry {record : RecordReader σ α} {other : RecordReader τ β}
    (follows : record.Follows states relates other) {state : σ} {stateToo : τ} (key : String)
    (sofar : states state stateToo) :
    Json.Follows states (record.entry state key) (other.entry stateToo key) := by
  intro text rest after read
  unfold RecordReader.entry at read ⊢
  rw [← follows.given? key sofar]
  cases given : record.given? state key with
  | none =>
      rw [given] at read
      obtain ⟨behind, colon, read⟩ := bind_eq_ok.mp read
      obtain ⟨left, skipped, same⟩ := bind_eq_ok.mp read
      obtain ⟨rfl, rfl⟩ := Prod.mk.inj (Except.ok.inj same)
      exact ⟨stateToo, bind_eq_ok.mpr ⟨_, colon, bind_eq_ok.mpr ⟨_, skipped, rfl⟩⟩, sofar⟩
  | some before =>
      rw [given] at read
      cases before with
      | true => cases read
      | false =>
          obtain ⟨behind, colon, read⟩ := bind_eq_ok.mp read
          obtain ⟨afterToo, readToo, related⟩ := follows.read key sofar read
          exact ⟨afterToo, bind_eq_ok.mpr ⟨_, colon, readToo⟩, related⟩

theorem RecordReader.Follows.reader {record : RecordReader σ α} {other : RecordReader τ β}
    (follows : record.Follows states relates other) :
    Json.Follows relates record.reader other.reader := by
  intro text rest result read
  unfold RecordReader.reader at read ⊢
  split at read
  · exact keyed_follows follows.entry follows.start follows.finish read
  · obtain ⟨⟨found, behind⟩, foundRead, read⟩ := bind_eq_ok.mp read
    obtain ⟨closed, bracket, same⟩ := bind_eq_ok.mp read
    obtain ⟨rfl, rfl⟩ := Prod.mk.inj (Except.ok.inj same)
    obtain ⟨foundToo, readToo, related⟩ := follows.positional foundRead
    exact ⟨foundToo, bind_eq_ok.mpr ⟨_, readToo, bind_eq_ok.mpr ⟨_, bracket, rfl⟩⟩, related⟩
  · cases read

theorem readAll_follows {reader : Reader α} {other : Reader β}
    (follows : Follows relates reader other) {text : String} {result : α}
    (read : readAll reader text = .ok result) :
    ∃ resultToo, readAll other text = .ok resultToo ∧ relates result resultToo := by
  obtain ⟨⟨found, rest⟩, foundRead, ends⟩ := bind_eq_ok.mp read
  obtain ⟨foundToo, readToo, related⟩ := follows foundRead
  simp only at ends
  split at ends
  · next nothing =>
      obtain rfl := Except.ok.inj ends
      refine ⟨foundToo, bind_eq_ok.mpr ⟨_, readToo, ?_⟩, related⟩
      simp only [nothing]
  · cases ends

end

/-- A source comes to a value. -/
def Source.ComesTo (value : Json) (source : Source) : Prop := source.value? = some value

theorem readNumber_ok {negative : Bool} {text rest : List Char} {number : Number}
    (read : readNumber .keep negative text = .ok (number, rest)) :
    ∃ literal, readNumberText .keep negative text = .ok (literal, rest) ∧
      literal.value? = some number := by
  obtain ⟨⟨literal, behind⟩, textRead, read⟩ := bind_eq_ok.mp read
  simp only at read
  split at read
  · next value =>
      obtain ⟨rfl, rfl⟩ := Prod.mk.inj (Except.ok.inj read)
      exact ⟨literal, textRead, value⟩
  · next skipped _ => cases skipped
  · cases read

namespace Source

theorem itemValues?_of_comesTo {values : List Json} {items : List Source}
    (each : List.Forall₂ ComesTo values items) : itemValues? items = some values := by
  induction each with
  | nil => rfl
  | cons one _ ih => rw [itemValues?, one, ih]

theorem fieldValues?_append {key : String} {source : Source} {value : Json}
    (comes : ComesTo value source) (entries : List (String × Source)) {base fields : Fields}
    (sofar : fieldValues? entries base = some fields) :
    fieldValues? (entries ++ [(key, source)]) base = some (fields.insert key value) := by
  induction entries generalizing base with
  | nil =>
      obtain rfl := Option.some.inj sofar
      rw [List.nil_append, fieldValues?, comes]
      rfl
  | cons entry entries ih =>
      obtain ⟨name, first⟩ := entry
      rw [List.cons_append]
      rw [fieldValues?] at sofar ⊢
      cases known : value? first with
      | none =>
          rw [known] at sofar
          cases sofar
      | some found =>
          rw [known] at sofar
          exact ih sofar

/-- The entries read so far come to the fields set so far. -/
def EntriesComeTo (fields : Fields) (entries : List (String × Source)) : Prop :=
  fieldValues? entries [] = some fields

theorem EntriesComeTo.object {fields : Fields} {entries : List (String × Source)}
    (comes : EntriesComeTo fields entries) : ComesTo (.object fields) (.object entries) := by
  rw [EntriesComeTo] at comes
  rw [ComesTo, value?, comes]
  rfl

theorem entries_follows {item : Reader Json} {other : Reader Source}
    (follows : Follows ComesTo item other) :
    Follows EntriesComeTo (Json.fields .keep item) (entries other) := by
  have steps : ∀ {fields entries} key, EntriesComeTo fields entries →
      Follows EntriesComeTo (insertEntry item fields key) (entry other entries key) := by
    intro fields entries key sofar text rest after read
    obtain ⟨behind, value, colon, one, rfl⟩ := insertEntry_iff.mp read
    obtain ⟨source, oneToo, comes⟩ := follows one
    exact ⟨_, bind_eq_ok.mpr ⟨_, colon, bind_eq_ok.mpr ⟨_, oneToo, rfl⟩⟩,
      fieldValues?_append comes entries sofar⟩
  have start : EntriesComeTo [] [] := rfl
  apply keyed_follows steps start
  intro fields entries result sofar same
  obtain rfl := Except.ok.inj same
  exact ⟨entries, rfl, sofar⟩

theorem comesTo_number {literal : NumberText} {number : Number}
    (comes : literal.value? = some number) : ComesTo (.number number) (.number literal) := by
  rw [ComesTo, value?, comes]
  rfl

theorem readWith_follows {inner : Option (Reader Json)} {innerToo : Option (Reader Source)}
    (follows : ∀ item, inner = some item →
      ∃ other, innerToo = some other ∧ Follows ComesTo item other) :
    Follows ComesTo (valueWith .keep inner) (readWith innerToo) := by
  intro text rest found read
  have run := valueWith_iff.mp read
  unfold readWith
  cases run with
  | null begins word =>
      rw [begins]
      exact ⟨.null, bind_eq_ok.mpr ⟨_, word, rfl⟩, rfl⟩
  | true begins word =>
      rw [begins]
      exact ⟨.bool true, bind_eq_ok.mpr ⟨_, word, rfl⟩, rfl⟩
  | false begins word =>
      rw [begins]
      exact ⟨.bool false, bind_eq_ok.mpr ⟨_, word, rfl⟩, rfl⟩
  | string begins content =>
      rw [begins]
      exact ⟨_, bind_eq_ok.mpr ⟨_, content, rfl⟩, rfl⟩
  | negative begins number =>
      rw [begins]
      obtain ⟨literal, literalRead, comes⟩ := readNumber_ok number
      exact ⟨.number literal, bind_eq_ok.mpr ⟨_, literalRead, rfl⟩, comesTo_number comes⟩
  | natural begins digit number =>
      have other := ne_of_isDigit digit
      rw [begins]
      simp only [other 'n' rfl, other 't' rfl, other 'f' rfl, other '"' rfl, other '-' rfl, digit,
        if_true, if_false]
      obtain ⟨literal, literalRead, comes⟩ := readNumber_ok number
      exact ⟨.number literal, bind_eq_ok.mpr ⟨_, literalRead, rfl⟩, comesTo_number comes⟩
  | array isInner begins itemsRead =>
      obtain ⟨other, rfl, itemFollows⟩ := follows _ isInner
      obtain ⟨items, itemsReadToo, comes⟩ := sequence_follows itemFollows itemsRead
      rw [begins]
      refine ⟨.array items, bind_eq_ok.mpr ⟨_, itemsReadToo, rfl⟩, ?_⟩
      rw [ComesTo, value?, itemValues?_of_comesTo comes]
      rfl
  | object isInner begins fieldsRead =>
      obtain ⟨other, rfl, itemFollows⟩ := follows _ isInner
      obtain ⟨entries, entriesRead, comes⟩ := entries_follows itemFollows fieldsRead
      rw [begins]
      exact ⟨.object entries, bind_eq_ok.mpr ⟨_, entriesRead, rfl⟩, comes.object⟩

/-- A text that is read as a value is read as a source that comes to it. -/
theorem read_follows (depth : Nat) : Follows ComesTo (Json.value .keep depth) (read depth) := by
  induction depth with
  | zero =>
      apply readWith_follows
      intro item same
      cases same
  | succ depth ih =>
      apply readWith_follows
      intro item same
      cases same
      exact ⟨_, rfl, ih⟩

end Source

end DraftBoard.Json
