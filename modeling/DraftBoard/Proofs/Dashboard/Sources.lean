import DraftBoard.Dashboard.Codec
import DraftBoard.Proofs.Json.Source

/-!
# Definitions with their literals

`Definition.source` is the document of a definition as it is written in the text that the
definition is read from.  It goes side by side with `Definition.parse`, and the document
that is read is what its source comes to.
-/

namespace DraftBoard

open Json

namespace Dashboard

/-- The source of a document at a place where `depth` levels of nesting are left. -/
def sourceReader (depth : Nat) : Reader Json.Source := fun text =>
  match skipBlank text with
  | '{' :: rest =>
      match depth with
      | 0 => .error .malformed
      | depth + 1 => do
          let (entries, rest) ← Json.Source.entries (Json.Source.read depth) rest
          .ok (.object entries, rest)
  | other => .error (refuse .map other)

/-- A document is what its source comes to. -/
def IsSource (dashboard : Dashboard) (source : Json.Source) : Prop :=
  source.ComesTo dashboard.toJson

theorem sourceReader_follows (depth : Nat) :
    Follows IsSource (reader depth) (sourceReader depth) := by
  intro text rest dashboard read
  obtain ⟨⟨fields, behind⟩, fieldsRead, same⟩ := bind_eq_ok.mp read
  obtain ⟨rfl, rfl⟩ := Prod.mk.inj (Except.ok.inj same)
  unfold expectObject at fieldsRead
  unfold sourceReader
  generalize skipBlank text = start at fieldsRead ⊢
  split at fieldsRead
  · cases depth with
    | zero => cases fieldsRead
    | succ depth =>
        obtain ⟨entries, entriesRead, comes⟩ :=
          Json.Source.entries_follows (Json.Source.read_follows depth) fieldsRead
        exact ⟨.object entries, bind_eq_ok.mpr ⟨_, entriesRead, rfl⟩, comes.object⟩
  · cases fieldsRead

end Dashboard

namespace Definition

/-- The source of the document, once it has been read, and whether what is said about it has
been read. -/
structure SourcePartial where
  dashboard : Option Json.Source := none
  about : Bool := false

/-- The source of a document from the sequence of the fields of a definition. -/
def positionalSource (depth : Nat) : Reader Json.Source := fun text => do
  let some text ← nextItem true text
    | .error (.mismatch (.wrongLength 0 recordName 2))
  let (source, text) ← Dashboard.sourceReader depth text
  match ← nextItem false text with
  | none => .ok (source, text)
  | some text =>
      let (_, text) ← value .keep depth text
      .ok (source, text)

/-- How the source of a document is read; the fields may nest `depth` levels. -/
def sourceRecord (depth : Nat) : RecordReader SourcePartial Json.Source where
  name := recordName
  start := {}
  given? state key :=
    if key = "dashboard" then some state.dashboard.isSome
    else if key = "meta" then some state.about
    else none
  read state key text :=
    if key = "dashboard" then do
      let (source, rest) ← Dashboard.sourceReader depth text
      .ok ({ state with dashboard := some source }, rest)
    else do
      let (_, rest) ← value .keep depth text
      .ok ({ state with about := true }, rest)
  finish state :=
    match state.dashboard with
    | none => .error (.mismatch (.missingField "dashboard"))
    | some source => .ok source
  positional := positionalSource depth

/-- The document of the definition that a text holds, with its numbers as they are written. -/
def source (text : String) : Except Problem Json.Source :=
  readAll (sourceRecord (depthLimit - 1)).reader text

/-- The document of a definition is what the source comes to. -/
def HasSource (definition : Definition) (source : Json.Source) : Prop :=
  definition.dashboard.IsSource source

/-- Two partial records have got to the same point. -/
structure Partial.HasSource (state : Partial) (sources : SourcePartial) : Prop where
  dashboard : Option.Rel Dashboard.IsSource state.dashboard sources.dashboard
  about : state.about.isSome = sources.about

theorem sourceRecord_follows (depth : Nat) :
    (record depth).Follows Partial.HasSource HasSource (sourceRecord depth) where
  start := ⟨.none, rfl⟩
  given? := by
    intro state sources key sofar
    obtain ⟨dashboard, about⟩ := state
    obtain ⟨source, aboutToo⟩ := sources
    have given : dashboard.isSome = source.isSome := by
      cases sofar.dashboard <;> rfl
    have aboutGiven : about.isSome = aboutToo := sofar.about
    simp only [record, sourceRecord, given, aboutGiven]
  read := by
    intro state sources key sofar text rest after read
    simp only [record] at read
    simp only [sourceRecord]
    by_cases isDashboard : key = "dashboard"
    · rw [if_pos isDashboard] at read ⊢
      obtain ⟨⟨dashboard, behind⟩, dashboardRead, same⟩ := bind_eq_ok.mp read
      obtain ⟨rfl, rfl⟩ := Prod.mk.inj (Except.ok.inj same)
      obtain ⟨source, sourceRead, isSource⟩ :=
        Dashboard.sourceReader_follows depth dashboardRead
      exact ⟨_, bind_eq_ok.mpr ⟨_, sourceRead, rfl⟩, .some isSource, sofar.about⟩
    · rw [if_neg isDashboard] at read ⊢
      obtain ⟨⟨about, behind⟩, aboutRead, same⟩ := bind_eq_ok.mp read
      obtain ⟨rfl, rfl⟩ := Prod.mk.inj (Except.ok.inj same)
      exact ⟨_, bind_eq_ok.mpr ⟨_, aboutRead, rfl⟩, sofar.dashboard, rfl⟩
  finish := by
    intro state sources definition sofar finished
    obtain ⟨dashboard, about⟩ := state
    obtain ⟨source, aboutToo⟩ := sources
    cases sofar.dashboard with
    | none => cases finished
    | some isSource =>
        obtain rfl := Except.ok.inj finished
        exact ⟨_, rfl, isSource⟩
  positional := by
    intro text rest definition read
    obtain ⟨item, first, read⟩ := bind_eq_ok.mp read
    cases item with
    | none => cases read
    | some start =>
        obtain ⟨⟨dashboard, behind⟩, dashboardRead, read⟩ := bind_eq_ok.mp read
        obtain ⟨source, sourceRead, isSource⟩ :=
          Dashboard.sourceReader_follows depth dashboardRead
        obtain ⟨item, second, read⟩ := bind_eq_ok.mp read
        cases item with
        | none =>
            obtain ⟨rfl, rfl⟩ := Prod.mk.inj (Except.ok.inj read)
            exact ⟨source, bind_eq_ok.mpr ⟨_, first, bind_eq_ok.mpr ⟨_, sourceRead,
              bind_eq_ok.mpr ⟨_, second, rfl⟩⟩⟩, isSource⟩
        | some start =>
            obtain ⟨⟨about, behind⟩, aboutRead, same⟩ := bind_eq_ok.mp read
            obtain ⟨rfl, rfl⟩ := Prod.mk.inj (Except.ok.inj same)
            exact ⟨source, bind_eq_ok.mpr ⟨_, first, bind_eq_ok.mpr ⟨_, sourceRead,
              bind_eq_ok.mpr ⟨_, second, bind_eq_ok.mpr ⟨_, aboutRead, rfl⟩⟩⟩⟩, isSource⟩

/-- A definition that is read has a source, and its document is what that comes to. -/
theorem source_of_parse {text : String} {definition : Definition}
    (parsed : parse text = .ok definition) :
    ∃ written, source text = .ok written ∧ definition.HasSource written :=
  readAll_follows (sourceRecord_follows _).reader parsed

end Definition

end DraftBoard
