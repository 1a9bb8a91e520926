import DraftBoard.Dashboard.Codec
import DraftBoard.Proofs.Json.Agreement
import DraftBoard.Proofs.Json.Entries
import DraftBoard.Proofs.Json.Fields
import DraftBoard.Proofs.Json.Source

/-!
# What hits and definitions are decoded from

A list of hits is an array each item of which is a hit.  A definition is an object with a
document and perhaps something that is said about it, in any order and with any other entries
between them, or an array of the two.
-/

namespace DraftBoard

open Json

namespace Hit

/-- The folder of a hit from the value of its field, which may be missing. -/
def folder? : Option Json → Option (Option String)
  | none | some .null => some none
  | some (.string folder) => some (some folder)
  | some _ => none

def ofFields? (title uid folderTitle : Option Json) : Option Hit := do
  some ⟨← title.bind string?, ← uid.bind string?, ← folder? folderTitle⟩

/-- The hit that a value is: an object with its fields, or the array of them. -/
def ofJson? : Json → Option Hit
  | .object fields =>
      ofFields? (Fields.get? fields "title") (Fields.get? fields "uid")
        (Fields.get? fields "folderTitle")
  | .array [title, uid] => ofFields? (some title) (some uid) none
  | .array [title, uid, folderTitle] => ofFields? (some title) (some uid) (some folderTitle)
  | _ => none

/-- The fields of a hit that have been read are those that the object has so far. -/
structure Partial.Of (state : Partial) (fields : Fields) : Prop where
  title : fields.get? "title" = state.title.map .string
  uid : fields.get? "uid" = state.uid.map .string
  folderTitle : fields.get? "folderTitle" = state.folderTitle.map ofOptionalString

theorem folder?_ofOptionalString (folder : Option String) :
    folder? (some (ofOptionalString folder)) = some folder := by
  cases folder <;> rfl

theorem ofFields?_of_read (title uid : String) (folder : Option String) :
    ofFields? (some (.string title)) (some (.string uid)) (some (ofOptionalString folder)) =
      some ⟨title, uid, folder⟩ := by
  rw [ofFields?, folder?_ofOptionalString]
  rfl

theorem entry_agrees (depth : Nat) {state : Partial} {fields : Fields} (key : String)
    (sofar : state.Of fields) :
    Agrees Partial.Of (record.entry state key) (insertEntry (value .keep depth) fields key) := by
  intro text rest restToo after afterToo read readToo
  obtain ⟨start, colon, choice⟩ := RecordReader.entry_iff.mp read
  obtain ⟨startToo, found, colonToo, one, rfl⟩ := insertEntry_iff.mp readToo
  rw [colon] at colonToo
  cases colonToo
  rcases choice with ⟨known, readField⟩ | ⟨unknown, rfl, skipped⟩
  · by_cases isFolder : key = "folderTitle"
    · subst isFolder
      simp only [record, if_true] at readField
      obtain ⟨⟨folder, behind⟩, folderRead, same⟩ := bind_eq_ok.mp readField
      cases same
      obtain ⟨rfl, rfl⟩ := expectOptionalString_agrees depth folderRead one
      refine ⟨rfl, ?_, ?_, ?_⟩
      · simp [Fields.get?_insert, sofar.title]
      · simp [Fields.get?_insert, sofar.uid]
      · simp
    · simp only [record, if_neg isFolder] at readField
      obtain ⟨⟨content, behind⟩, contentRead, same⟩ := bind_eq_ok.mp readField
      cases same
      obtain ⟨rfl, rfl⟩ := expectString_agrees depth contentRead one
      by_cases isTitle : key = "title"
      · subst isTitle
        refine ⟨rfl, ?_, ?_, ?_⟩
        · simp
        · simp [Fields.get?_insert, sofar.uid]
        · simp [Fields.get?_insert, sofar.folderTitle]
      · have isUid : key = "uid" := by
          by_contra other
          simp [record, isFolder, isTitle, other] at known
        subst isUid
        refine ⟨rfl, ?_, ?_, ?_⟩
        · simp [Fields.get?_insert, sofar.title]
        · simp
        · simp [Fields.get?_insert, sofar.folderTitle]
  · rw [skipValue_of_value one] at skipped
    cases skipped
    have other : key ≠ "title" ∧ key ≠ "uid" ∧ key ≠ "folderTitle" := by
      refine ⟨?_, ?_, ?_⟩ <;>
      · rintro rfl
        simp [record] at unknown
    refine ⟨rfl, ?_, ?_, ?_⟩
    · rw [Fields.get?_insert_of_ne _ _ other.1.symm, sofar.title]
    · rw [Fields.get?_insert_of_ne _ _ other.2.1.symm, sofar.uid]
    · rw [Fields.get?_insert_of_ne _ _ other.2.2.symm, sofar.folderTitle]

theorem ofJson?_of_finish {state : Partial} {fields : Fields} {hit : Hit}
    (read : state.Of fields) (finished : record.finish state = .ok hit) :
    ofJson? (.object fields) = some hit := by
  obtain ⟨title, uid, folderTitle⟩ := state
  cases title with
  | none => cases finished
  | some title =>
      cases uid with
      | none => cases finished
      | some uid =>
          cases finished
          rw [ofJson?, read.title, read.uid, read.folderTitle]
          cases folderTitle with
          | none => rfl
          | some folder => exact ofFields?_of_read title uid folder

/-- A sequence of two fields or of three. -/
theorem positional_agrees (depth : Nat) {text left rest restToo : List Char} {hit : Hit}
    {items : List Json} (read : positional text = .ok (hit, left))
    (bracket : expectChar ']' left = .ok rest)
    (readToo : sequence (value .keep depth) text = .ok (items, restToo)) :
    restToo = rest ∧ ofJson? (.array items) = some hit := by
  obtain ⟨behindToo, _, run, bracketToo⟩ := sequence_iff.mp readToo
  obtain ⟨next, isNext, read⟩ := bind_eq_ok.mp read
  cases next with
  | none => cases read
  | some start =>
  obtain ⟨⟨title, afterTitle⟩, titleRead, read⟩ := bind_eq_ok.mp read
  obtain ⟨next, isNextToo, read⟩ := bind_eq_ok.mp read
  cases next with
  | none => cases read
  | some startToo =>
  obtain ⟨⟨uid, afterUid⟩, uidRead, read⟩ := bind_eq_ok.mp read
  obtain ⟨first, behindFirst, others, rfl, firstRead, afterFirst⟩ := run.of_some isNext
  obtain ⟨rfl, rfl⟩ := expectString_agrees depth titleRead firstRead
  obtain ⟨second, behindSecond, others, rfl, secondRead, afterSecond⟩ :=
    afterFirst.of_some isNextToo
  obtain ⟨rfl, rfl⟩ := expectString_agrees depth uidRead secondRead
  obtain ⟨next, isLast, read⟩ := bind_eq_ok.mp read
  cases next with
  | none =>
      cases read
      obtain ⟨rfl, rfl⟩ := afterSecond.of_none isLast
      rw [bracket] at bracketToo
      exact ⟨(Except.ok.inj bracketToo).symm, rfl⟩
  | some last =>
      obtain ⟨⟨folder, afterFolder⟩, folderRead, same⟩ := bind_eq_ok.mp read
      cases same
      obtain ⟨third, behindThird, others, rfl, thirdRead, afterThird⟩ :=
        afterSecond.of_some isLast
      obtain ⟨rfl, rfl⟩ := expectOptionalString_agrees depth folderRead thirdRead
      obtain ⟨rfl, rfl⟩ := afterThird.of_none (nextItem_of_bracket false bracket)
      rw [bracket] at bracketToo
      exact ⟨(Except.ok.inj bracketToo).symm, ofFields?_of_read title uid folder⟩

theorem record_agrees (depth : Nat) :
    Agrees (fun hit item => ofJson? item = some hit) record.reader (value .keep depth) := by
  intro text rest restToo hit item read readToo
  unfold RecordReader.reader at read
  split at read
  · next behind visible =>
      obtain ⟨inner, entries, rfl, rfl, entriesRead⟩ := object_of_brace visible readToo
      have finishes : ∀ {state : Partial} {fields : Fields} {hit : Hit} {entries : Fields},
          state.Of fields → record.finish state = .ok hit →
          (Except.ok fields : Except Problem Fields) = .ok entries →
          ofJson? (.object entries) = some hit := by
        intro state fields hit entries read finished same
        cases same
        exact ofJson?_of_finish read finished
      exact keyed_agrees (entry_agrees inner) ⟨rfl, rfl, rfl⟩ finishes read entriesRead
  · next behind visible =>
      obtain ⟨inner, items, rfl, rfl, itemsRead⟩ := array_of_bracket visible readToo
      obtain ⟨⟨found, left⟩, foundRead, read⟩ := bind_eq_ok.mp read
      obtain ⟨closed, bracket, same⟩ := bind_eq_ok.mp read
      cases same
      exact positional_agrees inner foundRead bracket itemsRead
  · cases read

/-- Where a list of hits is decoded, every item is the hit that it is decoded as. -/
theorem items_of_parseList {text : String} {hits : List Hit} {found : Json}
    (read : parseList text = .ok hits) (readToo : Json.parse text = .ok found) :
    ∃ items, found = .array items ∧ items.map ofJson? = hits.map some := by
  have agrees : Agrees (fun hits found => ∃ items, found = .array items ∧
      List.Forall₂ (fun hit item => ofJson? item = some hit) hits items)
      (expectList record.reader) (value .keep depthLimit) := by
    intro text rest restToo hits found read readToo
    unfold expectList at read
    split at read
    · next behind visible =>
        obtain ⟨inner, items, _, rfl, itemsRead⟩ := array_of_bracket visible readToo
        obtain ⟨same, each⟩ := sequence_agrees (record_agrees inner) read itemsRead
        exact ⟨same, items, rfl, each⟩
    · cases read
  obtain ⟨items, same, each⟩ := readAll_agrees agrees read readToo
  refine ⟨items, same, ?_⟩
  rw [← List.forall₂_eq_eq_eq, List.forall₂_map_left_iff, List.forall₂_map_right_iff]
  exact each.flip

end Hit

theorem Dashboard.reader_iff {depth : Nat} {text rest : List Char} {dashboard : Dashboard} :
    reader depth text = .ok (dashboard, rest) ↔
      value .keep depth text = .ok (dashboard.toJson, rest) := by
  constructor
  · intro read
    obtain ⟨⟨fields, left⟩, fieldsRead, same⟩ := bind_eq_ok.mp read
    cases same
    unfold expectObject at fieldsRead
    split at fieldsRead
    · next behind visible =>
        cases depth with
        | zero => cases fieldsRead
        | succ depth => exact value_object_iff.mpr ⟨depth, behind, rfl, visible, fieldsRead⟩
    · cases fieldsRead
  · intro read
    obtain ⟨inner, behind, rfl, visible, fieldsRead⟩ := value_object_iff.mp read
    refine bind_eq_ok.mpr ⟨(dashboard.fields, rest), ?_, rfl⟩
    rw [expectObject, visible]
    exact fieldsRead

namespace Definition

/-- What a text has to hold to be read as a definition: an object that gives the document and
at most one value to what is said about it, or the array of the two. -/
inductive Holds (text : String) (dashboard : Dashboard) (about? : Option Json) : Prop where
  | object {starts : Starts} (entries : parseStarts text = .ok starts)
      (document : Given (depthLimit - 1) starts "dashboard" (some dashboard.toJson))
      (remarks : Given (depthLimit - 1) starts "meta" about?) : Holds text dashboard about?
  | array (items : Json.parse text = .ok (.array (dashboard.toJson :: about?.toList))) :
      Holds text dashboard about?

/-- The fields of a definition that have been read are those that the object has given so
far. -/
structure Partial.Of (depth : Nat) (state : Partial) (starts : Starts) : Prop where
  dashboard : Given depth starts "dashboard" (state.dashboard.map Dashboard.toJson)
  about : Given depth starts "meta" state.about

section

variable {depth : Nat} {state after : Partial} {starts final : Starts} {start rest : List Char}

theorem awaits_dashboard_iff :
    (record depth).given? state "dashboard" = some false ↔ state.dashboard = none := by
  simp [record]

theorem awaits_about_iff : (record depth).given? state "meta" = some false ↔ state.about = none := by
  simp [record]

theorem given?_of_other {key : String} (notDashboard : key ≠ "dashboard") (notAbout : key ≠ "meta") :
    (record depth).given? state key = none := by
  simp [record, notDashboard, notAbout]

theorem read_dashboard_iff :
    (record depth).read state "dashboard" start = .ok (after, rest) ↔
      ∃ dashboard, after = { state with dashboard := some dashboard } ∧
        value .keep depth start = .ok (dashboard.toJson, rest) := by
  simp only [record, if_true]
  constructor
  · intro read
    obtain ⟨⟨dashboard, left⟩, one, same⟩ := bind_eq_ok.mp read
    cases same
    exact ⟨dashboard, rfl, Dashboard.reader_iff.mp one⟩
  · rintro ⟨dashboard, rfl, one⟩
    exact bind_eq_ok.mpr ⟨_, Dashboard.reader_iff.mpr one, rfl⟩

theorem read_about_iff :
    (record depth).read state "meta" start = .ok (after, rest) ↔
      ∃ about, after = { state with about := some about } ∧
        value .keep depth start = .ok (about, rest) := by
  simp only [record, String.reduceEq, if_false]
  constructor
  · intro read
    obtain ⟨⟨about, left⟩, one, same⟩ := bind_eq_ok.mp read
    cases same
    exact ⟨about, rfl, one⟩
  · rintro ⟨about, rfl, one⟩
    exact bind_eq_ok.mpr ⟨_, one, rfl⟩

theorem Partial.of_nothing (depth : Nat) : Partial.Of depth (record depth).start [] :=
  ⟨.missing rfl, .missing rfl⟩

theorem Partial.Of.put_dashboard (sofar : state.Of depth starts) (awaited : state.dashboard = none)
    {dashboard : Dashboard} (read : value .keep depth start = .ok (dashboard.toJson, rest)) :
    Partial.Of depth { state with dashboard := some dashboard }
      (starts ++ [("dashboard", start)]) := by
  have given := sofar.dashboard
  rw [awaited] at given
  exact ⟨given.append_first read, sofar.about.append_other (by decide)⟩

theorem Partial.Of.put_about (sofar : state.Of depth starts) (awaited : state.about = none)
    {about : Json} (read : value .keep depth start = .ok (about, rest)) :
    Partial.Of depth { state with about := some about } (starts ++ [("meta", start)]) := by
  have given := sofar.about
  rw [awaited] at given
  exact ⟨sofar.dashboard.append_other (by decide), given.append_first read⟩

theorem Partial.Of.pass {key : String} (sofar : state.Of depth starts)
    (notDashboard : key ≠ "dashboard") (notAbout : key ≠ "meta") :
    state.Of depth (starts ++ [(key, start)]) :=
  ⟨sofar.dashboard.append_other notDashboard, sofar.about.append_other notAbout⟩

theorem startEntry_follows (key : String) (sofar : state.Of depth starts) :
    Follows (Partial.Of depth) ((record depth).entry state key) (startEntry starts key) := by
  intro text rest after read
  obtain ⟨start, colon, choice⟩ := RecordReader.entry_iff.mp read
  have passes : skipValue start = .ok rest →
      startEntry starts key text = .ok (starts ++ [(key, start)], rest) := by
    intro skipped
    exact startEntry_iff.mpr ⟨start, colon, skipped, rfl⟩
  refine ⟨starts ++ [(key, start)], ?_⟩
  by_cases isDashboard : key = "dashboard"
  · subst isDashboard
    rcases choice with ⟨awaited, readField⟩ | ⟨unknown, _⟩
    · obtain ⟨dashboard, rfl, one⟩ := read_dashboard_iff.mp readField
      exact ⟨passes (skipValue_of_value one),
        sofar.put_dashboard (awaits_dashboard_iff.mp awaited) one⟩
    · simp [record] at unknown
  · by_cases isAbout : key = "meta"
    · subst isAbout
      rcases choice with ⟨awaited, readField⟩ | ⟨unknown, _⟩
      · obtain ⟨about, rfl, one⟩ := read_about_iff.mp readField
        exact ⟨passes (skipValue_of_value one),
          sofar.put_about (awaits_about_iff.mp awaited) one⟩
      · simp [record] at unknown
    · rw [given?_of_other isDashboard isAbout] at choice
      rcases choice with ⟨awaited, _⟩ | ⟨_, rfl, skipped⟩
      · cases awaited
      · exact ⟨passes skipped, sofar.pass isDashboard isAbout⟩

/-- What an object has to give a definition. -/
def IsGiven (depth : Nat) (definition : Definition) (starts : Starts) : Prop :=
  ∃ about?, Given depth starts "dashboard" (some definition.dashboard.toJson) ∧
    Given depth starts "meta" about? ∧ definition.about = about?.getD .null

theorem isGiven_of_finish {definition : Definition} (read : state.Of depth starts)
    (finished : (record depth).finish state = .ok definition) :
    ∃ given, (Except.ok starts : Except Problem Starts) = .ok given ∧
      IsGiven depth definition given := by
  obtain ⟨dashboard, about⟩ := state
  cases dashboard with
  | none => cases finished
  | some dashboard =>
      cases finished
      exact ⟨starts, rfl, about, read.dashboard, read.about, rfl⟩

theorem extends_starts {first : Bool} {text rest : List Char} {keys : List String}
    (run : EntryRun .keep startEntry first starts text keys final rest) : starts <+: final := by
  induction run with
  | ends _ => exact List.prefix_refl _
  | reads _ _ one _ ih =>
      obtain ⟨start, _, _, rfl⟩ := startEntry_iff.mp one
      exact (List.prefix_append _ _).trans ih

/-- One entry is read as one of the record if the object as a whole gives what the record
asks for. -/
theorem entry_of_given {key : String} {text : List Char} {dashboard : Dashboard}
    {about? : Option Json} (sofar : state.Of depth starts)
    (document : Given depth final "dashboard" (some dashboard.toJson))
    (remarks : Given depth final "meta" about?) {next : Starts}
    (one : startEntry starts key text = .ok (next, rest)) (comes : next <+: final) :
    ∃ after, (record depth).entry state key text = .ok (after, rest) ∧
      Partial.Of depth after next := by
  obtain ⟨start, colon, skipped, rfl⟩ := startEntry_iff.mp one
  have stops : ∀ {found behind}, value .keep depth start = .ok (found, behind) →
      behind = rest := by
    intro found behind read
    rw [skipValue_of_value read] at skipped
    exact Except.ok.inj skipped
  by_cases isDashboard : key = "dashboard"
  · subst isDashboard
    obtain ⟨before, found, behind, same, read⟩ := document.of_next comes
    cases same
    obtain rfl := stops read
    have awaited : state.dashboard = none := by
      simpa using sofar.dashboard.unique before
    exact ⟨_, RecordReader.entry_iff.mpr ⟨start, colon, .inl
      ⟨awaits_dashboard_iff.mpr awaited, read_dashboard_iff.mpr ⟨dashboard, rfl, read⟩⟩⟩,
      sofar.put_dashboard awaited read⟩
  · by_cases isAbout : key = "meta"
    · subst isAbout
      obtain ⟨before, found, behind, _, read⟩ := remarks.of_next comes
      obtain rfl := stops read
      have awaited := sofar.about.unique before
      exact ⟨_, RecordReader.entry_iff.mpr ⟨start, colon, .inl
        ⟨awaits_about_iff.mpr awaited, read_about_iff.mpr ⟨found, rfl, read⟩⟩⟩,
        sofar.put_about awaited read⟩
    · exact ⟨state, RecordReader.entry_iff.mpr ⟨start, colon, .inr
        ⟨given?_of_other isDashboard isAbout, rfl, skipped⟩⟩, sofar.pass isDashboard isAbout⟩

theorem run_of_given {first : Bool} {text : List Char} {keys : List String}
    {dashboard : Dashboard} {about? : Option Json} (sofar : state.Of depth starts)
    (run : EntryRun .keep startEntry first starts text keys final rest)
    (document : Given depth final "dashboard" (some dashboard.toJson))
    (remarks : Given depth final "meta" about?) :
    ∃ finalState, EntryRun .keep (record depth).entry first state text keys finalState rest ∧
      Partial.Of depth finalState final := by
  induction run generalizing state with
  | ends next => exact ⟨state, .ends next, sofar⟩
  | reads next named one others ih =>
      obtain ⟨after, oneToo, further⟩ :=
        entry_of_given sofar document remarks one (extends_starts others)
      obtain ⟨finalState, run, last⟩ := ih further document remarks
      exact ⟨finalState, .reads next named oneToo run, last⟩

theorem finish_of_given {dashboard : Dashboard} {about? : Option Json}
    (read : state.Of depth starts)
    (document : Given depth starts "dashboard" (some dashboard.toJson))
    (remarks : Given depth starts "meta" about?) :
    (record depth).finish state = .ok ⟨dashboard, about?.getD .null⟩ := by
  obtain ⟨fetched, about⟩ := state
  have same := read.dashboard.unique document
  obtain rfl : about = about? := read.about.unique remarks
  cases fetched with
  | none => cases same
  | some fetched =>
      obtain ⟨fields⟩ := fetched
      obtain ⟨other⟩ := dashboard
      cases same
      rfl

theorem positional_iff {text : List Char} {definition : Definition} :
    (∃ left, positional depth text = .ok (definition, left) ∧ expectChar ']' left = .ok rest) ↔
      ∃ about? : Option Json, definition.about = about?.getD .null ∧
        sequence (value .keep depth) text =
          .ok (definition.dashboard.toJson :: about?.toList, rest) := by
  constructor
  · rintro ⟨left, read, bracket⟩
    obtain ⟨next, isNext, read⟩ := bind_eq_ok.mp read
    cases next with
    | none => cases read
    | some start =>
    obtain ⟨⟨dashboard, behind⟩, documentRead, read⟩ := bind_eq_ok.mp read
    have first := Dashboard.reader_iff.mp documentRead
    obtain ⟨next, isNextToo, read⟩ := bind_eq_ok.mp read
    cases next with
    | none =>
        cases read
        exact ⟨none, rfl, sequence_of_run length_value (.reads isNext first (.ends isNextToo))
          bracket⟩
    | some startToo =>
        obtain ⟨⟨about, last⟩, second, same⟩ := bind_eq_ok.mp read
        cases same
        have others := ItemRun.reads isNextToo second (.ends (nextItem_of_bracket false bracket))
        exact ⟨some about, rfl, sequence_of_run length_value (.reads isNext first others) bracket⟩
  · rintro ⟨about?, given, read⟩
    obtain ⟨dashboard, about⟩ := definition
    obtain rfl : about = about?.getD .null := given
    obtain ⟨left, _, run, bracket⟩ := sequence_iff.mp read
    cases run with
    | reads isNext first others =>
        refine ⟨left, bind_eq_ok.mpr ⟨_, isNext, bind_eq_ok.mpr
          ⟨_, Dashboard.reader_iff.mpr first, ?_⟩⟩, bracket⟩
        cases about? with
        | none =>
            cases others with
            | ends isNextToo => exact bind_eq_ok.mpr ⟨_, isNextToo, rfl⟩
        | some about =>
            cases others with
            | reads isNextToo second none =>
                cases none with
                | ends _ =>
                    exact bind_eq_ok.mpr ⟨_, isNextToo, bind_eq_ok.mpr ⟨_, second, rfl⟩⟩

end

/-- A definition is decoded from the texts that hold one, and from no others: what is said about
the document may be any value, or missing. -/
theorem parse_iff {text : String} {definition : Definition} :
    parse text = .ok definition ↔
      ∃ about? : Option Json, definition.about = about?.getD .null ∧
        Holds text definition.dashboard about? := by
  constructor
  · intro read
    obtain ⟨rest, found, nothing⟩ := readAll_iff.mp read
    unfold RecordReader.reader at found
    split at found
    · next behind visible =>
        obtain ⟨starts, entries, about?, document, remarks, given⟩ :=
          keyed_follows startEntry_follows (Partial.of_nothing _) isGiven_of_finish found
        refine ⟨about?, given, .object (readAll_iff.mpr ⟨rest, ?_, nothing⟩) document remarks⟩
        rw [expectStarts, visible]
        exact entries
    · next behind visible =>
        obtain ⟨⟨_, left⟩, one, found⟩ := bind_eq_ok.mp found
        obtain ⟨closed, bracket, same⟩ := bind_eq_ok.mp found
        cases same
        obtain ⟨about?, given, items⟩ := positional_iff.mp ⟨left, one, bracket⟩
        have array := value_array_iff.mpr ⟨depthLimit - 1, behind, rfl, visible, items⟩
        exact ⟨about?, given, .array (readAll_iff.mpr ⟨rest, array, nothing⟩)⟩
    · cases found
  · rintro ⟨about?, given, holds⟩
    obtain ⟨dashboard, about⟩ := definition
    obtain rfl : about = about?.getD .null := given
    cases holds with
    | object entries document remarks =>
        obtain ⟨rest, found, nothing⟩ := readAll_iff.mp entries
        unfold expectStarts at found
        split at found
        · next behind visible =>
            obtain ⟨keys, final, left, enough, run, same, brace⟩ := keyed_iff.mp found
            cases same
            obtain ⟨finalState, runToo, last⟩ :=
              run_of_given (Partial.of_nothing _) run document remarks
            refine readAll_iff.mpr ⟨rest, ?_, nothing⟩
            rw [RecordReader.reader, visible]
            exact keyed_iff.mpr ⟨keys, finalState, left, enough, runToo,
              finish_of_given last document remarks, brace⟩
        · cases found
    | array items =>
        obtain ⟨rest, found, nothing⟩ := readAll_iff.mp items
        obtain ⟨inner, behind, limit, visible, itemsRead⟩ := value_array_iff.mp found
        obtain rfl : inner = depthLimit - 1 := by omega
        obtain ⟨left, one, bracket⟩ := positional_iff.mpr ⟨about?, rfl, itemsRead⟩
        refine readAll_iff.mpr ⟨rest, ?_, nothing⟩
        rw [RecordReader.reader, visible]
        exact bind_eq_ok.mpr ⟨_, one, bind_eq_ok.mpr ⟨_, bracket, rfl⟩⟩

/-- Arrays within each other. -/
def nested : Nat → Json
  | 0 => .null
  | levels + 1 => .array [nested levels]

theorem write_nested (levels level : Nat) (rest : List Char) :
    ∃ tail, write .compact level (nested levels) rest = List.replicate levels '[' ++ tail := by
  induction levels generalizing level rest with
  | zero => exact ⟨_, (List.nil_append _).symm⟩
  | succ levels ih =>
      obtain ⟨tail, written⟩ := ih (level + 1) (']' :: rest)
      exact ⟨tail, congrArg ('[' :: ·) written⟩

theorem reader_of_unread {deep : List Char}
    (unread : value .keep (depthLimit - 1) deep = .error .malformed) :
    (record (depthLimit - 1)).reader ("\x7b\"dashboard\":\x7b\x7d,\"meta\":".toList ++ deep) =
      .error .malformed := by
  have first : nextKey true ("\"dashboard\":\x7b\x7d,\"meta\":".toList ++ deep) =
      .ok (some ("dashboard\":\x7b\x7d,\"meta\":".toList ++ deep)) := rfl
  have dashboard : readString .keep ("dashboard\":\x7b\x7d,\"meta\":".toList ++ deep) =
      .ok ("dashboard", ":\x7b\x7d,\"meta\":".toList ++ deep) := rfl
  have document : (record (depthLimit - 1)).entry (record (depthLimit - 1)).start "dashboard"
      (":\x7b\x7d,\"meta\":".toList ++ deep) =
        .ok ({ dashboard := some ⟨[]⟩ }, ",\"meta\":".toList ++ deep) := rfl
  have second : nextKey false (",\"meta\":".toList ++ deep) =
      .ok (some ("meta\":".toList ++ deep)) := rfl
  have about : readString .keep ("meta\":".toList ++ deep) = .ok ("meta", ':' :: deep) := rfl
  have remarks : (record (depthLimit - 1)).entry { dashboard := some ⟨[]⟩ } "meta" (':' :: deep) =
      .error .malformed := by
    have entry : (record (depthLimit - 1)).entry { dashboard := some ⟨[]⟩ } "meta" (':' :: deep) =
        (value .keep (depthLimit - 1) deep >>= fun about =>
          .ok ({ dashboard := some ⟨[]⟩, about := some about.1 }, about.2)) := rfl
    rw [entry, unread]
    rfl
  have entries : ∀ rounds, entriesFrom .keep (record (depthLimit - 1)).entry (rounds + 2) true
      (record (depthLimit - 1)).start ("\"dashboard\":\x7b\x7d,\"meta\":".toList ++ deep) =
        .error .malformed := by
    intro rounds
    rw [entriesFrom, first]
    simp only [dashboard, document]
    rw [entriesFrom, second]
    simp only [about, remarks]
  have visible : skipBlank ("\x7b\"dashboard\":\x7b\x7d,\"meta\":".toList ++ deep) =
      '{' :: ("\"dashboard\":\x7b\x7d,\"meta\":".toList ++ deep) := rfl
  have long : ("\"dashboard\":\x7b\x7d,\"meta\":".toList ++ deep).length + 1 =
      ("dashboard\":\x7b\x7d,\"meta\":".toList ++ deep).length + 2 := rfl
  have object : keyed .keep (record (depthLimit - 1)).entry (record (depthLimit - 1)).start
      (record (depthLimit - 1)).finish ("\"dashboard\":\x7b\x7d,\"meta\":".toList ++ deep) =
        .error .malformed := by
    unfold keyed
    rw [long, entries]
    rfl
  rw [RecordReader.reader, visible]
  exact object

/-- What is said about a document is not decoded where it nests deeper than the limit. -/
theorem parse_nested {levels : Nat} (deep : depthLimit ≤ levels) :
    parse (toJson ⟨⟨[]⟩, nested levels⟩).compact = .error .malformed := by
  obtain ⟨tail, written⟩ := write_nested levels 1 ['}']
  obtain ⟨more, rfl⟩ := Nat.exists_eq_add_of_le deep
  have text : (toJson ⟨⟨[]⟩, nested (depthLimit + more)⟩).compact.toList =
      "\x7b\"dashboard\":\x7b\x7d,\"meta\":".toList ++
        write .compact 1 (nested (depthLimit + more)) ['}'] := String.toList_ofList
  have unread : value .keep (depthLimit - 1)
      (write .compact 1 (nested (depthLimit + more)) ['}']) = .error .malformed := by
    rw [written, List.replicate_add, List.append_assoc]
    exact value_of_brackets (depthLimit - 1) _
  rw [parse, readAll, text, reader_of_unread unread]
  rfl

end Definition

end DraftBoard
