import DraftBoard.Proofs.Dashboard.Codec
import DraftBoard.Proofs.Dashboard.Decoding
import DraftBoard.Proofs.Json.Objects

/-!
# Hits and definitions go by their fields

An object is decoded as a hit or as a definition by the values of a few fields.  The order of
its entries and any others among them make no difference, and an array of those values in order
is decoded as the object of them.
-/

namespace DraftBoard

open Json

/-- A record that is decoded by its known fields alone. -/
structure GoesByFields {α : Type} (parse : String → Except Problem α) (known : List String)
    (Fit : (String → Option Json) → Prop) (MadeOf : (String → Option Json) → α → Prop) :
    Prop where
  decodable_iff : ∀ {text fields}, HoldsObject text fields →
    ((∃ record, parse text = .ok record) ↔ Fit fields.get?)
  object_iff : ∀ {text fields record}, HoldsObject text fields →
    (parse text = .ok record ↔ MadeOf fields.get? record)
  rearranged : ∀ {text other fields entries extra record}, HoldsObject text fields →
    HoldsObject other entries → entries.Perm (fields ++ extra) →
    (∀ key ∈ Fields.keys extra, key ∉ known) →
    (parse other = .ok record ↔ parse text = .ok record)
  array_iff : ∀ {text other items record}, Json.parse text = .ok (.array items) →
    items.length ≤ known.length → HoldsObject other (known.zip items) →
    (parse text = .ok record ↔ parse other = .ok record)

theorem goesByFields_of {α : Type} {parse : String → Except Problem α} {known : List String}
    {Fit : (String → Option Json) → Prop} {MadeOf : (String → Option Json) → α → Prop}
    (fit : ∀ {get}, Fit get ↔ ∃ record, MadeOf get record)
    (congr : ∀ {get other record}, (∀ key ∈ known, get key = other key) →
      MadeOf get record → MadeOf other record)
    (object : ∀ {text fields record}, HoldsObject text fields →
      (parse text = .ok record ↔ MadeOf fields.get? record))
    (array : ∀ {text items record}, Json.parse text = .ok (.array items) →
      items.length ≤ known.length →
      (parse text = .ok record ↔ MadeOf (Fields.get? (known.zip items)) record)) :
    GoesByFields parse known Fit MadeOf where
  decodable_iff holds := by
    rw [fit]
    exact exists_congr fun record => object holds
  object_iff := object
  rearranged {text other fields entries extra record} holds holdsToo order unknown := by
    have same : ∀ key ∈ known, entries.get? key = fields.get? key := by
      intro key isKnown
      have passed : key ∉ Fields.keys extra := fun member => unknown key member isKnown
      rw [Fields.get?_of_perm order holdsToo.nodup_keys, Fields.get?_append_of_not_mem _ passed]
    rw [object holds, object holdsToo]
    exact ⟨congr same, congr fun key isKnown => (same key isKnown).symm⟩
  array_iff holds short holdsToo := by rw [array holds short, object holdsToo]

namespace Hit

/-- The fields of a hit in order. -/
def known : List String := ["title", "uid", "folderTitle"]

/-- The values of a hit's fields. -/
structure MadeOf (get : String → Option Json) (hit : Hit) : Prop where
  title : get "title" = some (.string hit.title)
  uid : get "uid" = some (.string hit.uid)
  folderTitle : folder? (get "folderTitle") = some hit.folderTitle

/-- Values that make some hit. -/
structure Fit (get : String → Option Json) : Prop where
  title : ∃ title, get "title" = some (.string title)
  uid : ∃ uid, get "uid" = some (.string uid)
  folderTitle : get "folderTitle" = none ∨ get "folderTitle" = some .null ∨
    ∃ folder, get "folderTitle" = some (.string folder)

theorem string?_bind_eq_some_iff {found : Option Json} {content : String} :
    found.bind string? = some content ↔ found = some (.string content) := by
  cases found with
  | none => simp
  | some value => cases value <;> simp [string?]

theorem ofFields?_eq_some_iff {title uid folderTitle : Option Json} {hit : Hit} :
    ofFields? title uid folderTitle = some hit ↔ title = some (.string hit.title) ∧
      uid = some (.string hit.uid) ∧ folder? folderTitle = some hit.folderTitle := by
  rw [← string?_bind_eq_some_iff, ← string?_bind_eq_some_iff]
  obtain ⟨hitTitle, hitUid, hitFolder⟩ := hit
  simp only [ofFields?, Option.bind_eq_bind, Option.bind_eq_some_iff, Option.some.injEq]
  constructor
  · rintro ⟨_, isTitle, _, isUid, _, isFolder, same⟩
    cases same
    exact ⟨isTitle, isUid, isFolder⟩
  · rintro ⟨isTitle, isUid, isFolder⟩
    exact ⟨_, isTitle, _, isUid, _, isFolder, rfl⟩

theorem ofJson?_object_iff {fields : Fields} {hit : Hit} :
    ofJson? (.object fields) = some hit ↔ MadeOf fields.get? hit := by
  rw [ofJson?, ofFields?_eq_some_iff]
  constructor
  · rintro ⟨title, uid, folder⟩
    exact ⟨title, uid, folder⟩
  · rintro ⟨title, uid, folder⟩
    exact ⟨title, uid, folder⟩

theorem fit_iff {get : String → Option Json} : Fit get ↔ ∃ hit, MadeOf get hit := by
  constructor
  · rintro ⟨⟨title, isTitle⟩, ⟨uid, isUid⟩, missing | null | ⟨folder, isFolder⟩⟩
    · exact ⟨⟨title, uid, none⟩, isTitle, isUid, by rw [missing]; rfl⟩
    · exact ⟨⟨title, uid, none⟩, isTitle, isUid, by rw [null]; rfl⟩
    · exact ⟨⟨title, uid, some folder⟩, isTitle, isUid, by rw [isFolder]; rfl⟩
  · rintro ⟨hit, isTitle, isUid, isFolder⟩
    refine ⟨⟨_, isTitle⟩, ⟨_, isUid⟩, ?_⟩
    cases given : get "folderTitle" with
    | none => exact .inl rfl
    | some value =>
        rw [given] at isFolder
        cases value with
        | null => exact .inr (.inl rfl)
        | string folder => exact .inr (.inr ⟨folder, rfl⟩)
        | _ => cases isFolder

theorem MadeOf.congr {get other : String → Option Json} {hit : Hit}
    (same : ∀ key ∈ known, get key = other key) (made : MadeOf get hit) : MadeOf other hit where
  title := by rw [← same "title" (by decide), made.title]
  uid := by rw [← same "uid" (by decide), made.uid]
  folderTitle := by rw [← same "folderTitle" (by decide), made.folderTitle]

section

variable {depth : Nat} {state : Partial} {before fields after : Fields} {key : String}
variable {text start rest : List Char} {found : Json} {hit : Hit}

theorem eq_ofOptionalString_of_folder? {folder : Option String}
    (isFolder : folder? (some found) = some folder) : found = ofOptionalString folder := by
  cases found with
  | null =>
      cases isFolder
      rfl
  | string content =>
      cases isFolder
      rfl
  | _ => cases isFolder

/-- The reader of a field reads the value that makes the hit. -/
theorem read_of_made (isKnown : key ∈ known) (sofar : state.Of before)
    (fresh : key ∉ before.keys) {get : String → Option Json} (made : MadeOf get hit)
    (given : get key = some found) (read : value .keep depth start = .ok (found, rest)) :
    record.given? state key = some false ∧
      ∃ next, record.read state key start = .ok (next, rest) := by
  have missing := Fields.get?_eq_none_of_not_mem fresh
  simp only [known, List.mem_cons, List.not_mem_nil, or_false] at isKnown
  rcases isKnown with rfl | rfl | rfl
  · rw [sofar.title, Option.map_eq_none_iff] at missing
    rw [made.title] at given
    cases given
    exact ⟨by simp [record, missing], _, bind_eq_ok.mpr ⟨_, expectString_iff.mpr read, rfl⟩⟩
  · rw [sofar.uid, Option.map_eq_none_iff] at missing
    rw [made.uid] at given
    cases given
    exact ⟨by simp [record, missing], _, bind_eq_ok.mpr ⟨_, expectString_iff.mpr read, rfl⟩⟩
  · rw [sofar.folderTitle, Option.map_eq_none_iff] at missing
    have isFolder := made.folderTitle
    rw [given] at isFolder
    rw [eq_ofOptionalString_of_folder? isFolder] at read
    exact ⟨by simp [record, missing], _,
      bind_eq_ok.mpr ⟨_, expectOptionalString_iff.mpr read, rfl⟩⟩

theorem entry_of_made (sofar : state.Of before) (fresh : key ∉ before.keys)
    {get : String → Option Json} (made : MadeOf get hit) (same : after.get? key = get key)
    (one : insertEntry (value .keep depth) before key text = .ok (after, rest)) :
    ∃ next, record.entry state key text = .ok (next, rest) ∧ Partial.Of next after := by
  obtain ⟨start, found, colon, read, isAfter⟩ := insertEntry_iff.mp one
  have given : get key = some found := by
    rw [← same, isAfter, Fields.get?_insert_self]
  have entered : ∃ next, record.entry state key text = .ok (next, rest) := by
    by_cases isKnown : key ∈ known
    · obtain ⟨awaited, next, readField⟩ := read_of_made isKnown sofar fresh made given read
      exact ⟨next, RecordReader.entry_iff.mpr ⟨start, colon, .inl ⟨awaited, readField⟩⟩⟩
    · simp only [known, List.mem_cons, List.not_mem_nil, or_false, not_or] at isKnown
      have unknown : record.given? state key = none := by simp [record, isKnown]
      exact ⟨state, RecordReader.entry_iff.mpr
        ⟨start, colon, .inr ⟨unknown, rfl, skipValue_of_value read⟩⟩⟩
  obtain ⟨next, entered⟩ := entered
  exact ⟨next, entered, (entry_agrees depth key sofar entered one).2⟩

/-- Where the whole object makes a hit, its entries are read one after another. -/
theorem run_of_made {first : Bool} {keys : List String} (sofar : state.Of before)
    (run : EntryRun .keep (insertEntry (value .keep depth)) first before text keys fields rest)
    (distinct : (before.keys ++ keys).Nodup) (made : MadeOf fields.get? hit) :
    ∃ last, EntryRun .keep record.entry first state text keys last rest ∧
      Partial.Of last fields := by
  induction run generalizing state with
  | ends next => exact ⟨state, .ends next, sofar⟩
  | reads next named one others ih =>
      obtain ⟨fresh, alone, goesOn⟩ := keys_of_entry one distinct
      obtain ⟨_, entered, further⟩ :=
        entry_of_made sofar fresh made (get?_of_run others alone).symm one
      rw [← goesOn] at distinct
      obtain ⟨last, run, isLast⟩ := ih further distinct made
      exact ⟨last, .reads next named entered run, isLast⟩

theorem finish_of_made (read : state.Of fields) (made : MadeOf fields.get? hit) :
    record.finish state = .ok hit := by
  obtain ⟨title, uid, folderTitle⟩ := state
  obtain ⟨hitTitle, hitUid, hitFolder⟩ := hit
  have isTitle := read.title.symm.trans made.title
  have isUid := read.uid.symm.trans made.uid
  have isFolder := made.folderTitle
  rw [read.folderTitle] at isFolder
  simp only [Option.map_eq_some_iff, Json.string.injEq] at isTitle isUid
  obtain ⟨_, rfl, rfl⟩ := isTitle
  obtain ⟨_, rfl, rfl⟩ := isUid
  cases folderTitle with
  | none =>
      cases isFolder
      rfl
  | some folder =>
      rw [Option.map_some, folder?_ofOptionalString] at isFolder
      cases isFolder
      rfl

end

theorem parse_object_iff {text : String} {fields : Fields} {hit : Hit}
    (holds : HoldsObject text fields) : parse text = .ok hit ↔ MadeOf fields.get? hit := by
  constructor
  · intro read
    exact ofJson?_object_iff.mp (readAll_agrees (record_agrees depthLimit) read holds.parsed)
  · intro made
    obtain ⟨keys, behind, left, rest, object, distinct⟩ := holdsObject_iff.mp holds
    have nothing : Partial.Of record.start [] := ⟨rfl, rfl, rfl⟩
    obtain ⟨last, run, isLast⟩ := run_of_made nothing object.run distinct made
    refine readAll_iff.mpr ⟨rest, ?_, object.nothing⟩
    rw [RecordReader.reader, object.visible]
    exact keyed_iff.mpr
      ⟨keys, last, left, object.enough, run, finish_of_made isLast made, object.brace⟩

/-- An array that makes a hit is the array of its fields, the last of which may be missing. -/
theorem ofJson?_array_iff {items : List Json} {hit : Hit} :
    ofJson? (.array items) = some hit ↔ ∃ folder? : Option Json,
      Hit.folder? folder? = some hit.folderTitle ∧
      items = .string hit.title :: .string hit.uid :: folder?.toList := by
  constructor
  · intro made
    match items, made with
    | [title, uid], made =>
        obtain ⟨isTitle, isUid, isFolder⟩ := ofFields?_eq_some_iff.mp made
        cases isTitle
        cases isUid
        exact ⟨none, isFolder, rfl⟩
    | [title, uid, folder], made =>
        obtain ⟨isTitle, isUid, isFolder⟩ := ofFields?_eq_some_iff.mp made
        cases isTitle
        cases isUid
        exact ⟨some folder, isFolder, rfl⟩
  · rintro ⟨folder?, isFolder, rfl⟩
    cases folder? <;> exact ofFields?_eq_some_iff.mpr ⟨rfl, rfl, isFolder⟩

theorem ofJson?_zip {items : List Json} (short : items.length ≤ known.length) :
    ofJson? (.array items) = ofJson? (.object (known.zip items)) := by
  match items, short with
  | [], _ => rfl
  | [title], _ => cases title <;> rfl
  | [_, _], _ => rfl
  | [_, _, _], _ => rfl

theorem positional_of_made {depth : Nat} {text rest : List Char} {items : List Json} {hit : Hit}
    (made : ofJson? (.array items) = some hit)
    (read : sequence (value .keep depth) text = .ok (items, rest)) :
    ∃ left, positional text = .ok (hit, left) ∧ expectChar ']' left = .ok rest := by
  obtain ⟨folder?, isFolder, rfl⟩ := ofJson?_array_iff.mp made
  obtain ⟨left, _, run, bracket⟩ := sequence_iff.mp read
  obtain ⟨title, uid, folder⟩ := hit
  cases run with
  | reads isNext first others =>
  cases others with
  | reads isNextToo second others =>
  refine ⟨left, bind_eq_ok.mpr ⟨_, isNext, bind_eq_ok.mpr ⟨_, expectString_iff.mpr first,
    bind_eq_ok.mpr ⟨_, isNextToo, bind_eq_ok.mpr ⟨_, expectString_iff.mpr second, ?_⟩⟩⟩⟩, bracket⟩
  cases folder? with
  | none =>
      cases isFolder
      cases others with
      | ends isLast => exact bind_eq_ok.mpr ⟨_, isLast, rfl⟩
  | some found =>
      rw [eq_ofOptionalString_of_folder? isFolder] at others
      cases others with
      | reads isLast third none =>
          cases none with
          | ends _ =>
              exact bind_eq_ok.mpr ⟨_, isLast, bind_eq_ok.mpr
                ⟨_, expectOptionalString_iff.mpr third, rfl⟩⟩

theorem parse_array_iff {text : String} {items : List Json} {hit : Hit}
    (array : Json.parse text = .ok (.array items)) :
    parse text = .ok hit ↔ ofJson? (.array items) = some hit := by
  constructor
  · intro read
    exact readAll_agrees (record_agrees depthLimit) read array
  · intro made
    obtain ⟨rest, found, nothing⟩ := readAll_iff.mp array
    obtain ⟨inner, behind, _, visible, itemsRead⟩ := value_array_iff.mp found
    obtain ⟨left, one, bracket⟩ := positional_of_made made itemsRead
    refine readAll_iff.mpr ⟨rest, ?_, nothing⟩
    rw [RecordReader.reader, visible]
    exact bind_eq_ok.mpr ⟨_, one, bind_eq_ok.mpr ⟨_, bracket, rfl⟩⟩

theorem goesByFields : GoesByFields parse known Fit MadeOf := by
  refine goesByFields_of fit_iff MadeOf.congr parse_object_iff ?_
  intro text items hit array short
  rw [parse_array_iff array, ofJson?_zip short, ofJson?_object_iff]

theorem parse_compact (hit : Hit) : parse hit.toJson.compact = .ok hit :=
  readAll_of_readsBack (hit.readsBack_toJson Layout.compact_sound 0) rfl

end Hit

namespace Definition

/-- The fields of a definition in order. -/
def known : List String := ["dashboard", "meta"]

/-- The values of a definition's fields. -/
structure MadeOf (get : String → Option Json) (definition : Definition) : Prop where
  dashboard : get "dashboard" = some definition.dashboard.toJson
  about : definition.about = (get "meta").getD .null

/-- Values that make some definition. -/
def Fit (get : String → Option Json) : Prop := ∃ fields, get "dashboard" = some (.object fields)

theorem fit_iff {get : String → Option Json} : Fit get ↔ ∃ definition, MadeOf get definition := by
  constructor
  · rintro ⟨fields, isDashboard⟩
    exact ⟨⟨⟨fields⟩, (get "meta").getD .null⟩, isDashboard, rfl⟩
  · rintro ⟨definition, isDashboard, _⟩
    exact ⟨definition.dashboard.fields, isDashboard⟩

theorem MadeOf.congr {get other : String → Option Json} {definition : Definition}
    (same : ∀ key ∈ known, get key = other key) (made : MadeOf get definition) :
    MadeOf other definition where
  dashboard := by rw [← same "dashboard" (by decide), made.dashboard]
  about := by rw [← same "meta" (by decide), made.about]

theorem parse_object_iff {text : String} {fields : Fields} {definition : Definition}
    (holds : HoldsObject text fields) :
    parse text = .ok definition ↔ MadeOf fields.get? definition := by
  obtain ⟨starts, startsRead, given⟩ := holds.given
  rw [parse_iff]
  constructor
  · rintro ⟨about?, isAbout, held⟩
    cases held with
    | object entries document remarks =>
        rw [startsRead] at entries
        cases entries
        obtain rfl := remarks.unique (given "meta")
        exact ⟨(given "dashboard").unique document, isAbout⟩
    | array items =>
        rw [holds.parsed] at items
        cases items
  · rintro ⟨isDashboard, isAbout⟩
    refine ⟨fields.get? "meta", isAbout, .object startsRead ?_ (given "meta")⟩
    rw [← isDashboard]
    exact given "dashboard"

theorem parse_array_iff {text : String} {items : List Json} {definition : Definition}
    (array : Json.parse text = .ok (.array items)) :
    parse text = .ok definition ↔ ∃ about? : Option Json,
      definition.about = about?.getD .null ∧
      items = definition.dashboard.toJson :: about?.toList := by
  rw [parse_iff]
  refine exists_congr fun about? => and_congr_right fun _ => ?_
  constructor
  · intro held
    cases held with
    | object entries _ _ =>
        obtain ⟨_, found, _⟩ := readAll_iff.mp array
        obtain ⟨_, _, _, bracket, _⟩ := value_array_iff.mp found
        obtain ⟨_, entriesRead, _⟩ := readAll_iff.mp entries
        rw [expectStarts, bracket] at entriesRead
        cases entriesRead
    | array itemsToo =>
        rw [array] at itemsToo
        cases itemsToo
        rfl
  · rintro rfl
    exact .array array

theorem madeOf_zip_iff {items : List Json} {definition : Definition}
    (short : items.length ≤ known.length) :
    MadeOf (Fields.get? (known.zip items)) definition ↔ ∃ about? : Option Json,
      definition.about = about?.getD .null ∧
      items = definition.dashboard.toJson :: about?.toList := by
  constructor
  · rintro ⟨isDashboard, isAbout⟩
    match items, short with
    | [], _ => cases isDashboard
    | [_], _ =>
        cases isDashboard
        exact ⟨none, isAbout, rfl⟩
    | [_, about], _ =>
        cases isDashboard
        exact ⟨some about, isAbout, rfl⟩
  · rintro ⟨about?, isAbout, rfl⟩
    cases about? <;> exact ⟨rfl, isAbout⟩

theorem goesByFields : GoesByFields parse known Fit MadeOf := by
  refine goesByFields_of fit_iff MadeOf.congr parse_object_iff ?_
  intro text items definition array short
  rw [parse_array_iff array, madeOf_zip_iff short]

theorem parse_compact_of_readable {definition : Definition}
    (readable : Readable depthLimit definition.toJson) :
    parse definition.toJson.compact = .ok definition := by
  obtain ⟨below, limit⟩ : ∃ below, depthLimit = below + 1 := ⟨depthLimit - 1, rfl⟩
  rw [limit] at readable
  cases readable with
  | object _ each =>
      obtain rfl : below = depthLimit - 1 := by omega
      exact parse_compact (each ("dashboard", _) List.mem_cons_self)
        (each ("meta", _) (List.mem_cons_of_mem _ List.mem_cons_self))

end Definition

/-- Hits and definitions are read back from their texts, and decoded by their known fields from
any text that holds an object, as the text of an object does that can be read back, or from the
array of those fields. -/
theorem records_go_by_fields :
    (∀ hit : Hit, Hit.parse hit.toJson.compact = .ok hit) ∧
    (∀ definition : Definition, Readable depthLimit definition.toJson →
      Definition.parse definition.toJson.compact = .ok definition) ∧
    (∀ fields, Readable depthLimit (.object fields) →
      HoldsObject (Json.object fields).compact fields) ∧
    (∀ items, Readable depthLimit (.array items) →
      Json.parse (Json.array items).compact = .ok (.array items)) ∧
    GoesByFields Hit.parse Hit.known Hit.Fit Hit.MadeOf ∧
    GoesByFields Definition.parse Definition.known Definition.Fit Definition.MadeOf :=
  ⟨Hit.parse_compact, fun _ => Definition.parse_compact_of_readable,
    fun _ => holdsObject_compact, fun _ => Json.parse_compact, Hit.goesByFields,
    Definition.goesByFields⟩

/-- The fields of a hit. -/
def plainFields : Fields := [("title", .string "Disk"), ("uid", .string "d1")]

/-- The fields of a hit in another order, behind one of no meaning. -/
def taggedFields : Fields :=
  [("tags", .array [.object [], .null]), ("uid", .string "d1"), ("title", .string "Disk")]

def plainDefinition : Definition := ⟨⟨plainFields⟩, .null⟩

theorem readable_plainFields (depth : Nat) : Readable (depth + 1) (.object plainFields) := by
  refine .object (by decide) ?_
  intro entry member
  simp only [plainFields, List.mem_cons, List.not_mem_nil, or_false] at member
  rcases member with rfl | rfl
  · exact .string "Disk"
  · exact .string "d1"

theorem readable_taggedFields : Readable depthLimit (.object taggedFields) := by
  refine .object (by decide) ?_
  intro entry member
  simp only [taggedFields, List.mem_cons, List.not_mem_nil, or_false] at member
  rcases member with rfl | rfl | rfl
  · refine .array ?_
    intro item among
    simp only [List.mem_cons, List.not_mem_nil, or_false] at among
    rcases among with rfl | rfl
    · exact .object List.nodup_nil fun entry none => absurd none List.not_mem_nil
    · exact .null
  · exact .string "d1"
  · exact .string "Disk"

theorem readable_plainDefinition : Readable depthLimit plainDefinition.toJson := by
  refine .object (by decide) ?_
  intro entry member
  rcases List.mem_cons.mp member with rfl | last
  · exact readable_plainFields 125
  · rw [List.mem_singleton.mp last]
    exact .null

theorem records_go_by_fields_sample :
    Readable depthLimit plainDefinition.toJson ∧
    Definition.parse plainDefinition.toJson.compact = .ok plainDefinition ∧
    Readable depthLimit (.object plainFields) ∧ Readable depthLimit (.object taggedFields) ∧
    Hit.parse (Json.object plainFields).compact = .ok ⟨"Disk", "d1", none⟩ ∧
    Hit.parse (Json.object taggedFields).compact = .ok ⟨"Disk", "d1", none⟩ ∧
    Readable depthLimit (.array [.string "Disk", .string "d1"]) ∧
    Hit.parse (Json.array [.string "Disk", .string "d1"]).compact =
      .ok ⟨"Disk", "d1", none⟩ := by
  obtain ⟨_, readsBack, holds, array, hits, _⟩ := records_go_by_fields
  have plain := holds plainFields (readable_plainFields 126)
  have tagged := holds taggedFields readable_taggedFields
  have items : Readable depthLimit (.array [.string "Disk", .string "d1"]) := by
    refine .array ?_
    intro item among
    simp only [List.mem_cons, List.not_mem_nil, or_false] at among
    rcases among with rfl | rfl
    · exact .string "Disk"
    · exact .string "d1"
  have order : taggedFields.Perm (plainFields ++ [("tags", .array [.object [], .null])]) :=
    (List.reverse_perm _).symm
  have parsed : Hit.parse (Json.object plainFields).compact = .ok ⟨"Disk", "d1", none⟩ :=
    (hits.object_iff plain).mpr ⟨rfl, rfl, rfl⟩
  exact ⟨readable_plainDefinition, readsBack _ readable_plainDefinition,
    readable_plainFields 126, readable_taggedFields, parsed,
    (hits.rearranged plain tagged order (by decide)).mpr parsed, items,
    (hits.array_iff (array _ items) (by decide) plain).mpr parsed⟩

end DraftBoard
