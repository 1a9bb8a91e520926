import DraftBoard.Proofs.Transfer.Promoting
import DraftBoard.Proofs.Transfer.Watching

/-!
# Courses of transfers

A protocol says what each call to a catalogue enters into a history and how it may be
answered.  From it follow the courses that whole transfers can take: a lookup is a search
and perhaps a fetch, a promotion a lookup and perhaps an upload, a saving a lookup alone.
-/

namespace DraftBoard

variable {ε σ α β : Type}

/-- What each call enters into a history, together with its answer. -/
structure Protocol (ε : Type) where
  search : String → List ε → Except TransferError (List Hit) → Prop
  fetch : String → List ε → Except TransferError Definition → Prop
  upload : Upload → List ε → Except TransferError Unit → Prop

/-- An action that adds to a history only what its course allows. -/
def Enters (history : σ → List ε) (course : List ε → Except TransferError α → Prop)
    (action : ExceptT TransferError (StateM (World σ)) α) : Prop :=
  ∀ world, ∃ entries,
    history (carryOut action world).2.server = history world.server ++ entries ∧
    course entries (carryOut action world).1

namespace Enters

variable {history : σ → List ε} {course : List ε → Except TransferError α → Prop}

theorem pure {result : α} (ends : course [] (.ok result)) :
    Enters history course (Pure.pure result) := by
  intro world
  exact ⟨[], (List.append_nil _).symm, ends⟩

theorem throw {error : TransferError} (ends : course [] (.error error)) :
    Enters history course (MonadExcept.throw error) := by
  intro world
  exact ⟨[], (List.append_nil _).symm, ends⟩

/-- What the second action enters stands behind what the first one has entered. -/
theorem bind {whole : List ε → Except TransferError β → Prop}
    {first : ExceptT TransferError (StateM (World σ)) α}
    {next : α → ExceptT TransferError (StateM (World σ)) β}
    (enters : Enters history course first)
    (stops : ∀ entries error, course entries (.error error) → whole entries (.error error))
    (goesOn : ∀ result, Enters history
      (fun later outcome => ∀ entries, course entries (.ok result) →
        whole (entries ++ later) outcome) (next result)) :
    Enters history whole (first >>= next) := by
  intro world
  obtain ⟨entries, firstHistory, firstCourse⟩ := enters world
  rw [carryOut_bind]
  cases ran : carryOut first world with
  | mk outcome between =>
      rw [ran] at firstHistory firstCourse
      cases outcome with
      | error error => exact ⟨entries, firstHistory, stops entries error firstCourse⟩
      | ok result =>
          obtain ⟨later, laterHistory, ends⟩ := goesOn result between
          refine ⟨entries ++ later, ?_, ends entries firstCourse⟩
          rw [← List.append_assoc, ← firstHistory]
          exact laterHistory

/-- A note in the log enters nothing. -/
theorem noted {action : ExceptT TransferError (StateM (World σ)) α}
    (enters : Enters history course action) (event : Event) :
    Enters history course (do
      liftM ((World.machine : Machine (StateM (World σ))).note event)
      action) := by
  intro world
  rw [carryOut_bind]
  simp only [liftM, carryOut_lift, World.note_run]
  exact enters { world with log := world.log ++ [event] }

end Enters

/-- A catalogue each of whose calls keeps to a protocol. -/
structure Catalogue.Obeys (catalogue : Catalogue (StateM (World σ))) (history : σ → List ε)
    (protocol : Protocol ε) : Prop where
  search : ∀ query, Enters history (protocol.search query) (catalogue.search query)
  fetch : ∀ uid, Enters history (protocol.fetch uid) (catalogue.fetch uid)
  upload : ∀ request, Enters history (protocol.upload request) (catalogue.upload request)

/-- The first hit that bears a title. -/
def firstTitled (title : String) (hits : List Hit) : Option Hit :=
  hits.find? fun hit => hit.title == title

theorem mem_of_firstTitled {title : String} {hits : List Hit} {hit : Hit}
    (first : firstTitled title hits = some hit) : hit ∈ hits ∧ hit.title = title := by
  unfold firstTitled at first
  have titled : hit.title = title := by simpa using List.find?_some first
  exact ⟨List.mem_of_find?_eq_some first, titled⟩

theorem absent_of_firstTitled {title : String} {hits : List Hit}
    (absent : firstTitled title hits = none) : ∀ hit ∈ hits, hit.title ≠ title := by
  intro hit member same
  have different := List.find?_eq_none.mp absent hit member
  rw [same, beq_self_eq_true] at different
  exact different rfl

namespace Protocol

variable (protocol : Protocol ε)

/-- The courses of a lookup. -/
inductive Lookup (title : String) : List ε → Except TransferError (Hit × Definition) → Prop where
  | unsearched {searched : List ε} {error : TransferError}
      (search : protocol.search title searched (.error error)) :
      Lookup title searched (.error error)
  | missing {searched : List ε} {hits : List Hit}
      (search : protocol.search title searched (.ok hits))
      (absent : firstTitled title hits = none) :
      Lookup title searched (.error (.notFound title))
  | unfetched {searched fetched : List ε} {hits : List Hit} {hit : Hit}
      {error : TransferError}
      (search : protocol.search title searched (.ok hits))
      (first : firstTitled title hits = some hit)
      (fetch : protocol.fetch hit.uid fetched (.error error)) :
      Lookup title (searched ++ fetched) (.error error)
  | found {searched fetched : List ε} {hits : List Hit} {hit : Hit}
      {definition : Definition}
      (search : protocol.search title searched (.ok hits))
      (first : firstTitled title hits = some hit)
      (fetch : protocol.fetch hit.uid fetched (.ok definition)) :
      Lookup title (searched ++ fetched) (.ok (hit, definition))

/-- The courses of a promotion. -/
inductive Promotes (title : String) : List ε → Except TransferError Promotion → Prop where
  | notFound {looked : List ε} {error : TransferError}
      (lookup : protocol.Lookup title looked (.error error)) :
      Promotes title looked (.error error)
  | refused {looked stored : List ε} {hit : Hit} {definition : Definition}
      {error : TransferError}
      (lookup : protocol.Lookup title looked (.ok (hit, definition)))
      (upload : protocol.upload (draftUpload title hit definition.dashboard) stored
        (.error error)) :
      Promotes title (looked ++ stored) (.error error)
  | stored {looked stored : List ε} {hit : Hit} {definition : Definition}
      (lookup : protocol.Lookup title looked (.ok (hit, definition)))
      (upload : protocol.upload (draftUpload title hit definition.dashboard) stored (.ok ())) :
      Promotes title (looked ++ stored) (.ok (promotionFor title hit definition.dashboard))

/-- The courses of a saving. -/
inductive Saves (title : String) (options : SaveOptions) :
    List ε → Except TransferError Saving → Prop where
  | notFound {looked : List ε} {error : TransferError}
      (lookup : protocol.Lookup (Title.draft title) looked (.error error)) :
      Saves title options looked (.error error)
  | refused {looked : List ε} {hit : Hit} {definition : Definition} (path : Path)
      (cause : FileError)
      (lookup : protocol.Lookup (Title.draft title) looked (.ok (hit, definition))) :
      Saves title options looked (.error (.filesystem path cause))
  | saved {looked : List ε} {hit : Hit} {definition : Definition}
      (lookup : protocol.Lookup (Title.draft title) looked (.ok (hit, definition))) :
      Saves title options looked
        (.ok (options.savingFor (Title.draft title) hit definition.dashboard))

end Protocol

section

variable {catalogue : Catalogue (StateM (World σ))} {history : σ → List ε}
variable {protocol : Protocol ε}

theorem find_enters (obeys : catalogue.Obeys history protocol) (title : String) :
    Enters history (protocol.Lookup title) (find catalogue World.machine title) := by
  unfold find
  apply (obeys.search title).bind
  · intro searched error search
    exact .unsearched search
  · intro hits
    apply Enters.noted
    have sought : hits.find? (fun hit => hit.title == title) = firstTitled title hits := rfl
    rw [sought]
    cases first : firstTitled title hits with
    | none =>
        apply Enters.throw
        intro searched search
        rw [List.append_nil]
        exact .missing search first
    | some hit =>
        apply (obeys.fetch hit.uid).bind
        · intro fetched error fetch searched search
          exact .unfetched search first fetch
        · intro definition
          apply Enters.noted
          apply Enters.pure
          intro fetched fetch searched search
          rw [List.append_nil]
          exact .found search first fetch

theorem promote_enters (obeys : catalogue.Obeys history protocol) (title : String) :
    Enters history (protocol.Promotes title) (promote catalogue World.machine title) := by
  unfold promote
  apply (find_enters obeys title).bind
  · intro looked error lookup
    exact .notFound lookup
  · rintro ⟨hit, definition⟩
    apply (obeys.upload _).bind
    · intro stored error upload looked lookup
      exact .refused lookup upload
    · intro done
      apply Enters.pure
      intro stored upload looked lookup
      rw [List.append_nil]
      exact .stored lookup upload

/-- A saving calls the catalogue for its lookup only. -/
theorem save_enters (obeys : catalogue.Obeys history protocol) (title : String)
    (options : SaveOptions) :
    Enters history (protocol.Saves title options)
      (save catalogue World.machine title options) := by
  intro world
  obtain ⟨looked, lookedHistory, lookup⟩ := find_enters obeys (Title.draft title) world
  cases found : carryOut (find catalogue World.machine (Title.draft title)) world with
  | mk outcome between =>
      rw [found] at lookedHistory lookup
      cases outcome with
      | error error =>
          rw [save_of_not_found found]
          exact ⟨looked, lookedHistory, .notFound lookup⟩
      | ok result =>
          obtain ⟨hit, definition⟩ := result
          obtain ⟨log, run⟩ := save_of_found options found
          rw [run]
          refine ⟨looked, lookedHistory, ?_⟩
          cases provisioned : (between.files.provision (options.pathFor definition.dashboard)
            (provisionedText (options.documentFor definition.dashboard between.clock))).1 with
          | error error =>
              obtain ⟨path, cause, rfl⟩ := FileTree.provision_error provisioned
              exact .refused path cause lookup
          | ok done => exact .saved lookup

end

end DraftBoard
