import DraftBoard.Proofs.Transfer.Courses
import DraftBoard.Proofs.Transfer.FileFrame

/-!
# What a promotion asks of a catalogue

A promotion searches, fetches the first hit with the title and stores one draft of what
it has fetched.  It stops at the first call that fails, and fails as that call did.
-/

namespace DraftBoard

variable {σ α : Type}

/-- Each call enters itself and its answer. -/
def answers : Protocol AnsweredCall where
  search query entries answer := entries = [.search query answer]
  fetch uid entries answer := entries = [.fetch uid answer]
  upload request entries answer := entries = [.upload request answer]

theorem watching_enters (entry : Except TransferError α → AnsweredCall)
    (call : ExceptT TransferError (StateM (World σ)) α) :
    Enters Watched.history (fun entries answer => entries = [entry answer])
      (watching entry call) := by
  intro world
  exact ⟨_, rfl, rfl⟩

theorem Catalogue.watched_obeys (catalogue : Catalogue (StateM (World σ))) :
    catalogue.watched.Obeys Watched.history answers where
  search query := watching_enters (.search query) (catalogue.search query)
  fetch uid := watching_enters (.fetch uid) (catalogue.fetch uid)
  upload request := watching_enters (.upload request) (catalogue.upload request)

theorem Catalogue.KeepsFiles.watched {catalogue : Catalogue (StateM (World σ))}
    (keeps : catalogue.KeepsFiles) : catalogue.watched.KeepsFiles where
  search query world := keeps.search query (world.mapServer Watched.server)
  fetch uid world := keeps.fetch uid (world.mapServer Watched.server)
  upload request world := keeps.upload request (world.mapServer Watched.server)

/-- The failure of a call, if it failed. -/
def AnsweredCall.failure? : AnsweredCall → Option TransferError
  | .search _ (.error error) => some error
  | .fetch _ (.error error) => some error
  | .upload _ (.error error) => some error
  | _ => none

/-- How the stored draft comes from the fetched dashboard. -/
structure Drafted (fetched document : Dashboard) : Prop where
  title : document.get? "title" = some (.string (fetched.title ++ " (WIP)"))
  id : document.get? "id" = some .null
  uid : document.get? "uid" = some .null
  others : ∀ key, key ∉ Dashboard.draftKeys → document.get? key = fetched.get? key
  keys : document.keys =
    fetched.keys ++ Dashboard.draftKeys.filter (· ∉ fetched.keys)

theorem drafted_asDraft (dashboard : Dashboard) : Drafted dashboard dashboard.asDraft where
  title := by
    simp [Dashboard.asDraft, Dashboard.setTitle, Dashboard.clearId, Dashboard.setUid,
      Dashboard.get?_set, Title.draftMark]
  id := by
    simp [Dashboard.asDraft, Dashboard.clearId, Dashboard.setUid, Dashboard.get?_set]
  uid := Dashboard.get?_set_self ..
  others _ elsewhere := dashboard.get?_asDraft_of_not_mem elsewhere
  keys := dashboard.keys_asDraft

/-- A promotion by its calls: what they are, and how its outcome depends on their
answers. -/
structure PromotionCalls (title : String) (calls : List AnsweredCall)
    (outcome : Except TransferError Promotion) : Prop where
  order : ∃ hits uid definition upload stored,
    calls <+: [.search title hits, .fetch uid definition, .upload upload stored]
  fetch : ∀ uid answer, .fetch uid answer ∈ calls →
    ∃ hits hit, .search title (.ok hits) ∈ calls ∧ firstTitled title hits = some hit ∧
      uid = hit.uid
  upload : ∀ upload answer, .upload upload answer ∈ calls →
    ∃ hits hit definition,
      calls = [.search title (.ok hits), .fetch hit.uid (.ok definition),
        .upload upload answer] ∧
      firstTitled title hits = some hit ∧
      upload.overwrite = true ∧
      upload.message = "From " ++ title ++ " under " ++ hit.folder ∧
      Drafted definition.dashboard upload.dashboard
  report : ∀ promotion, outcome = .ok promotion →
    ∃ hits hit definition upload,
      calls = [.search title (.ok hits), .fetch hit.uid (.ok definition),
        .upload upload (.ok ())] ∧
      firstTitled title hits = some hit ∧
      upload.dashboard.get? "title" = some (.string promotion.title) ∧
      promotion.sourceFolder = hit.folder ∧ promotion.sourceTitle = title
  failure : ∀ error, outcome = .error error ↔
    (∃ call ∈ calls, call.failure? = some error) ∨
      error = .notFound title ∧
        ∃ hits, .search title (.ok hits) ∈ calls ∧ ∀ hit ∈ hits, hit.title ≠ title

/-- The calls of a promotion, by the call that ends it. -/
inductive PromotionCourse (title : String) :
    List AnsweredCall → Except TransferError Promotion → Prop where
  | unsearched (error : TransferError) :
      PromotionCourse title [.search title (.error error)] (.error error)
  | missing {hits : List Hit} (absent : firstTitled title hits = none) :
      PromotionCourse title [.search title (.ok hits)] (.error (.notFound title))
  | unfetched {hits : List Hit} {hit : Hit} (first : firstTitled title hits = some hit)
      (error : TransferError) :
      PromotionCourse title [.search title (.ok hits), .fetch hit.uid (.error error)]
        (.error error)
  | refused {hits : List Hit} {hit : Hit} (first : firstTitled title hits = some hit)
      (definition : Definition) (error : TransferError) :
      PromotionCourse title
        [.search title (.ok hits), .fetch hit.uid (.ok definition),
          .upload (draftUpload title hit definition.dashboard) (.error error)]
        (.error error)
  | stored {hits : List Hit} {hit : Hit} (first : firstTitled title hits = some hit)
      (definition : Definition) :
      PromotionCourse title
        [.search title (.ok hits), .fetch hit.uid (.ok definition),
          .upload (draftUpload title hit definition.dashboard) (.ok ())]
        (.ok (promotionFor title hit definition.dashboard))

namespace PromotionCourse

variable {title : String} {calls : List AnsweredCall}
variable {outcome : Except TransferError Promotion}

theorem of_promotes (promotes : answers.Promotes title calls outcome) :
    PromotionCourse title calls outcome := by
  cases promotes with
  | notFound lookup =>
      cases lookup with
      | unsearched search =>
          cases search
          exact .unsearched _
      | missing search absent =>
          cases search
          exact .missing absent
      | unfetched search first fetch =>
          cases search
          cases fetch
          exact .unfetched first _
  | refused lookup upload =>
      cases lookup with
      | found search first fetch =>
          cases search
          cases fetch
          cases upload
          exact .refused first _ _
  | stored lookup upload =>
      cases lookup with
      | found search first fetch =>
          cases search
          cases fetch
          cases upload
          exact .stored first _

theorem order (course : PromotionCourse title calls outcome) :
    ∃ hits uid definition upload stored,
      calls <+: [.search title hits, .fetch uid definition, .upload upload stored] := by
  cases course with
  | unsearched error => exact ⟨_, "", .error error, default, .ok (), _, rfl⟩
  | missing absent => exact ⟨_, "", .error (.notFound title), default, .ok (), _, rfl⟩
  | unfetched first error => exact ⟨_, _, _, default, .ok (), _, rfl⟩
  | refused first definition error => exact ⟨_, _, _, _, _, List.prefix_refl _⟩
  | stored first definition => exact ⟨_, _, _, _, _, List.prefix_refl _⟩

theorem fetched (course : PromotionCourse title calls outcome) {uid : String}
    {answer : Except TransferError Definition} (member : .fetch uid answer ∈ calls) :
    ∃ hits hit, .search title (.ok hits) ∈ calls ∧ firstTitled title hits = some hit ∧
      uid = hit.uid := by
  cases course with
  | unsearched error => simp at member
  | missing absent => simp at member
  | unfetched first error =>
      simp only [List.mem_cons, List.not_mem_nil, or_false, reduceCtorEq, false_or] at member
      cases member
      exact ⟨_, _, List.mem_cons_self, first, rfl⟩
  | refused first definition error =>
      simp only [List.mem_cons, List.not_mem_nil, or_false, reduceCtorEq, false_or] at member
      cases member
      exact ⟨_, _, List.mem_cons_self, first, rfl⟩
  | stored first definition =>
      simp only [List.mem_cons, List.not_mem_nil, or_false, reduceCtorEq, false_or] at member
      cases member
      exact ⟨_, _, List.mem_cons_self, first, rfl⟩

/-- An upload comes behind a search and a fetch that have succeeded. -/
theorem uploaded (course : PromotionCourse title calls outcome) {upload : Upload}
    {answer : Except TransferError Unit} (member : .upload upload answer ∈ calls) :
    ∃ hits hit definition,
      calls = [.search title (.ok hits), .fetch hit.uid (.ok definition),
        .upload upload answer] ∧
      firstTitled title hits = some hit ∧
      upload = draftUpload title hit definition.dashboard := by
  cases course with
  | unsearched error => simp at member
  | missing absent => simp at member
  | unfetched first error => simp at member
  | refused first definition error =>
      simp only [List.mem_cons, List.not_mem_nil, or_false, reduceCtorEq, false_or] at member
      cases member
      exact ⟨_, _, _, rfl, first, rfl⟩
  | stored first definition =>
      simp only [List.mem_cons, List.not_mem_nil, or_false, reduceCtorEq, false_or] at member
      cases member
      exact ⟨_, _, _, rfl, first, rfl⟩

theorem reported {promotion : Promotion}
    (course : PromotionCourse title calls (.ok promotion)) :
    ∃ hits hit definition,
      calls = [.search title (.ok hits), .fetch hit.uid (.ok definition),
        .upload (draftUpload title hit definition.dashboard) (.ok ())] ∧
      firstTitled title hits = some hit ∧
      promotion = promotionFor title hit definition.dashboard := by
  cases course with
  | stored first definition => exact ⟨_, _, _, rfl, first, rfl⟩

theorem not_absent_of_firstTitled {hits : List Hit} {hit : Hit}
    (first : firstTitled title hits = some hit) :
    ¬ ∀ hit ∈ hits, ¬ hit.title = title := by
  obtain ⟨member, titled⟩ := mem_of_firstTitled first
  intro absent
  exact absent hit member titled

/-- A promotion fails by the failure of a call, or because no hit bears the title. -/
theorem failed_iff (course : PromotionCourse title calls outcome) (error : TransferError) :
    outcome = .error error ↔
      (∃ call ∈ calls, call.failure? = some error) ∨
        error = .notFound title ∧
          ∃ hits, .search title (.ok hits) ∈ calls ∧ ∀ hit ∈ hits, hit.title ≠ title := by
  cases course with
  | unsearched cause => simp [AnsweredCall.failure?]
  | missing absent =>
      constructor
      · intro failed
        cases failed
        exact .inr ⟨rfl, _, List.mem_cons_self, absent_of_firstTitled absent⟩
      · rintro (⟨call, member, failed⟩ | ⟨rfl, _⟩)
        · rw [List.mem_singleton.mp member] at failed
          cases failed
        · rfl
  -- From here on the search has found a hit, so only the failure of a call is left.
  | unfetched first cause =>
      have present := not_absent_of_firstTitled first
      simp [AnsweredCall.failure?, present]
  | refused first definition cause =>
      have present := not_absent_of_firstTitled first
      simp [AnsweredCall.failure?, present]
  | stored first definition =>
      have present := not_absent_of_firstTitled first
      simp [AnsweredCall.failure?, present]

theorem account (course : PromotionCourse title calls outcome) :
    PromotionCalls title calls outcome where
  order := course.order
  fetch _ _ member := course.fetched member
  upload upload answer member := by
    obtain ⟨hits, hit, definition, same, first, rfl⟩ := course.uploaded member
    exact ⟨hits, hit, definition, same, first, rfl, rfl, drafted_asDraft definition.dashboard⟩
  report promotion reported := by
    subst reported
    obtain ⟨hits, hit, definition, same, first, rfl⟩ := course.reported
    exact ⟨hits, hit, definition, _, same, first,
      (drafted_asDraft definition.dashboard).title, rfl, rfl⟩
  failure error := course.failed_iff error

end PromotionCourse

/-- A promotion makes the calls of its protocol and no others, with or without a history,
and leaves the files to the catalogue. -/
theorem promote_calls (catalogue : Catalogue (StateM (World σ))) (title : String)
    {world after : World (Watched AnsweredCall σ)} {outcome : Except TransferError Promotion}
    (ran : carryOut (promote catalogue.watched World.machine title) world = (outcome, after)) :
    (∃ calls, after.server.history = world.server.history ++ calls ∧
      PromotionCalls title calls outcome) ∧
    carryOut (promote catalogue World.machine title) (world.mapServer Watched.server) =
      (outcome, after.mapServer Watched.server) ∧
    (catalogue.KeepsFiles → after.files = world.files) := by
  obtain ⟨calls, history, promotes⟩ := promote_enters catalogue.watched_obeys title world
  have plain := promote_refines catalogue.watched_refines title world
  rw [ran] at history promotes plain
  refine ⟨⟨calls, history, (PromotionCourse.of_promotes promotes).account⟩, plain, ?_⟩
  intro keeps
  have kept := promote_leavesFiles keeps.watched title world
  rw [ran] at kept
  exact kept

/-- A reference dashboard behind one whose title only contains the wanted one. -/
def crowdedShelf : World (Watched AnsweredCall Shelf) where
  server := ⟨{ held := [
    (⟨"Disk-ref (WIP)", "d2", none⟩, .object [("title", .string "Disk-ref (WIP)")]),
    (⟨"Disk-ref", "d1", some "hosts"⟩, .object [("panels", .array []),
      ("title", .string "Disk-ref"), ("uid", .string "d1")])] }, []⟩
  files := ⟨[], []⟩
  log := []
  clock := 5

def crowdedRun : Except TransferError Promotion × World (Watched AnsweredCall Shelf) :=
  carryOut (promote shelves.watched World.machine "Disk-ref") crowdedShelf

theorem promote_calls_sample :
    crowdedRun = (.ok ⟨"hosts", "Disk-ref", "Disk-ref (WIP)"⟩, crowdedRun.2) ∧
    (∃ calls, crowdedRun.2.server.history = calls ∧ calls.length = 3 ∧
      PromotionCalls "Disk-ref" calls (.ok ⟨"hosts", "Disk-ref", "Disk-ref (WIP)"⟩)) ∧
    crowdedRun.2.files = crowdedShelf.files := by
  have ran : crowdedRun = (.ok ⟨"hosts", "Disk-ref", "Disk-ref (WIP)"⟩, crowdedRun.2) := rfl
  obtain ⟨⟨calls, history, account⟩, _, files⟩ := promote_calls shelves "Disk-ref" ran
  refine ⟨ran, ⟨calls, history, ?_, account⟩, files (World.catalogue_keepsFiles _)⟩
  rw [← List.nil_append calls]
  exact congrArg List.length history.symm

end DraftBoard
