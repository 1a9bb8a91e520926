import DraftBoard.Proofs.Transfer.Hosting
import DraftBoard.Proofs.Transfer.Saving

/-!
# A remote server simulates a shelf

On a server that serves a shelf every transfer comes to the same outcome as on the
shelf itself and leaves the same files.  The invariant is `Mirrors`; a transfer keeps
it because each of its calls does.
-/

namespace DraftBoard

open Http Url

section

variable {τ : Type} {transport : Transport (StateM τ)} {received : τ → List Request}
variable {account : Account} {site : List Char} {authority : Authority}
variable {held : List (Hit × Json)} {posts : List (Except Json.Problem Json)}
variable {uploads : List Upload} {world : World τ} {shelf : World Shelf}
variable {α : Type} {title : String}

/-- A title that no dashboard bears, or a refusal of the file system. -/
def TransferError.IsOrdinary (error : TransferError) : Prop :=
  (∃ title, error = .notFound title) ∨ ∃ path cause, error = .filesystem path cause

/-- Two runs with the same outcome, after which one world still mirrors the other. -/
structure Agree (received : τ → List Request) (held : List (Hit × Json))
    (posts : List (Except Json.Problem Json)) (uploads : List Upload)
    (run : Except TransferError α × World τ) (model : Except TransferError α × World Shelf) :
    Prop where
  outcome : run.1 = model.1
  failure : ∀ error, model.1 = .error error → error.IsOrdinary
  mirrors : Mirrors received held posts uploads run.2 model.2

theorem isOrdinary_of_not_found (title : String) (error : TransferError)
    (failed : (.error (.notFound title) : Except TransferError α) = .error error) :
    error.IsOrdinary := by
  cases failed
  exact .inl ⟨title, rfl⟩

theorem Agree.of_model {run : Except TransferError α × World τ}
    {outcome : Except TransferError α} {left : World Shelf}
    (agree : Agree received held posts uploads run (outcome, left)) :
    ∃ after, run = (outcome, after) ∧ Mirrors received held posts uploads after left := by
  obtain ⟨reached, after⟩ := run
  obtain ⟨same, _, mirrors⟩ := agree
  exact ⟨after, congrArg (·, after) same, mirrors⟩

/-- A lookup on a shelf of dashboards that can be sent finds one of them, or none that
bears the title. -/
theorem find_shelf_cases (sendable : ∀ entry ∈ shelf.server.held, Sendable entry)
    (title : String) :
    ∃ calls log,
      carryOut (find shelves World.machine title) shelf =
          (.error (.notFound title), shelf.called calls log) ∨
        ∃ hit definition, carryOut (find shelves World.machine title) shelf =
            (.ok (hit, definition), shelf.called calls log) ∧
          Json.Readable (Json.depthLimit - 1) definition.dashboard.toJson := by
  cases titled : shelf.server.titled? title with
  | none =>
      obtain ⟨log, run⟩ := find_of_not_titled titled
      exact ⟨_, log, .inl run⟩
  | some entry =>
      obtain ⟨hit, document⟩ := entry
      obtain ⟨dashboard, defined, readable⟩ :=
        Shelf.definition_of_mem _ sendable (Shelf.mem_of_titled? titled)
      obtain ⟨log, run⟩ := find_of_titled titled
      rw [defined] at run
      exact ⟨_, log, .inr ⟨hit, ⟨dashboard, Shelf.about⟩, run, readable⟩⟩

/-- A lookup finds on the server what it finds on the shelf. -/
theorem remote_find (isOn : account.IsOn site authority)
    (serves : Serves transport received authority.server held)
    (sendable : ∀ entry ∈ held, Sendable entry)
    (mirrors : Mirrors received held posts uploads world shelf)
    (reaches : Reaches authority held title) :
    Agree received held posts uploads
      (carryOut (find (remote transport account) World.machine title) world)
      (carryOut (find shelves World.machine title) shelf) := by
  obtain ⟨searched, search, related⟩ := remote_search isOn serves mirrors reaches.search
  have first := Shelf.find?_hits shelf.server title
  cases titled : shelf.server.titled? title with
  | none =>
      rw [titled] at first
      obtain ⟨log, run⟩ := find_of_no_hit search first
      obtain ⟨left, model⟩ := find_of_not_titled titled
      rw [run, model]
      exact ⟨rfl, isOrdinary_of_not_found title, (related.noted log).called _ left⟩
  | some entry =>
      obtain ⟨hit, document⟩ := entry
      rw [titled] at first
      have sameTitled : Shelf.titled? { held := held } title = some (hit, document) :=
        (Shelf.titled?_congr mirrors.held.symm title).trans titled
      obtain ⟨before, goesOn⟩ := find_of_hit search first
      obtain ⟨definition, fetched, defined, fetch, fetchedRelated⟩ :=
        remote_fetch isOn serves sendable (related.noted before)
          (Shelf.mem_of_titled? sameTitled) (reaches.fetch _ sameTitled)
      obtain ⟨behind, run⟩ := goesOn _ _ fetch
      obtain ⟨left, model⟩ := find_of_titled titled
      rw [run, model, defined]
      refine ⟨rfl, ?_, (fetchedRelated.noted behind).called _ left⟩
      intro error failed
      cases failed

theorem Dashboard.readable_set {depth : Nat} {dashboard : Dashboard} {value : Json}
    (readable : Json.Readable (depth + 1) dashboard.toJson) (key : String)
    (new : Json.Readable depth value) :
    Json.Readable (depth + 1) (dashboard.set key value).toJson :=
  Json.Readable.insert readable key new

theorem readable_asDraft {depth : Nat} {dashboard : Dashboard}
    (readable : Json.Readable (depth + 1) dashboard.toJson) :
    Json.Readable (depth + 1) dashboard.asDraft.toJson := by
  unfold Dashboard.asDraft Dashboard.setTitle Dashboard.clearId Dashboard.setUid
  refine Dashboard.readable_set ?_ "uid" .null
  refine Dashboard.readable_set ?_ "id" .null
  exact Dashboard.readable_set readable "title" (.string _)

/-- A promotion posts to the server what it stores on the shelf. -/
theorem remote_promote (isOn : account.IsOn site authority)
    (serves : Serves transport received authority.server held)
    (sendable : ∀ entry ∈ held, Sendable entry)
    (mirrors : Mirrors received held posts uploads world shelf)
    (reaches : Reaches authority held title) :
    Agree received held posts uploads
      (carryOut (promote (remote transport account) World.machine title) world)
      (carryOut (promote shelves World.machine title) shelf) := by
  have agree := remote_find isOn serves sendable mirrors reaches
  obtain ⟨calls, log, missing | ⟨hit, definition, found, readable⟩⟩ :=
    find_shelf_cases (mirrors.held.symm ▸ sendable) title
  · rw [missing] at agree
    obtain ⟨after, remoteMissing, related⟩ := agree.of_model
    rw [promote_of_not_found missing, promote_of_not_found remoteMissing]
    exact ⟨rfl, isOrdinary_of_not_found title, related⟩
  · rw [found] at agree
    obtain ⟨looked, remoteFound, related⟩ := agree.of_model
    have draftReadable : Json.Readable (Json.depthLimit - 1)
        (draftUpload title hit definition.dashboard).dashboard.toJson :=
      readable_asDraft readable
    obtain ⟨after, uploaded, relatedAfter⟩ :=
      remote_upload isOn serves related reaches.search.upload draftReadable
    rw [promote_of_found found, promote_of_found remoteFound, uploaded]
    refine ⟨rfl, ?_, relatedAfter⟩
    intro error failed
    cases failed

theorem eq_error_of_map {β : Type} {result : α → β} {outcome : Except TransferError α}
    {error : TransferError} (failed : outcome.map result = .error error) :
    outcome = .error error := by
  cases outcome with
  | ok done => cases failed
  | error cause =>
      cases failed
      rfl

/-- A saving writes what it writes for the shelf. -/
theorem remote_save (options : SaveOptions) (isOn : account.IsOn site authority)
    (serves : Serves transport received authority.server held)
    (sendable : ∀ entry ∈ held, Sendable entry)
    (mirrors : Mirrors received held posts uploads world shelf)
    (reaches : Reaches authority held (Title.draft title)) :
    Agree received held posts uploads
      (carryOut (save (remote transport account) World.machine title options) world)
      (carryOut (save shelves World.machine title options) shelf) := by
  have agree := remote_find isOn serves sendable mirrors reaches
  obtain ⟨calls, log, missing | ⟨hit, definition, found, _⟩⟩ :=
    find_shelf_cases (mirrors.held.symm ▸ sendable) (Title.draft title)
  · rw [missing] at agree
    obtain ⟨after, remoteMissing, related⟩ := agree.of_model
    rw [save_of_not_found missing, save_of_not_found remoteMissing]
    exact ⟨rfl, isOrdinary_of_not_found (Title.draft title), related⟩
  · rw [found] at agree
    obtain ⟨looked, remoteFound, related⟩ := agree.of_model
    obtain ⟨remoteLog, run⟩ := save_of_found options remoteFound
    obtain ⟨left, model⟩ := save_of_found options found
    rw [related.files, related.clock] at run
    cases provisioned : FileTree.provision (options.pathFor definition.dashboard)
      (provisionedText (options.documentFor definition.dashboard (shelf.called calls log).clock))
      (shelf.called calls log).files with
    | mk outcome written =>
        rw [provisioned] at run model
        rw [run, model]
        refine ⟨rfl, ?_, rfl, rfl, related.held, related.uploads⟩
        intro error failed
        have refused := eq_error_of_map failed
        exact .inr (FileTree.provision_error ((congrArg Prod.fst provisioned).trans refused))

/-- A run against a server follows the run on a shelf: the outcome and the files are the
same, and what is stored on the shelf is posted to the server. -/
structure Follows (received : τ → List Request)
    (action : ExceptT TransferError (StateM (World τ)) α)
    (model : ExceptT TransferError (StateM (World Shelf)) α) (world : World τ)
    (shelf : World Shelf) : Prop where
  outcome : (carryOut action world).1 = (carryOut model shelf).1
  failure : ∀ error, (carryOut action world).1 = .error error → error.IsOrdinary
  files : (carryOut action world).2.files = (carryOut model shelf).2.files
  uploads : ∃ further,
    (carryOut model shelf).2.server.uploads = shelf.server.uploads ++ further ∧
    posted (received (carryOut action world).2.server) =
      posted (received world.server) ++ further.map fun upload => .ok upload.toJson

theorem Agree.follows {action : ExceptT TransferError (StateM (World τ)) α}
    {model : ExceptT TransferError (StateM (World Shelf)) α}
    (agree : Agree received held (posted (received world.server)) shelf.server.uploads
      (carryOut action world) (carryOut model shelf)) :
    Follows received action model world shelf where
  outcome := agree.outcome
  failure error failed := agree.failure error (agree.outcome ▸ failed)
  files := agree.mirrors.files
  uploads := agree.mirrors.uploads

/-- A lookup does not get through when one of its URLs is too long. -/
theorem remote_find_of_not_reaches (isOn : account.IsOn site authority)
    (serves : Serves transport received authority.server held)
    (sendable : ∀ entry ∈ held, Sendable entry)
    (mirrors : Mirrors received held posts uploads world shelf)
    (refused : ¬ Reaches authority held title) :
    ∃ url cause after, carryOut (find (remote transport account) World.machine title) world =
      (.error (.transport url cause), after) := by
  by_cases search : Carries authority (searchTarget title)
  · obtain ⟨searched, ran, _⟩ := remote_search isOn serves mirrors search
    have first := Shelf.find?_hits shelf.server title
    have sameTitled : shelf.server.titled? title = Shelf.titled? { held := held } title :=
      Shelf.titled?_congr mirrors.held title
    rw [sameTitled] at first
    cases titled : Shelf.titled? { held := held } title with
    | none =>
        refine absurd ⟨search, fun entry found => ?_⟩ refused
        rw [titled] at found
        cases found
    | some entry =>
        rw [titled] at first
        have tooLong : ¬ Carries authority (fetchTarget entry.1.uid) := by
          intro carries
          refine refused ⟨search, fun other found => ?_⟩
          rw [titled] at found
          cases found
          exact carries
        obtain ⟨before, goesOn⟩ := find_of_hit ran first
        obtain ⟨cause, log, failed⟩ := remote_fetch_of_not_carried isOn transport
          { searched with log := before } (sendable entry (Shelf.mem_of_titled? titled)) tooLong
        obtain ⟨behind, run⟩ := goesOn _ _ failed
        exact ⟨_, _, _, run⟩
  · obtain ⟨cause, log, failed⟩ := remote_search_of_not_carried isOn transport world search
    exact ⟨_, _, _, find_of_search_error failed⟩

/-- What every transport failure refutes holds of a run that follows. -/
theorem Follows.of_refuted {action : ExceptT TransferError (StateM (World τ)) α}
    {model : ExceptT TransferError (StateM (World Shelf)) α} {condition : Prop}
    (follows : Follows received action model world shelf)
    (lost : ¬ condition → ∃ url cause after,
      carryOut action world = (.error (.transport url cause), after)) : condition := by
  apply Classical.byContradiction
  intro refused
  obtain ⟨url, cause, after, run⟩ := lost refused
  rcases follows.failure _ (congrArg Prod.fst run) with ⟨_, same⟩ | ⟨_, _, same⟩
  · cases same
  · cases same

/-- Transfers follow the shelf exactly when requests can carry the URLs that the lookup
asks for. -/
theorem transfers_follow_shelf (title : String) (options : SaveOptions)
    (isOn : account.IsOn site authority)
    (serves : Serves transport received authority.server held)
    (sendable : ∀ entry ∈ held, Sendable entry) (stocked : shelf.server.held = held)
    (files : world.files = shelf.files) (clock : world.clock = shelf.clock) :
    (Follows received (find (remote transport account) World.machine title)
        (find shelves World.machine title) world shelf ↔ Reaches authority held title) ∧
    (Follows received (promote (remote transport account) World.machine title)
        (promote shelves World.machine title) world shelf ↔ Reaches authority held title) ∧
    (Follows received (save (remote transport account) World.machine title options)
        (save shelves World.machine title options) world shelf ↔
      Reaches authority held (Title.draft title)) := by
  have mirrors : Mirrors received held (posted (received world.server)) shelf.server.uploads
      world shelf :=
    ⟨files, clock, stocked, [], (List.append_nil _).symm, (List.append_nil _).symm⟩
  refine ⟨⟨?_, ?_⟩, ⟨?_, ?_⟩, ⟨?_, ?_⟩⟩
  · intro follows
    exact follows.of_refuted (remote_find_of_not_reaches isOn serves sendable mirrors)
  · intro reaches
    exact (remote_find isOn serves sendable mirrors reaches).follows
  · intro follows
    apply follows.of_refuted
    intro refused
    obtain ⟨url, cause, after, run⟩ :=
      remote_find_of_not_reaches isOn serves sendable mirrors refused
    exact ⟨url, cause, after, promote_of_not_found run⟩
  · intro reaches
    exact (remote_promote isOn serves sendable mirrors reaches).follows
  · intro follows
    apply follows.of_refuted
    intro refused
    obtain ⟨url, cause, after, run⟩ :=
      remote_find_of_not_reaches isOn serves sendable mirrors refused
    exact ⟨url, cause, after, save_of_not_found run⟩
  · intro reaches
    exact (remote_save options isOn serves sendable mirrors reaches).follows

end

def localSite : List Char := "localhost:3000".toList

def localAuthority : Authority where
  user := []
  password := []
  host := .name "localhost".toList
  port := some 3000

def localAccount : Account where
  rootUrl := "http://localhost:3000/"
  user := "draftboard"
  password := "secret"

def localRemote (shelf : Shelf) : Catalogue (StateM (World (List Request))) :=
  remote shelf.transport localAccount

/-- A world with a server in the place of the shelf. -/
def hosted (world : World Shelf) : World (List Request) where
  server := []
  files := world.files
  log := world.log
  clock := world.clock

theorem localAccount_isOn : localAccount.IsOn localSite localAuthority where
  plain := Text.forall_mem_of_all rfl
  read := rfl
  carried := rfl
  root := ⟨1, rfl⟩

theorem sampleDraft_readable : Json.Readable (Json.depthLimit - 1) sampleDraft.toJson := by
  have variableReadable : Json.Readable 1 (.object [("name", .string "instance")]) :=
    .object (by decide) (List.forall_mem_singleton.mpr (.string "instance"))
  have listReadable : Json.Readable 2 (.array [.object [("name", .string "instance")]]) :=
    .array (List.forall_mem_singleton.mpr variableReadable)
  have templatingReadable : Json.Readable 3
      (.object [("list", .array [.object [("name", .string "instance")]])]) :=
    .object (by decide) (List.forall_mem_singleton.mpr listReadable)
  have keys : ["version", "title", "templating"].Nodup := by decide
  refine .object keys (List.forall_mem_cons.mpr ⟨.integer (by decide), ?_⟩)
  refine List.forall_mem_cons.mpr ⟨.string "Disk (WIP)", ?_⟩
  exact List.forall_mem_singleton.mpr (templatingReadable.mono (by decide))

theorem sampleWorld_sendable : ∀ entry ∈ sampleWorld.server.held, Sendable entry :=
  List.forall_mem_singleton.mpr
    ⟨⟨sampleDraft, rfl⟩, sampleDraft_readable, by decide, by decide⟩

theorem sampleWorld_reaches :
    Reaches localAuthority sampleWorld.server.held "Disk (WIP)" where
  search := by decide
  fetch entry found := by
    have only : Shelf.titled? { held := sampleWorld.server.held } "Disk (WIP)" =
      some (⟨"Disk (WIP)", "draft-1", none⟩, sampleDraft.toJson) := rfl
    rw [only] at found
    cases found
    decide

theorem transfers_follow_shelf_sample :
    Follows id (promote (localRemote sampleWorld.server) World.machine "Disk (WIP)")
      (promote shelves World.machine "Disk (WIP)") (hosted sampleWorld) sampleWorld ∧
    (carryOut (save (localRemote sampleWorld.server) World.machine "Disk (WIP)" sampleOptions)
      (hosted sampleWorld)).1 = .ok sampleSaving := by
  obtain ⟨_, promotions, savings⟩ := transfers_follow_shelf "Disk (WIP)" sampleOptions
    localAccount_isOn (Shelf.transport_serves sampleWorld.server localAuthority.server)
    sampleWorld_sendable rfl (rfl : (hosted sampleWorld).files = sampleWorld.files) rfl
  have draft : Title.draft "Disk (WIP)" = "Disk (WIP)" := by decide
  have ran : (carryOut (save shelves World.machine "Disk (WIP)" sampleOptions)
      sampleWorld).1 = .ok sampleSaving := rfl
  rw [draft] at savings
  exact ⟨promotions.mpr sampleWorld_reaches,
    (savings.mpr sampleWorld_reaches).outcome.trans ran⟩

/-- A title that is too long for a URL. -/
def longTitle : String := String.ofList (List.replicate 65535 'a')

def emptyWorld : World Shelf where
  server := { held := [] }
  files := ⟨[], []⟩
  log := []
  clock := 0

theorem long_title_not_followed :
    localAccount.IsOn localSite localAuthority ∧
    Serves emptyWorld.server.transport id localAuthority.server emptyWorld.server.held ∧
    emptyWorld.server.held = [] ∧
    (∃ log, carryOut (find shelves World.machine longTitle) emptyWorld =
      (.error (.notFound longTitle), emptyWorld.called [.search longTitle] log)) ∧
    (carryOut (find (localRemote emptyWorld.server) World.machine longTitle)
      (hosted emptyWorld)).1 ≠ (carryOut (find shelves World.machine longTitle) emptyWorld).1 := by
  have serves := emptyWorld.server.transport_serves localAuthority.server
  have nothing : ∀ entry ∈ emptyWorld.server.held, Sendable entry := by
    intro entry member
    cases member
  have mirrors : Mirrors id emptyWorld.server.held [] [] (hosted emptyWorld) emptyWorld :=
    ⟨rfl, rfl, rfl, [], rfl, rfl⟩
  have refused : ¬ Reaches localAuthority emptyWorld.server.held longTitle := by
    intro reaches
    exact not_carries_replicate (by decide) reaches.search
  have untitled : emptyWorld.server.titled? longTitle = none := rfl
  obtain ⟨log, missing⟩ := find_of_not_titled untitled
  obtain ⟨url, cause, after, lost⟩ :=
    remote_find_of_not_reaches localAccount_isOn serves nothing mirrors refused
  refine ⟨localAccount_isOn, serves, rfl, ⟨log, missing⟩, ?_⟩
  rw [localRemote, lost, missing]
  intro same
  cases same

end DraftBoard
