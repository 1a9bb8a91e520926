import DraftBoard.Proofs.Transfer.Promoting
import Mathlib.Data.List.Forall2

/-!
# The accounts of a shelf

A shelf is worked on by any number of operations, some of which fail halfway.  `Performs`
says what each of them adds to the accounts of the shelf; over a whole run nothing is
stored twice, nothing is lost, and nothing is fetched that has not been searched for.
-/

namespace DraftBoard

/-- What is done with a shelf, and what happens to the machine in between. -/
inductive Operation where
  | search (query : String)
  | fetch (uid : String)
  | upload (request : Upload)
  | find (title : String)
  | promote (title : String)
  | save (title : String) (options : SaveOptions)
  /-- The machine gets other files and another time. -/
  | meanwhile (files : FileTree) (clock : Int)

namespace Operation

/-- Carries out an operation; of the result it keeps whether there is one. -/
def perform : Operation → ExceptT TransferError (StateM (World Shelf)) Unit
  | .search query => discard (shelves.search query)
  | .fetch uid => discard (shelves.fetch uid)
  | .upload request => shelves.upload request
  | .find title => discard (DraftBoard.find shelves World.machine title)
  | .promote title => discard (DraftBoard.promote shelves World.machine title)
  | .save title options => discard (DraftBoard.save shelves World.machine title options)
  | .meanwhile files clock => modify fun world => { world with files := files, clock := clock }

/-- The title that an operation looks up. -/
def lookup? : Operation → Option String
  | .find title => some title
  | .promote title => some title
  | .save title _ => some (Title.draft title)
  | _ => none

end Operation

/-- An operation that has been carried out: how it ended, and the calls that the shelf
received from it. -/
structure Deed where
  operation : Operation
  outcome : Except TransferError Unit
  calls : List Call

namespace Deed

/-- Whether something has been stored: by an upload, or by a promotion that succeeded. -/
def stores : Deed → Bool
  | ⟨.upload _, _, _⟩ => true
  | ⟨.promote _, .ok (), _⟩ => true
  | _ => false

/-- What is stored by a deed on a shelf. -/
inductive Sends (shelf : Shelf) : Deed → Upload → Prop where
  | direct (request : Upload) (calls : List Call) :
      Sends shelf ⟨.upload request, .ok (), calls⟩ request
  | draft {title : String} {hit : Hit} {document : Json} {definition : Definition}
      (first : shelf.titled? title = some (hit, document))
      (read : shelf.definition hit.uid = .ok definition) (calls : List Call) :
      Sends shelf ⟨.promote title, .ok (), calls⟩ (draftUpload title hit definition.dashboard)

end Deed

namespace Operation

/-- Carries out an operation in a world, and reads the calls off the account of the shelf. -/
def deed (operation : Operation) (world : World Shelf) : Deed × World Shelf :=
  let (outcome, after) := carryOut operation.perform world
  (⟨operation, outcome, after.server.calls.drop world.server.calls.length⟩, after)

/-- Carries out operations one after another, whether or not they succeed. -/
def deeds : List Operation → World Shelf → List Deed × World Shelf
  | [], world => ([], world)
  | operation :: rest, world =>
      let (first, between) := operation.deed world
      let (others, after) := deeds rest between
      (first :: others, after)

end Operation

/-- The title of an upload. -/
def Call.uploaded? : Call → Option String
  | .upload title => some title
  | _ => none

namespace Shelf

/-- The calls and the outcome of a lookup. -/
inductive Looks (shelf : Shelf) (title : String) :
    List Call → Except TransferError (Hit × Definition) → Prop where
  | missing (absent : shelf.titled? title = none) :
      Looks shelf title [.search title] (.error (.notFound title))
  | titled {hit : Hit} {document : Json}
      (first : shelf.titled? title = some (hit, document)) :
      Looks shelf title [.search title, .fetch hit.uid]
        ((shelf.definition hit.uid).map fun definition => (hit, definition))

/-- What an operation adds to the accounts of a shelf: its calls and its uploads. -/
inductive Performs (shelf : Shelf) :
    Operation → Except TransferError Unit → List Call → List Upload → Prop where
  | searched (query : String) : Performs shelf (.search query) (.ok ()) [.search query] []
  | fetched (uid : String) (outcome : Except TransferError Unit) :
      Performs shelf (.fetch uid) outcome [.fetch uid] []
  | stored (request : Upload) :
      Performs shelf (.upload request) (.ok ()) [.upload request.dashboard.title] [request]
  | found {title : String} {calls : List Call} {found : Except TransferError (Hit × Definition)}
      (looks : shelf.Looks title calls found) :
      Performs shelf (.find title) (found.map fun _ => ()) calls []
  | unpromoted {title : String} {calls : List Call} {error : TransferError}
      (looks : shelf.Looks title calls (.error error)) :
      Performs shelf (.promote title) (.error error) calls []
  | promoted {title : String} {hit : Hit} {document : Json} {definition : Definition}
      (first : shelf.titled? title = some (hit, document))
      (read : shelf.definition hit.uid = .ok definition) :
      Performs shelf (.promote title) (.ok ())
        [.search title, .fetch hit.uid,
          .upload (draftUpload title hit definition.dashboard).dashboard.title]
        [draftUpload title hit definition.dashboard]
  | saved {title : String} {calls : List Call}
      {found : Except TransferError (Hit × Definition)}
      (looks : shelf.Looks (Title.draft title) calls found) (options : SaveOptions)
      (outcome : Except TransferError Unit) :
      Performs shelf (.save title options) outcome calls []
  | passed (files : FileTree) (clock : Int) :
      Performs shelf (.meanwhile files clock) (.ok ()) [] []

/-- The shelf with further calls and uploads on its accounts. -/
def credited (shelf : Shelf) (calls : List Call) (uploads : List Upload) : Shelf where
  held := shelf.held
  calls := shelf.calls ++ calls
  uploads := shelf.uploads ++ uploads

end Shelf

variable {world after : World Shelf} {title : String}

theorem find_looks (title : String) (world : World Shelf) :
    ∃ calls outcome log,
      carryOut (find shelves World.machine title) world = (outcome, world.called calls log) ∧
        world.server.Looks title calls outcome := by
  cases first : world.server.titled? title with
  | none =>
      obtain ⟨log, run⟩ := find_of_not_titled first
      exact ⟨_, _, log, run, .missing first⟩
  | some entry =>
      obtain ⟨log, run⟩ := find_of_titled first
      exact ⟨_, _, log, run, .titled first⟩

theorem called_server (world : World Shelf) (calls : List Call) (log : List Event) :
    (world.called calls log).server = world.server.credited calls [] := by
  simp [World.called, Shelf.credited]

theorem carryOut_discard {σ α : Type} (action : ExceptT TransferError (StateM σ) α)
    (state : σ) : carryOut (discard action) state =
      ((carryOut action state).1.map fun _ => (), (carryOut action state).2) :=
  carryOut_bind_pure action (fun _ => ()) state

/-- Every operation adds to the accounts what it performs and changes nothing else of the
shelf. -/
theorem carryOut_perform (operation : Operation) (world : World Shelf) :
    ∃ outcome calls uploads after,
      carryOut operation.perform world = (outcome, after) ∧
        after.server = world.server.credited calls uploads ∧
        world.server.Performs operation outcome calls uploads := by
  cases operation with
  | search query => exact ⟨_, _, [], _, rfl, called_server world _ world.log, .searched query⟩
  | fetch uid =>
      have run := carryOut_discard (shelves.fetch uid) world
      rw [carryOut_fetch] at run
      exact ⟨_, _, [], _, run, called_server world _ world.log, .fetched uid _⟩
  | upload request => exact ⟨_, _, _, _, carryOut_upload request world, rfl, .stored request⟩
  | find title =>
      obtain ⟨calls, outcome, log, run, looks⟩ := find_looks title world
      have ran := carryOut_discard (find shelves World.machine title) world
      rw [run] at ran
      exact ⟨_, calls, [], _, ran, called_server world calls log, .found looks⟩
  | promote title =>
      obtain ⟨calls, outcome, log, run, looks⟩ := find_looks title world
      have ran := carryOut_discard (promote shelves World.machine title) world
      cases outcome with
      | error error =>
          rw [promote_of_not_found run] at ran
          exact ⟨_, calls, [], _, ran, called_server world calls log, .unpromoted looks⟩
      | ok found =>
          obtain ⟨hit, definition⟩ := found
          rw [promote_of_found run, carryOut_upload] at ran
          obtain ⟨document, _, first, read, same⟩ := find_shelf_ok run
          refine ⟨_, _, _, _, ran, ?_, .promoted first read⟩
          rw [same]
          simp [World.called, Shelf.credited]
  | save title options =>
      obtain ⟨calls, outcome, log, run, looks⟩ := find_looks (Title.draft title) world
      have ran := carryOut_discard (save shelves World.machine title options) world
      cases outcome with
      | error error =>
          rw [save_of_not_found run] at ran
          exact ⟨_, calls, [], _, ran, called_server world calls log, .saved looks options _⟩
      | ok found =>
          obtain ⟨hit, definition⟩ := found
          obtain ⟨_, saving⟩ := save_of_found options run
          rw [saving] at ran
          exact ⟨_, calls, [], _, ran, called_server world calls log, .saved looks options _⟩
  | meanwhile files clock =>
      refine ⟨_, _, _, _, rfl, ?_, .passed files clock⟩
      simp [Shelf.credited]

namespace Shelf

/-- Every fetch comes right behind a search for a title that is on the shelf, and is for the
first dashboard with that title. -/
def Searched (shelf : Shelf) (title : String) (calls : List Call) : Prop :=
  ∀ earlier uid later, calls = earlier ++ .fetch uid :: later →
    ∃ before hit document, earlier = before ++ [.search title] ∧
      shelf.titled? title = some (hit, document) ∧ uid = hit.uid

variable {left right shelf : Shelf} {operation : Operation}
variable {outcome : Except TransferError Unit} {calls : List Call} {uploads : List Upload}

theorem Looks.congr (same : left.held = right.held) {title : String}
    {found : Except TransferError (Hit × Definition)} (looks : left.Looks title calls found) :
    right.Looks title calls found := by
  cases looks with
  | missing absent => exact .missing ((titled?_congr same title).symm.trans absent)
  | titled first =>
      rw [definition_congr same]
      exact .titled ((titled?_congr same title).symm.trans first)

theorem Performs.congr (same : left.held = right.held)
    (performs : left.Performs operation outcome calls uploads) :
    right.Performs operation outcome calls uploads := by
  cases performs with
  | searched query => exact .searched query
  | fetched uid => exact .fetched uid outcome
  | stored request => exact .stored request
  | found looks => exact .found (looks.congr same)
  | unpromoted looks => exact .unpromoted (looks.congr same)
  | promoted first read =>
      exact .promoted ((titled?_congr same _).symm.trans first)
        ((definition_congr same _).symm.trans read)
  | saved looks options => exact .saved (looks.congr same) options outcome
  | passed files clock => exact .passed files clock

/-- A deed stores one upload or none. -/
theorem Performs.sends (performs : shelf.Performs operation outcome calls uploads) :
    (Deed.stores ⟨operation, outcome, calls⟩ = true ∧
      ∃ request, uploads = [request] ∧ Deed.Sends shelf ⟨operation, outcome, calls⟩ request) ∨
    (Deed.stores ⟨operation, outcome, calls⟩ = false ∧ uploads = []) := by
  cases performs with
  | stored request => exact .inl ⟨rfl, request, rfl, .direct request _⟩
  | promoted first read => exact .inl ⟨rfl, _, rfl, .draft first read _⟩
  | searched => exact .inr ⟨rfl, rfl⟩
  | fetched => exact .inr ⟨rfl, rfl⟩
  | found => exact .inr ⟨rfl, rfl⟩
  | unpromoted => exact .inr ⟨rfl, rfl⟩
  | saved => exact .inr ⟨rfl, rfl⟩
  | passed => exact .inr ⟨rfl, rfl⟩

theorem Looks.uploaded {title : String} {found : Except TransferError (Hit × Definition)}
    (looks : shelf.Looks title calls found) : calls.filterMap Call.uploaded? = [] := by
  cases looks <;> rfl

theorem Performs.uploaded (performs : shelf.Performs operation outcome calls uploads) :
    calls.filterMap Call.uploaded? = uploads.map fun upload => upload.dashboard.title := by
  cases performs with
  | found looks => exact looks.uploaded
  | unpromoted looks => exact looks.uploaded
  | saved looks => exact looks.uploaded
  | searched => rfl
  | fetched => rfl
  | stored => rfl
  | promoted => rfl
  | passed => rfl

theorem searched_cons {title : String} {hit : Hit} {document : Json}
    (first : shelf.titled? title = some (hit, document)) {rest : List Call}
    (others : ∀ uid, .fetch uid ∉ rest) :
    shelf.Searched title (.search title :: .fetch hit.uid :: rest) := by
  intro earlier uid later split
  match earlier with
  | [] => cases split
  | [search] =>
      cases split
      exact ⟨[], hit, document, rfl, first, rfl⟩
  | search :: fetch :: further =>
      have behind : rest = further ++ .fetch uid :: later := by
        cases split
        rfl
      refine absurd ?_ (others uid)
      rw [behind]
      exact List.mem_append_right _ List.mem_cons_self

theorem Looks.searched {title : String} {found : Except TransferError (Hit × Definition)}
    (looks : shelf.Looks title calls found) : shelf.Searched title calls := by
  cases looks with
  | missing absent =>
      intro earlier uid later split
      have fetched : .fetch uid ∈ [Call.search title] := by
        rw [split]
        exact List.mem_append_right _ List.mem_cons_self
      simp at fetched
  | titled first => exact searched_cons first (by simp)

theorem Performs.lookup (performs : shelf.Performs operation outcome calls uploads)
    {title : String} (looksUp : operation.lookup? = some title) :
    shelf.Searched title calls := by
  cases performs with
  | found looks =>
      cases looksUp
      exact looks.searched
  | unpromoted looks =>
      cases looksUp
      exact looks.searched
  | promoted first =>
      cases looksUp
      exact searched_cons first (by simp)
  | saved looks =>
      cases looksUp
      exact looks.searched
  | searched => cases looksUp
  | fetched => cases looksUp
  | stored => cases looksUp
  | passed => cases looksUp

end Shelf

/-- The accounts of a run: the calls are those of its deeds, each deed that stores something
has one upload, and every lookup fetches what it has searched for. -/
structure Ledger (shelf : Shelf) (deeds : List Deed) (before after : Shelf) : Prop where
  held : after.held = before.held
  calls : after.calls = before.calls ++ deeds.flatMap Deed.calls
  uploads : ∃ further, after.uploads = before.uploads ++ further ∧
    List.Forall₂ (Deed.Sends shelf) (deeds.filter Deed.stores) further ∧
    (deeds.flatMap Deed.calls).filterMap Call.uploaded? =
      further.map fun upload => upload.dashboard.title
  lookups : ∀ deed ∈ deeds, ∀ title, deed.operation.lookup? = some title →
    shelf.Searched title deed.calls

namespace Ledger

variable {shelf before after : Shelf}

theorem nil (shelf before : Shelf) : Ledger shelf [] before before where
  held := rfl
  calls := by simp
  uploads := ⟨[], by simp, .nil, rfl⟩
  lookups := by simp

theorem cons {deed : Deed} {deeds : List Deed} {uploads : List Upload}
    (performs : shelf.Performs deed.operation deed.outcome deed.calls uploads)
    (rest : Ledger shelf deeds (before.credited deed.calls uploads) after) :
    Ledger shelf (deed :: deeds) before after where
  held := rest.held
  calls := by
    rw [rest.calls, List.flatMap_cons, Shelf.credited, List.append_assoc]
  uploads := by
    obtain ⟨further, same, sends, titles⟩ := rest.uploads
    refine ⟨uploads ++ further, ?_, ?_, ?_⟩
    · rw [same, Shelf.credited, List.append_assoc]
    · rcases performs.sends with ⟨stores, request, rfl, sent⟩ | ⟨idle, rfl⟩
      · rw [List.filter_cons_of_pos stores]
        exact .cons sent sends
      · rw [List.filter_cons_of_neg (by simp [idle])]
        exact sends
    · rw [List.flatMap_cons, List.filterMap_append, List.map_append, performs.uploaded, titles]
  lookups := by
    intro other member title looksUp
    rcases List.mem_cons.mp member with rfl | later
    · exact performs.lookup looksUp
    · exact rest.lookups other later title looksUp

end Ledger

namespace Operation

theorem operation_deeds (operations : List Operation) (world : World Shelf) :
    (deeds operations world).1.map Deed.operation = operations := by
  induction operations generalizing world with
  | nil => rfl
  | cons operation rest ih => exact congrArg (operation :: ·) (ih _)

/-- The accounts of the shelf are kept through every run. -/
theorem ledger_deeds {shelf : Shelf} (operations : List Operation) (world : World Shelf)
    (same : world.server.held = shelf.held) :
    Ledger shelf (deeds operations world).1 world.server (deeds operations world).2.server := by
  induction operations generalizing world with
  | nil => exact .nil shelf world.server
  | cons operation rest ih =>
      obtain ⟨outcome, calls, uploads, between, run, credited, performs⟩ :=
        carryOut_perform operation world
      have first : operation.deed world = (⟨operation, outcome, calls⟩, between) := by
        simp [deed, run, credited, Shelf.credited]
      have further := ih between (by rw [credited, ← same]; rfl)
      rw [credited] at further
      rw [deeds, first]
      exact .cons (performs.congr same) further

end Operation

/-- However operations follow on a shelf with empty accounts, and whichever of them fail:
what it holds stays, each upload and each promotion that succeeded is stored once and in
order, the recorded titles are those of what is stored, and every lookup fetches the first
dashboard with the title that it has just searched for. -/
theorem runs_keep_accounts {operations : List Operation} {world after : World Shelf}
    {deeds : List Deed} (noCalls : world.server.calls = []) (noUploads : world.server.uploads = [])
    (ran : Operation.deeds operations world = (deeds, after)) :
    deeds.map Deed.operation = operations ∧
    after.server.held = world.server.held ∧
    after.server.calls = deeds.flatMap Deed.calls ∧
    List.Forall₂ (Deed.Sends world.server) (deeds.filter Deed.stores) after.server.uploads ∧
    after.server.calls.filterMap Call.uploaded? =
      after.server.uploads.map (fun upload => upload.dashboard.title) ∧
    ∀ deed ∈ deeds, ∀ title, deed.operation.lookup? = some title →
      ∀ earlier uid later, deed.calls = earlier ++ .fetch uid :: later →
        ∃ before hit document, earlier = before ++ [.search title] ∧
          world.server.titled? title = some (hit, document) ∧ uid = hit.uid := by
  have operated := Operation.operation_deeds operations world
  have ledger := Operation.ledger_deeds operations world rfl
  rw [ran] at operated ledger
  obtain ⟨held, calls, ⟨further, uploads, sends, titles⟩, lookups⟩ := ledger
  rw [noCalls, List.nil_append] at calls
  rw [noUploads, List.nil_append] at uploads
  rw [← uploads] at sends titles
  rw [← calls] at titles
  exact ⟨operated, held, calls, sends, titles, lookups⟩

def busyWorld : World Shelf where
  server := { held := [
    (⟨"Disk-ref", "d1", some "hosts"⟩, .object [("title", .string "Disk-ref")]),
    (⟨"Disk (WIP)", "draft-1", none⟩, sampleDraft.toJson)] }
  files := ⟨[], []⟩
  log := []
  clock := 7

def inTheWay : FileTree where
  entries := [(["out".toList], .file "")]
  workingDirectory := []

/-- One promotion and one upload that succeed, between operations that fail: a title and a uid
that are not there, and a file in the place of a directory. -/
def busyOperations : List Operation :=
  [.promote "Memory", .promote "Disk-ref", .fetch "d2", .upload ⟨sampleDraft, "By hand", false⟩,
    .meanwhile inTheWay 8, .save "Disk" sampleOptions]

def busyRun : List Deed × World Shelf := Operation.deeds busyOperations busyWorld

theorem runs_keep_accounts_sample :
    busyRun.1.map Deed.outcome =
      [.error (.notFound "Memory"), .ok (), .error (.notFound "d2"), .ok (), .ok (),
        .error (.filesystem (.ofString "/out/hosts") .notADirectory)] ∧
    busyRun.2.server.uploads.map (fun upload => upload.dashboard.title) =
      ["Disk-ref (WIP)", "Disk (WIP)"] ∧
    List.Forall₂ (Deed.Sends busyWorld.server) (busyRun.1.filter Deed.stores)
      busyRun.2.server.uploads ∧
    busyRun.2.server.calls.filterMap Call.uploaded? = ["Disk-ref (WIP)", "Disk (WIP)"] := by
  have noCalls : busyWorld.server.calls = [] := rfl
  have noUploads : busyWorld.server.uploads = [] := rfl
  -- By eta, since `rfl` would carry out the whole run here.
  have ran : busyRun = (busyRun.1, busyRun.2) := (Prod.eta _).symm
  obtain ⟨_, _, _, sends, titles, _⟩ := runs_keep_accounts noCalls noUploads ran
  have stored : busyRun.2.server.uploads.map (fun upload => upload.dashboard.title) =
    ["Disk-ref (WIP)", "Disk (WIP)"] := by decide +kernel
  exact ⟨by decide +kernel, stored, sends, titles.trans stored⟩

end DraftBoard
