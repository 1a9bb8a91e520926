import DraftBoard.Proofs.Transfer.Runs
import DraftBoard.Transfer.Promote
import DraftBoard.Transfer.Save

/-!
# Watching a server

A watched server keeps a history of what has passed between it and a transfer.  The
transfer does nothing else because of that: `Refines` says that an action on watched
worlds is the action on plain ones, once the history is left out.
-/

namespace DraftBoard

variable {ε σ τ α β : Type}

/-- A server with a history, oldest entry first. -/
structure Watched (ε σ : Type) where
  server : σ
  history : List ε

/-- The world with its server seen in another way. -/
def World.mapServer (view : τ → σ) (world : World τ) : World σ where
  server := view world.server
  files := world.files
  log := world.log
  clock := world.clock

/-- A call to a catalogue with the answer to it. -/
inductive AnsweredCall where
  | search (query : String) (answer : Except TransferError (List Hit))
  | fetch (uid : String) (answer : Except TransferError Definition)
  | upload (request : Upload) (answer : Except TransferError Unit)

/-- A call that is answered as ever and then entered into the history. -/
def watching (entry : Except TransferError α → ε)
    (call : ExceptT TransferError (StateM (World σ)) α) :
    ExceptT TransferError (StateM (World (Watched ε σ))) α := fun world =>
  let (outcome, after) := carryOut call (world.mapServer Watched.server)
  (outcome, after.mapServer fun server => ⟨server, world.server.history ++ [entry outcome]⟩)

/-- The catalogue with a history of its calls. -/
def Catalogue.watched (catalogue : Catalogue (StateM (World σ))) :
    Catalogue (StateM (World (Watched AnsweredCall σ))) where
  search query := watching (.search query) (catalogue.search query)
  fetch uid := watching (.fetch uid) (catalogue.fetch uid)
  upload request := watching (.upload request) (catalogue.upload request)

/-- An action on worlds that show more comes to the same as one on worlds that show
less. -/
def Refines (view : τ → σ) (finer : ExceptT TransferError (StateM (World τ)) α)
    (plain : ExceptT TransferError (StateM (World σ)) α) : Prop :=
  ∀ world, carryOut plain (world.mapServer view) =
    ((carryOut finer world).1, (carryOut finer world).2.mapServer view)

/-- The same for a step that cannot fail. -/
def RefinesStep (view : τ → σ) (finer : StateM (World τ) α) (plain : StateM (World σ) α) :
    Prop :=
  ∀ world, plain.run (world.mapServer view) =
    ((finer.run world).1, (finer.run world).2.mapServer view)

variable {view : τ → σ}

namespace Refines

theorem pure (result : α) : Refines view (Pure.pure result) (Pure.pure result) := by
  intro world
  rfl

theorem throw (error : TransferError) :
    Refines view (MonadExcept.throw error : ExceptT TransferError (StateM (World τ)) α)
      (MonadExcept.throw error) := by
  intro world
  rfl

theorem lift {finer : StateM (World τ) α} {plain : StateM (World σ) α}
    (steps : RefinesStep view finer plain) :
    Refines view (monadLift finer) (monadLift plain) := by
  intro world
  rw [carryOut_lift, carryOut_lift, steps world]

theorem bind {first : ExceptT TransferError (StateM (World τ)) α}
    {plain : ExceptT TransferError (StateM (World σ)) α}
    {next : α → ExceptT TransferError (StateM (World τ)) β}
    {plainNext : α → ExceptT TransferError (StateM (World σ)) β}
    (firstRefines : Refines view first plain)
    (nextRefines : ∀ result, Refines view (next result) (plainNext result)) :
    Refines view (first >>= next) (plain >>= plainNext) := by
  intro world
  rw [carryOut_bind, carryOut_bind, firstRefines world]
  cases carryOut first world with
  | mk outcome between =>
      cases outcome with
      | error error => rfl
      | ok result => exact nextRefines result between

end Refines

theorem refinesStep_note (event : Event) :
    RefinesStep view (World.machine.note event) (World.machine.note event) := by
  intro world
  rfl

theorem refinesStep_now : RefinesStep view World.machine.now World.machine.now := by
  intro world
  rfl

theorem refinesStep_onFiles (step : FileTree → α × FileTree) :
    RefinesStep view (World.onFiles step) (World.onFiles step) := by
  intro world
  rfl

theorem watching_refines (entry : Except TransferError α → ε)
    (call : ExceptT TransferError (StateM (World σ)) α) :
    Refines Watched.server (watching entry call) call := by
  intro world
  rfl

/-- Each call to a catalogue comes to the same as a call to another one. -/
structure Catalogue.Refines (view : τ → σ) (finer : Catalogue (StateM (World τ)))
    (plain : Catalogue (StateM (World σ))) : Prop where
  search : ∀ query, DraftBoard.Refines view (finer.search query) (plain.search query)
  fetch : ∀ uid, DraftBoard.Refines view (finer.fetch uid) (plain.fetch uid)
  upload : ∀ request, DraftBoard.Refines view (finer.upload request) (plain.upload request)

theorem Catalogue.watched_refines (catalogue : Catalogue (StateM (World σ))) :
    Catalogue.Refines Watched.server catalogue.watched catalogue where
  search query := watching_refines _ (catalogue.search query)
  fetch uid := watching_refines _ (catalogue.fetch uid)
  upload request := watching_refines _ (catalogue.upload request)

section

variable {finer : Catalogue (StateM (World τ))} {plain : Catalogue (StateM (World σ))}

theorem find_refines (refines : Catalogue.Refines view finer plain) (title : String) :
    Refines view (find finer World.machine title) (find plain World.machine title) := by
  unfold find
  apply (refines.search title).bind
  intro hits
  apply (Refines.lift (refinesStep_note _)).bind
  intro noted
  cases hits.find? (fun hit => hit.title == title) with
  | none => exact .throw _
  | some hit =>
      apply (refines.fetch hit.uid).bind
      intro definition
      apply (Refines.lift (refinesStep_note _)).bind
      intro noted
      exact .pure _

theorem promote_refines (refines : Catalogue.Refines view finer plain) (title : String) :
    Refines view (promote finer World.machine title) (promote plain World.machine title) := by
  unfold promote
  apply (find_refines refines title).bind
  intro found
  apply (refines.upload _).bind
  intro stored
  exact .pure _

theorem blaming_refines (path : Path) (step : FileTree → Except FileError Unit × FileTree) :
    Refines view (blaming path (World.onFiles step)) (blaming path (World.onFiles step)) := by
  unfold blaming
  apply (Refines.lift (refinesStep_onFiles step)).bind
  intro outcome
  cases outcome with
  | ok done => exact .pure _
  | error cause => exact .throw _

theorem writeDashboard_refines (path : Path) (dashboard : Dashboard) :
    Refines view (writeDashboard World.machine path dashboard)
      (writeDashboard World.machine path dashboard) := by
  unfold writeDashboard
  have write : Refines view
      (blaming path (World.machine.writeFile path (provisionedText dashboard)))
      (blaming path (World.machine.writeFile path (provisionedText dashboard))) :=
    blaming_refines path (FileTree.writeFile path (provisionedText dashboard))
  cases path.parent? with
  | none =>
      apply write.bind
      intro written
      exact .lift (refinesStep_note _)
  | some parent =>
      apply (blaming_refines parent (FileTree.makeDirectories parent)).bind
      intro made
      apply write.bind
      intro written
      exact .lift (refinesStep_note _)

theorem settleSelections_refines (options : SaveOptions) (draft : Dashboard) :
    RefinesStep view (settleSelections World.machine options draft)
      (settleSelections World.machine options draft) := by
  intro world
  unfold settleSelections
  cases options.keepSelections <;> rfl

theorem save_refines (refines : Catalogue.Refines view finer plain) (title : String)
    (options : SaveOptions) :
    Refines view (save finer World.machine title options)
      (save plain World.machine title options) := by
  unfold save
  apply (find_refines refines (Title.draft title)).bind
  intro found
  apply (Refines.lift (settleSelections_refines options found.2.dashboard)).bind
  intro settled
  apply (Refines.lift refinesStep_now).bind
  intro version
  apply (writeDashboard_refines _ _).bind
  intro written
  exact .pure _

end

end DraftBoard
