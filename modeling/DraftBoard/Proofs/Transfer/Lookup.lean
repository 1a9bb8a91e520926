import DraftBoard.Proofs.Transfer.Runs
import DraftBoard.Transfer.Find

/-!
# Lookups step by step

A lookup searches, picks the first hit with the title, and fetches its uid.  The
only other thing that it does is to write to the log.
-/

namespace DraftBoard

variable {σ : Type}

variable {catalogue : Catalogue (StateM (World σ))} {title : String}
variable {world searched : World σ} {hits : List Hit}

theorem find_of_search_error {error : TransferError} {after : World σ}
    (failed : carryOut (catalogue.search title) world = (.error error, after)) :
    carryOut (find catalogue World.machine title) world = (.error error, after) :=
  carryOut_bind_of_error failed _

/-- Without a hit that bears the title nothing is fetched. -/
theorem find_of_no_hit
    (search : carryOut (catalogue.search title) world = (.ok hits, searched))
    (absent : hits.find? (fun hit => hit.title == title) = none) :
    ∃ log, carryOut (find catalogue World.machine title) world =
      (.error (.notFound title), { searched with log := log }) := by
  unfold find
  rw [carryOut_bind_of_ok search, carryOut_bind]
  simp only [liftM, carryOut_lift, absent, World.note_run, carryOut_throw]
  exact ⟨_, rfl⟩

/-- With a hit the lookup goes the way of its fetch. -/
theorem find_of_hit {hit : Hit}
    (search : carryOut (catalogue.search title) world = (.ok hits, searched))
    (first : hits.find? (fun hit => hit.title == title) = some hit) :
    ∃ before : List Event, ∀ outcome fetched,
      carryOut (catalogue.fetch hit.uid) { searched with log := before } = (outcome, fetched) →
      ∃ behind, carryOut (find catalogue World.machine title) world =
        (outcome.map (fun definition => (hit, definition)), { fetched with log := behind }) := by
  unfold find
  rw [carryOut_bind_of_ok search, carryOut_bind]
  simp only [liftM, carryOut_lift, first, World.note_run]
  refine ⟨searched.log ++ [⟨.debug, .lookup, "Search for " ++ Text.quoted title ++
    " returned " ++ toString hits.length ++ " hits"⟩], ?_⟩
  intro outcome fetched fetch
  cases outcome with
  | error error =>
      rw [carryOut_bind_of_error fetch]
      exact ⟨fetched.log, rfl⟩
  | ok definition =>
      rw [carryOut_bind_of_ok fetch, carryOut_bind]
      simp only [carryOut_lift, World.note_run, carryOut_pure]
      exact ⟨_, rfl⟩

end DraftBoard
