import DraftBoard.Proofs.Steps
import DraftBoard.Transfer.Catalogue

/-!
# Carrying out transfers

`carryOut` is what a transfer comes to from a state.  It passes through a
sequence of steps up to the first one that fails.
-/

namespace DraftBoard

variable {σ α β : Type}

/-- What an action comes to from a state: its outcome and the state that it
leaves. -/
def carryOut (action : ExceptT TransferError (StateM σ) α) (state : σ) :
    Except TransferError α × σ :=
  action.run.run state

@[simp] theorem carryOut_pure (result : α) (state : σ) :
    carryOut (pure result) state = (.ok result, state) := rfl

@[simp] theorem carryOut_throw (error : TransferError) (state : σ) :
    carryOut (throw error : ExceptT TransferError (StateM σ) α) state =
      (.error error, state) := rfl

/-- A step that cannot fail. -/
@[simp] theorem carryOut_lift (step : StateM σ α) (state : σ) :
    carryOut (monadLift step) state = (.ok (step.run state).1, (step.run state).2) := rfl

theorem carryOut_bind (first : ExceptT TransferError (StateM σ) α)
    (next : α → ExceptT TransferError (StateM σ) β) (state : σ) :
    carryOut (first >>= next) state =
      match carryOut first state with
      | (.ok result, between) => carryOut (next result) between
      | (.error error, after) => (.error error, after) := by
  rw [carryOut, run_run_bind, ← carryOut]
  cases carryOut first state with
  | mk outcome between => cases outcome <;> rfl

theorem carryOut_bind_of_ok {first : ExceptT TransferError (StateM σ) α} {state between : σ}
    {result : α} (done : carryOut first state = (.ok result, between))
    (next : α → ExceptT TransferError (StateM σ) β) :
    carryOut (first >>= next) state = carryOut (next result) between := by
  rw [carryOut_bind, done]

theorem carryOut_bind_of_error {first : ExceptT TransferError (StateM σ) α} {state after : σ}
    {error : TransferError} (failed : carryOut first state = (.error error, after))
    (next : α → ExceptT TransferError (StateM σ) β) :
    carryOut (first >>= next) state = (.error error, after) := by
  rw [carryOut_bind, failed]

theorem carryOut_bind_pure (first : ExceptT TransferError (StateM σ) α) (result : α → β)
    (state : σ) :
    carryOut (first >>= fun found => pure (result found)) state =
      ((carryOut first state).1.map result, (carryOut first state).2) := by
  rw [carryOut_bind]
  cases carryOut first state with
  | mk reached between => cases reached <;> rfl

namespace World

@[simp] theorem note_run (event : Event) (world : World σ) :
    (machine.note event).run world =
      ((), { world with log := world.log ++ [event] }) := rfl

@[simp] theorem now_run (world : World σ) :
    (machine.now : StateM (World σ) Int).run world = (world.clock, world) := rfl

end World

end DraftBoard
