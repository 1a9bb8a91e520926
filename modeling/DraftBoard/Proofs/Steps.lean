/-!
# Steps that may fail

Steps in a row succeed if each of them does.  With a state, the second step takes over the
state that the first one has left.
-/

namespace DraftBoard

theorem bind_eq_ok {ε α β : Type} {first : Except ε α} {next : α → Except ε β} {result : β} :
    first >>= next = .ok result ↔ ∃ found, first = .ok found ∧ next found = .ok result := by
  cases first with
  | error error => simp [bind, Except.bind]
  | ok found => simp [bind, Except.bind]

/-- A run is known to have succeeded from its result alone. -/
theorem eq_ok_of_toOption {ε α σ : Type} {run : Except ε α × σ} {result : α}
    (reported : run.1.toOption = some result) : run = (.ok result, run.2) := by
  obtain ⟨outcome, after⟩ := run
  cases outcome with
  | error error => cases reported
  | ok found =>
      obtain rfl := Option.some.inj reported
      rfl

variable {σ α β : Type}

theorem run_run_lift {ε : Type} (step : StateM σ α) (state : σ) :
    (monadLift step : ExceptT ε (StateM σ) α).run.run state =
      (.ok (step.run state).1, (step.run state).2) := rfl

/-- Two actions in a row: the second one takes over where the first one succeeds. -/
theorem run_run_bind {ε : Type} (first : ExceptT ε (StateM σ) α)
    (next : α → ExceptT ε (StateM σ) β) (state : σ) :
    (first >>= next).run.run state =
      match first.run.run state with
      | (.ok result, between) => (next result).run.run between
      | (.error error, after) => (.error error, after) := by
  simp only [ExceptT.run_bind, StateT.run_bind]
  generalize outcome : StateT.run (ExceptT.run first) state = reached
  obtain ⟨result, after⟩ := reached
  cases result <;> rfl

theorem run_run_adapt {ε δ : Type} (blame : ε → δ) (action : ExceptT ε (StateM σ) α)
    (state : σ) :
    (action.adapt blame).run.run state =
      ((action.run.run state).1.mapError blame, (action.run.run state).2) := rfl

end DraftBoard
