import DraftBoard.CommandLine.Parser
import DraftBoard.Proofs.Settings.Layers

/-!
# What a command line overrides

A command line that can be read names a command, and what stands behind it gives the
settings: each the value of its own option.  Options that a command does not know are never
given behind it.
-/

namespace DraftBoard

open CommandLine

/-- The option that gives a setting. -/
def SettingName.option : SettingName → OptionName
  | .rootUrl => .rootUrl
  | .user => .user
  | .password => .password
  | .folder => .folder
  | .outDir => .outDir

namespace CommandLine

theorem given?_overridesOf (outer inner : Reading) (setting : SettingName) :
    (overridesOf outer inner).given? setting = inner.value? setting.option := by
  cases setting with
  | outDir =>
      show ((inner.value? .outDir).map Path.ofString).map Path.text = inner.value? .outDir
      cases inner.value? .outDir with
      | none => rfl
      | some value => simp [Path.ofString, Path.text]
  | _ => rfl

namespace Reading

/-- Only options that are known in a part of a command line have been given in it. -/
structure Known (scope : Scope) (reading : Reading) : Prop where
  values : ∀ entry ∈ reading.values, .option entry.1 ∈ scope.flags
  pending : ∀ name value, reading.pending = some (name, value) → .option name ∈ scope.flags

variable {scope : Scope} {reading after : Reading}

theorem Known.record (known : Known scope reading) {name : OptionName}
    (option : .option name ∈ scope.flags) {value : String}
    (recorded : reading.record name value = .ok after) : Known scope after := by
  unfold Reading.record at recorded
  split at recorded
  · cases recorded
  · split at recorded
    · cases recorded
    · cases recorded
      refine ⟨?_, known.pending⟩
      intro entry member
      rcases List.mem_append.mp member with earlier | last
      · exact known.values entry earlier
      · rw [List.mem_singleton.mp last]
        exact option

theorem Known.settle (known : Known scope reading) (settled : reading.settle = .ok after) :
    Known scope after := by
  unfold Reading.settle at settled
  split at settled
  · cases settled
    exact known
  · cases settled
  · next name value pending =>
      have unpending : Known scope { reading with pending := none } :=
        ⟨known.values, fun _ _ found => nomatch found⟩
      exact unpending.record (known.pending name _ pending) settled

theorem Known.await (known : Known scope reading) {name : OptionName}
    (option : .option name ∈ scope.flags) (awaited : reading.await name = .ok after) :
    Known scope after := by
  obtain ⟨between, settled, same⟩ := bind_eq_ok.mp awaited
  cases same
  refine ⟨(known.settle settled).values, ?_⟩
  intro other value found
  cases found
  exact option

theorem Known.attach (known : Known scope reading) {name : OptionName}
    (option : .option name ∈ scope.flags) {value : List Char}
    (attached : reading.attach name value = .ok after) : Known scope after := by
  obtain ⟨between, settled, recorded⟩ := bind_eq_ok.mp attached
  exact (known.settle settled).record option recorded

theorem Known.turnOn (known : Known scope reading) {full : Bool} {name : SwitchName}
    (turned : reading.turnOn scope full name = .ok after) : Known scope after := by
  obtain ⟨between, settled, turned⟩ := bind_eq_ok.mp turned
  have both := known.settle settled
  cases name with
  | keep =>
      dsimp only at turned
      split at turned
      · cases turned
      · cases turned
        exact ⟨both.values, both.pending⟩
  | help => cases turned
  | version => cases turned

theorem option_of_short {letter : Char} {name : OptionName}
    (found : scope.short? letter = some (.option name)) : .option name ∈ scope.flags :=
  List.mem_of_find?_eq_some found

theorem option_of_long {word : List Char} {name : OptionName}
    (found : scope.long? word = some (.option name)) : .option name ∈ scope.flags :=
  List.mem_of_find?_eq_some found

theorem Known.takeLong (known : Known scope reading) {body : List Char}
    (taken : reading.takeLong scope body = .ok after) : Known scope after := by
  unfold Reading.takeLong at taken
  dsimp only at taken
  split at taken
  · cases taken
  · next name value found _ => exact known.attach (option_of_long found) taken
  · next name found _ => exact known.await (option_of_long found) taken
  · cases taken
  · exact known.turnOn taken

theorem Known.takeShort (known : Known scope reading) {letters : List Char}
    (taken : reading.takeShort scope letters = .ok after) : Known scope after := by
  induction letters generalizing reading with
  | nil =>
      cases taken
      exact known
  | cons letter rest ih =>
      rw [Reading.takeShort] at taken
      split at taken
      · cases taken
      · obtain ⟨between, turned, taken⟩ := bind_eq_ok.mp taken
        exact ih (known.turnOn turned) taken
      · next name found =>
          split at taken
          · exact known.await (option_of_short found) taken
          · exact known.attach (option_of_short found) taken

theorem Known.takeWord (known : Known scope reading) {word : String}
    (taken : reading.takeWord scope word = .ok after) : Known scope after := by
  unfold Reading.takeWord at taken
  split at taken
  · cases taken
  · split at taken
    · cases taken
    · obtain ⟨between, settled, same⟩ := bind_eq_ok.mp taken
      cases same
      have both := known.settle settled
      exact ⟨both.values, both.pending⟩

theorem Known.takeValue (known : Known scope reading) {argument : String}
    (taken : reading.takeValue scope argument = .ok after) : Known scope after := by
  unfold Reading.takeValue at taken
  split at taken
  · next name pending =>
      cases taken
      refine ⟨known.values, ?_⟩
      intro other value found
      cases found
      exact known.pending name none pending
  · exact known.takeWord taken

theorem Known.take (known : Known scope reading) {argument : String}
    (taken : reading.take scope argument = .ok after) : Known scope after := by
  unfold Reading.take at taken
  split at taken
  · exact known.takeWord taken
  · split at taken
    · cases taken
      exact ⟨known.values, known.pending⟩
    · exact known.takeLong taken
    · exact known.takeShort taken
    · exact known.takeValue taken

theorem Known.takeAll (known : Known scope reading) {arguments : List String}
    (taken : arguments.foldlM (Reading.take scope) reading = .ok after) : Known scope after := by
  induction arguments generalizing reading with
  | nil =>
      cases taken
      exact known
  | cons argument rest ih =>
      rw [List.foldlM_cons] at taken
      obtain ⟨between, first, taken⟩ := bind_eq_ok.mp taken
      exact ih (known.take first) taken

theorem known_initial (scope : Scope) : Known scope {} :=
  ⟨fun _ member => (nomatch member), fun _ _ found => (nomatch found)⟩

end Reading

theorem known_readCommand {command : Command} {arguments : List String} {inner : Reading}
    (taken : readCommand command arguments = .ok inner) :
    inner.Known (.command command) := by
  obtain ⟨between, all, settled⟩ := bind_eq_ok.mp taken
  exact ((Reading.known_initial _).takeAll all).settle settled

/-- An option that a command does not know has no value behind it. -/
theorem value?_eq_none {command : Command} {arguments : List String} {inner : Reading}
    (taken : readCommand command arguments = .ok inner) {name : OptionName}
    (unknown : .option name ∉ (Scope.command command).flags) : inner.value? name = none := by
  rw [Reading.value?, List.lookup_eq_none_iff]
  intro entry member
  refine bne_iff_ne.mpr ?_
  rintro rfl
  exact unknown ((known_readCommand taken).values entry member)

/-- What a command line that can be read consists of. -/
structure Invokes (arguments : List String) (invocation : Invocation) (command : Command)
    (inner : Reading) : Prop where
  named : ∃ before behind, arguments = before ++ command.word :: behind ∧
    readCommand command behind = .ok inner
  task : invocation.task = taskOf command inner
  title : inner.title = some invocation.title
  given : ∀ setting, invocation.overrides.given? setting = inner.value? setting.option

theorem word_of_command? {word : String} {command : Command}
    (found : command? word = some command) : word = command.word := by
  have same := List.find?_some found
  exact (beq_iff_eq.mp same).symm

theorem invoke_ok {outer : Reading} {command : Command} {arguments : List String}
    {invocation : Invocation} (invoked : invoke outer command arguments = .ok invocation) :
    ∃ inner, readCommand command arguments = .ok inner ∧
      invocation.task = taskOf command inner ∧ inner.title = some invocation.title ∧
      ∀ setting, invocation.overrides.given? setting = inner.value? setting.option := by
  obtain ⟨inner, taken, invoked⟩ := bind_eq_ok.mp invoked
  split at invoked
  · cases invoked
  · next title titled =>
      obtain ⟨settled, _, same⟩ := bind_eq_ok.mp invoked
      cases same
      exact ⟨inner, taken, rfl, titled, given?_overridesOf settled inner⟩

theorem withoutCommand_error (outer : Reading) (invocation : Invocation) :
    withoutCommand outer ≠ .ok invocation := by
  intro read
  obtain ⟨settled, _, thrown⟩ := bind_eq_ok.mp read
  cases thrown

theorem readProgram_ok {outer : Reading} {arguments : List String} {invocation : Invocation}
    (read : readProgram outer arguments = .ok invocation) :
    ∃ command inner, Invokes arguments invocation command inner := by
  induction arguments generalizing outer with
  | nil => exact absurd read (withoutCommand_error outer invocation)
  | cons argument rest ih =>
      have further : ∀ {next : Reading}, readProgram next rest = .ok invocation →
          ∃ command inner, Invokes (argument :: rest) invocation command inner := by
        intro next read
        obtain ⟨command, inner, invokes⟩ := ih read
        obtain ⟨before, behind, split, taken⟩ := invokes.named
        exact ⟨command, inner, ⟨argument :: before, behind, by rw [split]; rfl, taken⟩,
          invokes.task, invokes.title, invokes.given⟩
      rw [readProgram] at read
      split at read
      · obtain ⟨next, _, read⟩ := bind_eq_ok.mp read
        exact further read
      · split at read
        · cases read
        · split at read
          · next command found =>
              obtain ⟨inner, taken, task, title, given⟩ := invoke_ok read
              refine ⟨command, inner, ⟨[], rest, ?_, taken⟩, task, title, given⟩
              rw [word_of_command? found]
              rfl
          · obtain ⟨next, _, read⟩ := bind_eq_ok.mp read
            exact further read

theorem parse_ok {arguments : List String} {invocation : Invocation}
    (read : parse arguments = .ok invocation) :
    ∃ command inner, Invokes arguments invocation command inner :=
  readProgram_ok read

/-- A promotion overrides neither where dashboards are saved nor in which folder. -/
theorem Invokes.promote {arguments : List String} {invocation : Invocation} {inner : Reading}
    (invokes : Invokes arguments invocation .promote inner) :
    invocation.overrides.given? .folder = none ∧ invocation.overrides.given? .outDir = none := by
  obtain ⟨_, _, _, taken⟩ := invokes.named
  rw [invokes.given, invokes.given]
  exact ⟨value?_eq_none taken (by decide), value?_eq_none taken (by decide)⟩

end CommandLine

end DraftBoard
