import Mathlib
import DraftBoard.Proofs.CommandLine.Overrides
import DraftBoard.Proofs.Settings.Loading
import DraftBoard.Proofs.Transfer.Exchanges
import DraftBoard.Proofs.Transfer.Reading
import DraftBoard.Proofs.Transfer.SavedFolder
import DraftBoard.Run

/-!
# Runs under their settings

A run whose settings cannot be loaded does nothing.  Any other run asks the server of its
settings alone, with their credentials, and saves below their output directory.
-/

namespace DraftBoard

open Http

variable {ε σ τ : Type}

/-- A request to an endpoint below the root of an account.  It carries the credentials of the
account, behind those of the URL if that has any. -/
def Account.Asks (account : Account) (request : Request) : Prop :=
  ∃ path asked, "/api/".toList <+: path.toList ∧
    Remote.requestUrl (account.url path) = .ok asked ∧
    request.url = asked.withoutCredentials ∧
    request.authorizations = asked.authorizations ++ [account.authorization]

/-- A protocol whose calls enter nothing but what is allowed. -/
structure Protocol.Limits (protocol : Protocol ε) (allowed : ε → Prop) : Prop where
  search : ∀ {query entries outcome}, protocol.search query entries outcome →
    ∀ entry ∈ entries, allowed entry
  fetch : ∀ {uid entries outcome}, protocol.fetch uid entries outcome →
    ∀ entry ∈ entries, allowed entry
  upload : ∀ {request entries outcome}, protocol.upload request entries outcome →
    ∀ entry ∈ entries, allowed entry

namespace Protocol.Limits

variable {protocol : Protocol ε} {allowed : ε → Prop} {title : String} {entries : List ε}

theorem append {left right : List ε} (first : ∀ entry ∈ left, allowed entry)
    (second : ∀ entry ∈ right, allowed entry) : ∀ entry ∈ left ++ right, allowed entry := by
  intro entry member
  rcases List.mem_append.mp member with earlier | later
  · exact first entry earlier
  · exact second entry later

theorem lookup (limits : protocol.Limits allowed)
    {found : Except TransferError (Hit × Definition)}
    (course : protocol.Lookup title entries found) : ∀ entry ∈ entries, allowed entry := by
  cases course with
  | unsearched search => exact limits.search search
  | missing search _ => exact limits.search search
  | unfetched search _ fetch => exact append (limits.search search) (limits.fetch fetch)
  | found search _ fetch => exact append (limits.search search) (limits.fetch fetch)

theorem promotes (limits : protocol.Limits allowed) {outcome : Except TransferError Promotion}
    (course : protocol.Promotes title entries outcome) : ∀ entry ∈ entries, allowed entry := by
  cases course with
  | notFound lookup => exact limits.lookup lookup
  | refused lookup upload => exact append (limits.lookup lookup) (limits.upload upload)
  | stored lookup upload => exact append (limits.lookup lookup) (limits.upload upload)

theorem saves (limits : protocol.Limits allowed) {options : SaveOptions}
    {outcome : Except TransferError Saving}
    (course : protocol.Saves title options entries outcome) :
    ∀ entry ∈ entries, allowed entry := by
  cases course with
  | notFound lookup => exact limits.lookup lookup
  | refused _ _ lookup => exact limits.lookup lookup
  | saved lookup => exact limits.lookup lookup

end Protocol.Limits

namespace Remote

theorem Reads.request_of_mem {α : Type} {account : Account}
    {parse : String → Except Json.Problem α} {url : String} {sent : List Exchange}
    {outcome : Except TransferError α} (course : Reads account parse url sent outcome) :
    ∀ exchange ∈ sent, ∃ asked, requestUrl url = .ok asked ∧
      exchange.request = account.getRequest asked := by
  cases course with
  | lost exchange => exact exchange.request_of_mem
  | unreadable exchange _ => exact exchange.request_of_mem
  | read exchange _ => exact exchange.request_of_mem

theorem api_prefix {front : String} (endpoint : "/api/".toList <+: front.toList)
    (behind : String) : "/api/".toList <+: (front ++ behind).toList := by
  rw [String.toList_append]
  exact endpoint.trans (List.prefix_append _ _)

/-- Whatever an account sends goes to an endpoint of its server. -/
theorem exchanges_limits (account : Account) :
    (exchanges account).Limits fun exchange => account.Asks exchange.request where
  search := by
    intro query sent outcome course exchange member
    obtain ⟨asked, requested, same⟩ := Reads.request_of_mem course exchange member
    rw [same]
    exact ⟨_, asked, api_prefix (by decide) _, requested, rfl, rfl⟩
  fetch := by
    intro uid sent outcome course exchange member
    obtain ⟨asked, requested, same⟩ := Reads.request_of_mem course exchange member
    rw [same]
    exact ⟨_, asked, api_prefix (by decide) _, requested, rfl, rfl⟩
  upload := by
    intro upload sent outcome course exchange member
    obtain ⟨asked, requested, same⟩ := Posts.request_of_mem course exchange member
    rw [same]
    exact ⟨"/api/dashboards/db", asked, by decide, requested, rfl, rfl⟩

end Remote

/-- The places that a run may write to under its settings. -/
def Settings.places (settings : Settings) (files : FileTree) : Set Place :=
  {place | ∃ title, place =
    files.destination (provisionedPath settings.outDir settings.folder (Title.slug title))}

theorem changesAt_of_effect {settings : Settings} {before after : FileTree}
    {save : Option (String × Dashboard)}
    (effect : CallEffect settings.outDir settings.folder before after save) :
    FileTree.ChangesAt (settings.places before) before after := by
  cases effect with
  | nothing changes => exact changes.mono (Set.empty_subset _)
  | @saved title document provisioned =>
      refine (FileTree.changesAt_provision provisioned).mono ?_
      intro place same
      exact ⟨title, same⟩

section

variable {catalogue : Catalogue (StateM (World σ))}

theorem perform_history {history : σ → List ε} {protocol : Protocol ε} {allowed : ε → Prop}
    (obeys : catalogue.Obeys history protocol) (limits : protocol.Limits allowed)
    (settings : Settings) (title : String) (task : CommandLine.Task) (world : World σ) :
    ∃ entries,
      history (carryOut (perform catalogue World.machine settings title task) world).2.server =
        history world.server ++ entries ∧
      ∀ entry ∈ entries, allowed entry := by
  cases task with
  | promote =>
      obtain ⟨entries, added, course⟩ := promote_enters obeys title world
      rw [perform, carryOut_bind_pure]
      exact ⟨entries, added, limits.promotes course⟩
  | save keepSelections newTitle =>
      obtain ⟨entries, added, course⟩ :=
        save_enters obeys title (settings.saveOptions keepSelections newTitle) world
      rw [perform, carryOut_bind_pure]
      exact ⟨entries, added, limits.saves course⟩

theorem perform_changes (keeps : catalogue.KeepsFiles) (settings : Settings) (title : String)
    (task : CommandLine.Task) (world : World σ) :
    FileTree.ChangesAt (settings.places world.files) world.files
      (carryOut (perform catalogue World.machine settings title task) world).2.files := by
  cases task with
  | promote =>
      rw [perform, carryOut_bind_pure]
      dsimp only
      rw [promote_leavesFiles keeps]
      exact .refl _ _
  | save keepSelections newTitle =>
      rw [perform, carryOut_bind_pure]
      exact changesAt_of_effect (SaveCall.run_effect
        ⟨catalogue, keeps, title, newTitle, keepSelections, world.clock⟩
        settings.outDir settings.folder world)

/-- A saving under settings: the draft that has been found in a world is in its file, as the
options of the saving want it. -/
structure SavesUnder (settings : Settings) (catalogue : Catalogue (StateM (World σ)))
    (title : String) (keepSelections : Bool) (newTitle : Option String) (world : World σ)
    (files : FileTree) (saving : Saving) : Prop where
  draft : ∃ hit definition looked,
    carryOut (find catalogue World.machine (Title.draft title)) world =
      (.ok (hit, definition), looked) ∧
    saving = (settings.saveOptions keepSelections newTitle).savingFor (Title.draft title) hit
      definition.dashboard ∧
    files.content? saving.path = some (provisionedText
      ((settings.saveOptions keepSelections newTitle).documentFor definition.dashboard
        looked.clock))
  path : saving.path =
    provisionedPath settings.outDir settings.folder (Title.slug saving.title)

theorem perform_save_ok {settings : Settings} {title : String} {keepSelections : Bool}
    {newTitle : Option String} {world after : World σ} {report : String}
    (performed : carryOut (perform catalogue World.machine settings title
      (.save keepSelections newTitle)) world = (.ok report, after)) :
    ∃ saving : Saving, report = saving.report ∧
      SavesUnder settings catalogue title keepSelections newTitle world after.files saving := by
  rw [perform, carryOut_bind_pure] at performed
  cases saved : carryOut (save catalogue World.machine title
      (settings.saveOptions keepSelections newTitle)) world with
  | mk outcome left =>
      rw [saved] at performed
      cases outcome with
      | error error => cases performed
      | ok saving =>
          cases performed
          obtain ⟨hit, definition, looked, found, same, _, content⟩ := save_ok saved
          rw [← SaveOptions.savingFor_path _ (Title.draft title) hit, ← same] at content
          refine ⟨saving, rfl, ⟨hit, definition, looked, found, same, content⟩, ?_⟩
          rw [same, SaveOptions.savingFor_path, SaveOptions.savingFor_title]
          rfl

end

/-- What a run comes to in a world, and the world afterwards. -/
def runIn (transport : Transport (StateM (World σ))) (outDir : Path)
    (invocation : CommandLine.Invocation) (world : World σ) : Except RunError Unit × World σ :=
  (run World.machine transport outDir invocation).run.run world

variable {transport : Transport (StateM (World σ))} {outDir : Path}
variable {invocation : CommandLine.Invocation} {world : World σ}

/-- Without settings nothing happens. -/
theorem runIn_of_error {cause : SettingsError}
    (failed : Settings.loadIn outDir invocation.overrides world = (.error cause, world)) :
    runIn transport outDir invocation world = (.error (.settings cause), world) := by
  unfold Settings.loadIn at failed
  rw [runIn, run, run_run_bind, run_run_adapt, failed]
  rfl

/-- How a run ends whose task has been carried out. -/
def reported : Except TransferError String × World σ → Except RunError Unit × World σ
  | (.ok report, after) =>
      (.ok (), { after with log := after.log ++ [⟨.info, .command, report⟩] })
  | (.error cause, after) => (.error (.transfer cause), after)

theorem runIn_of_ok (transport : Transport (StateM (World σ))) {settings : Settings}
    (loaded : Settings.loadIn outDir invocation.overrides world = (.ok settings, world)) :
    ∃ log, runIn transport outDir invocation world =
      reported (carryOut (perform (Remote.catalogue transport World.machine settings.account)
        World.machine settings invocation.title invocation.task) { world with log := log }) := by
  unfold Settings.loadIn at loaded
  refine ⟨world.log ++ [⟨.debug, .command,
    "Using Grafana at " ++ settings.rootUrl ++ " as " ++ settings.user⟩], ?_⟩
  rw [runIn, run, run_run_bind, run_run_adapt, loaded]
  dsimp only [Except.mapError]
  rw [run_run_bind, liftM, run_run_lift]
  dsimp only
  rw [run_run_bind, run_run_adapt, World.note_run, ← carryOut]
  cases carryOut (perform (Remote.catalogue transport World.machine settings.account)
    World.machine settings invocation.title invocation.task) _ with
  | mk outcome after => cases outcome <;> rfl

/-- What a run does under the settings that it has loaded: it asks the server of their account
alone, changes files at provisioned places alone, and if it was to save and did not fail, it has
saved the draft of its title and reported that at the end. -/
structure RunsUnder (settings : Settings) (transport : Transport (StateM τ))
    (invocation : CommandLine.Invocation) (before : World (Watched Exchange τ))
    (outcome : Except RunError Unit) (after : World (Watched Exchange τ)) : Prop where
  requests : ∃ sent, after.server.history = before.server.history ++ sent ∧
    ∀ exchange ∈ sent, settings.account.Asks exchange.request
  files : FileTree.ChangesAt (settings.places before.files) before.files after.files
  saved : ∀ keepSelections newTitle, invocation.task = .save keepSelections newTitle →
    outcome = .ok () → ∃ log saving,
      SavesUnder settings (remote transport.watched settings.account) invocation.title
        keepSelections newTitle { before with log := log } after.files saving ∧
      after.log.getLast? = some ⟨.info, .command, saving.report⟩

theorem runsUnder_of_loaded (transport : Transport (StateM τ)) {settings : Settings}
    {world : World (Watched Exchange τ)}
    (loaded : Settings.loadIn outDir invocation.overrides world = (.ok settings, world)) :
    RunsUnder settings transport invocation world
      (runIn (World.transport transport.watched) outDir invocation world).1
      (runIn (World.transport transport.watched) outDir invocation world).2 := by
  obtain ⟨log, ran⟩ := runIn_of_ok (World.transport transport.watched) loaded
  obtain ⟨sent, history, asks⟩ := perform_history (remote_obeys transport settings.account)
    (Remote.exchanges_limits settings.account) settings invocation.title invocation.task
    { world with log := log }
  have changes := perform_changes (remote_keepsFiles transport.watched settings.account) settings
    invocation.title invocation.task { world with log := log }
  rw [ran]
  cases performed : carryOut (perform (remote transport.watched settings.account) World.machine
      settings invocation.title invocation.task) { world with log := log } with
  | mk outcome after =>
      rw [performed] at history changes
      cases outcome with
      | error cause => exact ⟨⟨sent, history, asks⟩, changes, fun _ _ _ failed => nomatch failed⟩
      | ok report =>
          refine ⟨⟨sent, history, asks⟩, changes, ?_⟩
          intro keepSelections newTitle task _
          rw [task] at performed
          obtain ⟨saving, rfl, saves⟩ := perform_save_ok performed
          exact ⟨log, saving, saves, List.getLast?_concat⟩

/-- A run takes each setting from its flag, or else from its file, or else from the defaults;
it does nothing if one of them has no text there, and otherwise does what these settings say. -/
theorem runs_take_effective_settings (transport : Transport (StateM τ)) (outDir : Path)
    (world : World (Watched Exchange τ)) (arguments : List String)
    (invocation : CommandLine.Invocation)
    (parsed : CommandLine.parse arguments = .ok invocation) :
    (∃ command inner, CommandLine.Invokes arguments invocation command inner ∧
      (command = .promote → inner.value? .folder = none ∧ inner.value? .outDir = none)) ∧
    (∀ name, invocation.overrides.settingsFile = some name →
      world.files.content? (world.files.workingPath.join name) = none →
      world.files.content?
        ((world.files.workingPath.join name).withEnding "toml".toList) = none →
      runIn (World.transport transport.watched) outDir invocation world =
        (.error (.settings (.notFound name)), world)) ∧
    (∀ name path text, invocation.overrides.settingsFile = some name →
      Settings.fileNamed? world.files name = some (path, text) →
      Settings.entriesIn? text = none →
      runIn (World.transport transport.watched) outDir invocation world =
        (.error (.settings (.invalidFile (path.relativeTo world.files.workingPath))), world)) ∧
    (∀ file, Settings.source world.files invocation.overrides = .ok file →
      Settings.PlainKeys (Settings.entriesOf file) →
      (∀ setting, Settings.effective? outDir (Settings.entriesOf file) invocation.overrides
          setting = none →
        ∃ cause, runIn (World.transport transport.watched) outDir invocation world =
          (.error (.settings cause), world)) ∧
      ((∀ setting, Settings.effective? outDir (Settings.entriesOf file) invocation.overrides
          setting ≠ none) →
        ∃ settings : Settings,
          (∀ setting, Settings.effective? outDir (Settings.entriesOf file) invocation.overrides
            setting = some (settings.value setting)) ∧
          RunsUnder settings transport invocation world
            (runIn (World.transport transport.watched) outDir invocation world).1
            (runIn (World.transport transport.watched) outDir invocation world).2)) := by
  refine ⟨?_, ?_, ?_, ?_⟩
  · obtain ⟨command, inner, invokes⟩ := CommandLine.parse_ok parsed
    refine ⟨command, inner, invokes, ?_⟩
    rintro rfl
    obtain ⟨folder, outDir⟩ := invokes.promote
    rw [invokes.given] at folder outDir
    exact ⟨folder, outDir⟩
  · intro name named missing missingToo
    apply runIn_of_error
    rw [Settings.loadIn_eq, Settings.source_of_missing named missing missingToo]
    rfl
  · intro name path text named found unread
    apply runIn_of_error
    rw [Settings.loadIn_eq, Settings.source_of_invalid named found unread]
    rfl
  · intro file found plain
    have distinct := Settings.nodup_of_source found
    have loaded := Settings.loadIn_eq outDir invocation.overrides world
    rw [found] at loaded
    refine ⟨?_, ?_⟩
    · intro setting missing
      obtain ⟨cause, failed⟩ := Settings.ofLayers_error plain distinct missing
      refine ⟨cause, runIn_of_error (loaded.trans ?_)⟩
      rw [Except.bind, failed]
    · intro texts
      obtain ⟨settings, settled⟩ := Settings.exists_ofLayers plain distinct texts
      refine ⟨settings, (Settings.ofLayers_effective plain distinct).mp settled,
        runsUnder_of_loaded transport (loaded.trans ?_)⟩
      rw [Except.bind, settled]

/-- A file with credentials in the root URL, a number, an array that a flag masks, and a key of
no setting. -/
def mixedText : String :=
  "root_url = \"http://ann:pw@h:1/\"\nuser = 7\npassword = [1]\ncolor = [2]\n"

def mixedFile : Settings.SettingsFile where
  path := .ofString "t.toml"
  entries := [("root_url", .scalar (.string "http://ann:pw@h:1/")), ("user", .scalar (.integer 7)),
    ("password", .array [.scalar (.integer 1)]), ("color", .array [.scalar (.integer 2)])]

/-- A server with the draft of one dashboard. -/
def draftScript : Script where
  address := some "h:1".toList
  routes := [
    ⟨"GET", "/api/search*".toList, .respond 200 foundDraft.compact.toUTF8, none⟩,
    ⟨"GET", "/api/dashboards/uid/d%2F2".toList, .respond 200
      "\x7b\"dashboard\":\x7b\"title\":\"Disk (WIP)\"\x7d\x7d".toUTF8, none⟩]

/-- That server, and a settings file next to nothing else. -/
def settingsWorld (text : String) : World (Watched Exchange Script) where
  server := ⟨draftScript, []⟩
  files := ⟨[(["t.toml".toList], .file text)], []⟩
  log := []
  clock := 5

def besideProgram : Path := .ofString "/opt/dashboards"

/-- What running a command line next to a settings file comes to. -/
def settingsRun (text : String) (invocation : CommandLine.Invocation) :
    Except RunError Unit × World (Watched Exchange Script) :=
  runIn (World.transport Script.transport.watched) besideProgram invocation (settingsWorld text)

def maskedLine : List String := ["save", "-c", "t", "-p", "", "Disk"]

def maskedInvocation : CommandLine.Invocation where
  task := .save false none
  title := "Disk"
  overrides := { settingsFile := some (.ofString "t"), password := some "" }

theorem runs_take_effective_settings_sample :
    CommandLine.parse maskedLine = .ok maskedInvocation ∧
    settingsRun mixedText maskedInvocation =
      (.ok (), (settingsRun mixedText maskedInvocation).2) ∧
    (settingsRun mixedText maskedInvocation).2.server.history.map
      (fun exchange => exchange.request.authorizations) =
        List.replicate 2 ["Basic YW5uOnB3", "Basic Nzo="] ∧
    ∃ settings : Settings, settings.rootUrl = "http://ann:pw@h:1/" ∧ settings.user = "7" ∧
      settings.password = "" ∧ settings.folder = "vmi-reference" ∧
      settings.outDir.text = "/opt/dashboards" ∧
      RunsUnder settings Script.transport maskedInvocation (settingsWorld mixedText)
        (settingsRun mixedText maskedInvocation).1
        (settingsRun mixedText maskedInvocation).2 := by
  have parsed : CommandLine.parse maskedLine = .ok maskedInvocation := by cbv
  have found : Settings.source (settingsWorld mixedText).files maskedInvocation.overrides =
    .ok (some mixedFile) := by cbv
  have ran : settingsRun mixedText maskedInvocation =
      (.ok (), (settingsRun mixedText maskedInvocation).2) := by
    apply eq_ok_of_toOption
    decide +kernel
  have plain : Settings.PlainKeys mixedFile.entries := by decide
  obtain ⟨_, _, _, runs⟩ := runs_take_effective_settings Script.transport besideProgram
    (settingsWorld mixedText) maskedLine maskedInvocation parsed
  obtain ⟨settings, effective, under⟩ := (runs (some mixedFile) found plain).2 (by
    intro setting
    cases setting <;> decide)
  have text : ∀ setting value, Settings.effective? besideProgram mixedFile.entries
      maskedInvocation.overrides setting = some value → settings.value setting = value :=
    fun setting value known => Option.some.inj ((effective setting).symm.trans known)
  exact ⟨parsed, ran, by decide +kernel, settings, text .rootUrl _ rfl, text .user _ rfl,
    text .password _ rfl, text .folder _ rfl, text .outDir _ rfl, under⟩

def promoteLine : List String := ["promote", "-c", "t.toml", "Disk"]

def promoteInvocation : CommandLine.Invocation where
  task := .promote
  title := "Disk"
  overrides := { settingsFile := some (.ofString "t.toml") }

def emptyTableFile : Settings.SettingsFile where
  path := .ofString "t.toml"
  entries := [("user", .table .header [])]

/-- A table that holds nothing does not leave a setting at its default: there are no settings,
and the run fails. -/
theorem empty_table_leaves_no_default :
    CommandLine.parse promoteLine = .ok promoteInvocation ∧
    Settings.source (settingsWorld "[user]\n").files promoteInvocation.overrides =
      .ok (some emptyTableFile) ∧
    settingsRun "[user]\n" promoteInvocation =
      (.error (.settings (.wrongShape .map .user none)), settingsWorld "[user]\n") ∧
    ¬ ∃ settings, (Settings.loadIn besideProgram promoteInvocation.overrides
        (settingsWorld "[user]\n")).1 = .ok settings ∧
      settings.user = SettingName.default besideProgram .user := by
  have parsed : CommandLine.parse promoteLine = .ok promoteInvocation := by cbv
  have found : Settings.source (settingsWorld "[user]\n").files promoteInvocation.overrides =
    .ok (some emptyTableFile) := by cbv
  have failed : Settings.loadIn besideProgram promoteInvocation.overrides
      (settingsWorld "[user]\n") =
        (.error (.wrongShape .map .user none), settingsWorld "[user]\n") := by
    rw [Settings.loadIn_eq, found]
    rfl
  refine ⟨parsed, found, runIn_of_error failed, ?_⟩
  rintro ⟨settings, loaded, _⟩
  rw [failed] at loaded
  cases loaded

end DraftBoard
