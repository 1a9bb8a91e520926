import DraftBoard.Proofs.Dashboard.Selections
import DraftBoard.Proofs.Files.Paths
import DraftBoard.Proofs.Title.Slug
import DraftBoard.Proofs.Transfer.Provisioning
import DraftBoard.Shelf
import DraftBoard.Transfer.Save

/-!
# What a saving writes

A draft that has been found goes to one file as one document.  `Identified` says
how that document comes from the fetched one.
-/

namespace DraftBoard

variable {σ : Type}

/-- The draft with its host selections put back, unless they are to be kept. -/
def SaveOptions.settled (options : SaveOptions) (draft : Dashboard) : Dashboard :=
  if options.keepSelections then draft else draft.resetHostSelections.1

/-- The document that a draft is saved as. -/
def SaveOptions.documentFor (options : SaveOptions) (draft : Dashboard) (version : Int) :
    Dashboard :=
  (options.settled draft).identify (options.titleFor draft) version

/-- The file that a draft is saved to. -/
def SaveOptions.pathFor (options : SaveOptions) (draft : Dashboard) : Path :=
  provisionedPath options.outDir options.folder (Title.slug (options.titleFor draft))

/-- The report on a draft that was found under a hit. -/
def SaveOptions.savingFor (options : SaveOptions) (draftTitle : String) (hit : Hit)
    (draft : Dashboard) : Saving where
  sourceFolder := hit.folder
  sourceTitle := draftTitle
  path := options.pathFor draft
  title := options.titleFor draft

theorem SaveOptions.savingFor_path (options : SaveOptions) (draftTitle : String)
    (hit : Hit) (draft : Dashboard) :
    (options.savingFor draftTitle hit draft).path = options.pathFor draft := by
  rw [savingFor]

theorem SaveOptions.savingFor_title (options : SaveOptions) (draftTitle : String)
    (hit : Hit) (draft : Dashboard) :
    (options.savingFor draftTitle hit draft).title = options.titleFor draft := by
  rw [savingFor]

/-- The value that `templating` is saved with. -/
def SaveOptions.templatingFor (options : SaveOptions) (draft : Dashboard) : Option Json :=
  if options.keepSelections then draft.get? "templating"
  else (draft.get? "templating").map Dashboard.resetTemplating

/-- The keys that give a document its identity, in the order in which they are set. -/
def identityKeys : List String := ["id", "uid", "title", "version"]

/-- How a saved document comes from the fetched one. -/
structure Identified (options : SaveOptions) (fetched : Dashboard) (title : String)
    (version : Int) (document : Dashboard) : Prop where
  id : document.get? "id" = some .null
  uid : document.get? "uid" = some (.string (Title.slug title))
  title : document.get? "title" = some (.string title)
  version : document.get? "version" = some (.ofInt version)
  templating : document.get? "templating" = options.templatingFor fetched
  others : ∀ key, key ∉ identityKeys → key ≠ "templating" →
    document.get? key = fetched.get? key
  keys : document.keys = fetched.keys ++ identityKeys.filter (· ∉ fetched.keys)

namespace Dashboard

theorem get?_identify_of_not_mem (dashboard : Dashboard) (title : String) (version : Int)
    {key : String} (elsewhere : key ∉ identityKeys) :
    (dashboard.identify title version).get? key = dashboard.get? key := by
  simp only [identityKeys, List.mem_cons, List.not_mem_nil, or_false, not_or] at elsewhere
  obtain ⟨notId, notUid, notTitle, notVersion⟩ := elsewhere
  simp only [identify, setVersion, setTitle, setUid, clearId, get?_set, notId, notUid,
    notTitle, notVersion, if_false]

theorem keys_identify (dashboard : Dashboard) (title : String) (version : Int) :
    (dashboard.identify title version).keys =
      dashboard.keys ++ identityKeys.filter (· ∉ dashboard.keys) :=
  keys_foldl_set [("id", .null), ("uid", .string (Title.slug title)),
    ("title", .string title), ("version", .ofInt version)] dashboard
    (by decide : identityKeys.Nodup)

end Dashboard

namespace SaveOptions

theorem get?_settled (options : SaveOptions) (draft : Dashboard) (key : String) :
    (options.settled draft).get? key =
      if key = "templating" then options.templatingFor draft else draft.get? key := by
  unfold settled templatingFor
  cases options.keepSelections with
  | true =>
      by_cases same : key = "templating"
      · simp [same]
      · simp [same]
  | false => simp [Dashboard.get?_resetHostSelections]

theorem keys_settled (options : SaveOptions) (draft : Dashboard) :
    (options.settled draft).keys = draft.keys := by
  unfold settled
  split
  · rfl
  · exact Dashboard.keys_resetHostSelections draft

theorem identified (options : SaveOptions) (draft : Dashboard) (version : Int) :
    Identified options draft (options.titleFor draft) version
      (options.documentFor draft version) where
  id := by
    simp [documentFor, Dashboard.identify, Dashboard.setVersion, Dashboard.setTitle,
      Dashboard.setUid, Dashboard.clearId, Dashboard.get?_set]
  uid := by
    simp [documentFor, Dashboard.identify, Dashboard.setVersion, Dashboard.setTitle,
      Dashboard.setUid, Dashboard.get?_set]
  title := by
    simp [documentFor, Dashboard.identify, Dashboard.setVersion, Dashboard.setTitle,
      Dashboard.get?_set]
  version := Dashboard.get?_set_self ..
  templating := by
    rw [documentFor, Dashboard.get?_identify_of_not_mem _ _ _ (by decide), get?_settled,
      if_pos rfl]
  others := by
    intro key elsewhere notTemplating
    rw [documentFor, Dashboard.get?_identify_of_not_mem _ _ _ elsewhere, get?_settled,
      if_neg notTemplating]
  keys := by
    rw [documentFor, Dashboard.keys_identify, keys_settled]

end SaveOptions

variable {catalogue : Catalogue (StateM (World σ))} {title : String} {options : SaveOptions}
variable {world looked : World σ}

theorem settleSelections_run (options : SaveOptions) (draft : Dashboard)
    (world : World σ) :
    ∃ log, (settleSelections World.machine options draft).run world =
      (options.settled draft, { world with log := log }) := by
  unfold settleSelections SaveOptions.settled
  cases options.keepSelections with
  | true => exact ⟨world.log, rfl⟩
  | false => exact ⟨_, rfl⟩

theorem save_of_not_found {error : TransferError}
    (missing : carryOut (find catalogue World.machine (Title.draft title)) world =
      (.error error, looked)) :
    carryOut (save catalogue World.machine title options) world = (.error error, looked) :=
  carryOut_bind_of_error missing _

/-- A draft that has been found is provisioned; the saving fails only where that does. -/
theorem save_of_found (options : SaveOptions) {hit : Hit} {definition : Definition}
    (found : carryOut (find catalogue World.machine (Title.draft title)) world =
      (.ok (hit, definition), looked)) :
    ∃ log, carryOut (save catalogue World.machine title options) world =
      ((looked.files.provision (options.pathFor definition.dashboard)
          (provisionedText (options.documentFor definition.dashboard looked.clock))).1.map
          (fun _ => options.savingFor (Title.draft title) hit definition.dashboard),
        { looked with
          files := (looked.files.provision (options.pathFor definition.dashboard)
            (provisionedText (options.documentFor definition.dashboard looked.clock))).2
          log := log }) := by
  obtain ⟨settledLog, settled⟩ := settleSelections_run options definition.dashboard looked
  obtain ⟨log, written⟩ := carryOut_writeDashboard (options.pathFor definition.dashboard)
    (options.documentFor definition.dashboard looked.clock)
    { looked with log := settledLog }
  refine ⟨log, ?_⟩
  unfold save
  rw [carryOut_bind_of_ok found]
  simp only [liftM]
  rw [carryOut_bind_of_ok (carryOut_lift ..), settled, carryOut_bind_of_ok (carryOut_lift ..)]
  simp only [World.now_run]
  unfold SaveOptions.savingFor
  unfold SaveOptions.pathFor SaveOptions.documentFor at written ⊢
  rw [carryOut_bind_pure, written]

/-- A saving that succeeds has found its draft and left the document in its file. -/
theorem save_ok {saving : Saving} {after : World σ}
    (saved : carryOut (save catalogue World.machine title options) world =
      (.ok saving, after)) :
    ∃ hit definition looked,
      carryOut (find catalogue World.machine (Title.draft title)) world =
        (.ok (hit, definition), looked) ∧
      saving = options.savingFor (Title.draft title) hit definition.dashboard ∧
      after.clock = looked.clock ∧
      after.files.content? (options.pathFor definition.dashboard) =
        some (provisionedText (options.documentFor definition.dashboard looked.clock)) := by
  cases lookup : carryOut (find catalogue World.machine (Title.draft title)) world with
  | mk outcome looked =>
      cases outcome with
      | error error =>
          rw [save_of_not_found lookup] at saved
          cases saved
      | ok found =>
          obtain ⟨hit, definition⟩ := found
          obtain ⟨log, run⟩ := save_of_found options lookup
          rw [run] at saved
          cases provisioned : FileTree.provision (options.pathFor definition.dashboard)
            (provisionedText (options.documentFor definition.dashboard looked.clock))
            looked.files with
          | mk outcome written =>
              simp only [provisioned] at saved
              cases outcome with
              | error error => cases saved
              | ok done =>
                  obtain ⟨sameSaving, rfl⟩ := Prod.mk.inj saved
                  exact ⟨hit, definition, looked, rfl, (Except.ok.inj sameSaving).symm, rfl,
                    FileTree.content?_of_provision provisioned⟩

/-- One dashboard on a shelf, and no files. -/
def shelved (hit : Hit) (dashboard : Dashboard) (clock : Int) : World Shelf where
  server := { held := [(hit, dashboard.toJson)] }
  files := ⟨[], []⟩
  log := []
  clock := clock

/-- A draft with a host selection. -/
def sampleDraft : Dashboard where
  fields := [("version", .ofInt 3), ("title", .string "Disk (WIP)"),
    ("templating", .object [("list", .array [.object [("name", .string "instance")]])])]

def sampleWorld : World Shelf :=
  shelved ⟨"Disk (WIP)", "draft-1", none⟩ sampleDraft 7

def sampleOptions : SaveOptions where
  folder := "hosts"
  title := none
  outDir := .ofString "/out"
  keepSelections := false

/-- What saving the draft comes to. -/
def sampleRun : Except TransferError Saving × World Shelf :=
  carryOut (save (World.catalogue Shelf.catalogue) World.machine "Disk" sampleOptions)
    sampleWorld

def sampleSaving : Saving where
  sourceFolder := "General"
  sourceTitle := "Disk (WIP)"
  path := .ofString "/out/hosts/disk-ref.json"
  title := "Disk-ref"

end DraftBoard
