import DraftBoard.Proofs.Json.Writing
import DraftBoard.Proofs.Transfer.Promoting

/-!
# From saving to promoting and back

A reference dashboard that is promoted can be saved again from its draft.  Nothing
but its identity changes on the way, and a document that has the identity already
comes back with a new version only.
-/

namespace DraftBoard

section

variable {title : String} {world : World Shelf}
variable {hit : Hit} {document : Json} {definition : Definition}

/-- Saving from a shelf searches once and fetches once, and then provisions. -/
theorem save_of_titled (options : SaveOptions)
    (first : world.server.titled? (Title.draft title) = some (hit, document))
    (fetched : world.server.definition hit.uid = .ok definition) :
    ∃ log, carryOut (save shelves World.machine title options) world =
      ((world.files.provision (options.pathFor definition.dashboard)
          (provisionedText (options.documentFor definition.dashboard world.clock))).1.map
          (fun _ => options.savingFor (Title.draft title) hit definition.dashboard),
        { world.called [.search (Title.draft title), .fetch hit.uid] log with
          files := (world.files.provision (options.pathFor definition.dashboard)
            (provisionedText (options.documentFor definition.dashboard world.clock))).2 }) := by
  obtain ⟨findLog, found⟩ := find_of_titled first
  rw [fetched] at found
  obtain ⟨log, run⟩ := save_of_found options found
  exact ⟨log, run⟩

/-- Where the file system takes the file, the saving succeeds. -/
theorem save_of_titled_of_takes {options : SaveOptions}
    (first : world.server.titled? (Title.draft title) = some (hit, document))
    (fetched : world.server.definition hit.uid = .ok definition)
    (taken : world.files.takes (options.pathFor definition.dashboard) = true) :
    ∃ after, carryOut (save shelves World.machine title options) world =
        (.ok (options.savingFor (Title.draft title) hit definition.dashboard), after) ∧
      after.files.content? (options.pathFor definition.dashboard) =
        some (provisionedText (options.documentFor definition.dashboard world.clock)) := by
  obtain ⟨log, run⟩ := save_of_titled options first fetched
  obtain ⟨left, provisioned, content⟩ := FileTree.provision_of_takes taken
    (provisionedText (options.documentFor definition.dashboard world.clock))
  rw [provisioned] at run
  exact ⟨_, run, content⟩

/-- A dashboard that is on a shelf is promoted, and nothing held there changes. -/
theorem promote_of_titled
    (first : world.server.titled? title = some (hit, document))
    (fetched : world.server.definition hit.uid = .ok definition) :
    ∃ promoted, carryOut (promote shelves World.machine title) world =
        (.ok (promotionFor title hit definition.dashboard), promoted) ∧
      promoted.server.held = world.server.held ∧
      promoted.server.uploads =
        world.server.uploads ++ [draftUpload title hit definition.dashboard] := by
  obtain ⟨log, found⟩ := find_of_titled first
  rw [fetched] at found
  have run := promote_of_found found
  rw [carryOut_upload] at run
  exact ⟨_, run, rfl, rfl⟩

end

def sampleHit : Hit := ⟨"Disk-ref", "ref-1", some "hosts"⟩

def sampleCopy : Hit := ⟨"Disk-ref (WIP)", "copy-1", none⟩

theorem chars_integer (value : Int) :
    String.ofList (Json.Number.chars (.integer value)) = toString value := by
  cases value with
  | ofNat n => rfl
  | negSucc n =>
      change String.ofList (['-'] ++ Nat.toDigits 10 (n + 1)) =
        "-" ++ String.ofList (Nat.toDigits 10 (n + 1))
      rw [String.ofList_append]

/-- The text of a document changes with its version at one place only, and there from
one decimal number to the other. -/
theorem provisionedText_setVersion (document : Dashboard) :
    ∃ before behind : String, ∀ version : Int,
      provisionedText (document.setVersion version) =
        before ++ toString version ++ behind := by
  obtain ⟨before, behind, split⟩ :=
    Json.write_insert .pretty 0 "version" document.fields []
  refine ⟨String.ofList before, String.ofList behind ++ "\n", ?_⟩
  intro version
  have text : Json.write .pretty 0 (document.setVersion version).toJson [] =
      before ++ (Json.Number.chars (.integer version) ++ behind) := by
    have written := split (.ofInt version)
    rw [Json.ofInt, Json.write, List.append_nil] at written
    exact written
  rw [provisionedText, Json.pretty, text, String.ofList_append, String.ofList_append,
    chars_integer]
  simp only [String.append_assoc]

/-- The draft of a document that has its identity already gets the same identity back. -/
theorem Dashboard.identify_asDraft {document : Dashboard} {title : String}
    (id : document.get? "id" = some .null)
    (uid : document.get? "uid" = some (.string (Title.slug title)))
    (titled : document.get? "title" = some (.string title)) (version : Int) :
    document.asDraft.identify title version = document.setVersion version := by
  let retitled := document.setTitle (document.title ++ Title.draftMark)
  have idKept : retitled.get? "id" = some .null := by
    rw [← id]
    exact get?_set_of_ne _ _ (by decide)
  have uidKept : retitled.get? "uid" = some (.string (Title.slug title)) := by
    rw [← uid]
    exact get?_set_of_ne _ _ (by decide)
  have idStays : (retitled.set "uid" .null).get? "id" = some .null := by
    rw [← idKept]
    exact get?_set_of_ne _ _ (by decide)
  have drafted : document.asDraft = retitled.set "uid" .null :=
    congrArg (fun edited => edited.set "uid" .null) (set_eq_self idKept)
  have identified : (document.asDraft.clearId).setUid (some (Title.slug title)) = retitled := by
    rw [drafted, clearId, set_eq_self idStays, setUid, set_set_self]
    exact set_eq_self uidKept
  have back : retitled.setTitle title = document :=
    (set_set_self document "title" _ _).trans (set_eq_self titled)
  rw [identify, identified, back]

namespace SaveOptions

variable {options : SaveOptions}

theorem titleFor_of_untitled (untitled : options.title = none) (draft : Dashboard) :
    options.titleFor draft = Title.reference draft.title := by
  rw [titleFor, untitled, Option.getD_none]

/-- Selections that have been put back, or kept, stay as they are the next time. -/
theorem settled_eq_self {draft document : Dashboard}
    (same : document.get? "templating" = options.templatingFor draft) :
    options.settled document = document := by
  rw [settled]
  split
  · rfl
  · next reset =>
      have put : document.get? "templating" =
          draft.resetHostSelections.1.get? "templating" := by
        rw [same, templatingFor, if_neg reset, Dashboard.get?_resetHostSelections,
          if_pos rfl]
      exact Dashboard.resetHostSelections_eq_self put

/-- The draft of a document that was saved goes by its title again. -/
theorem titleFor_asDraft (untitled : options.title = none) (draft : Dashboard)
    (version : Int) :
    options.titleFor (options.documentFor draft version).asDraft = options.titleFor draft := by
  have saved := options.identified draft version
  rw [titleFor_of_untitled untitled, Dashboard.title_asDraft,
    Dashboard.title_of_get? saved.title, titleFor_of_untitled untitled,
    Title.reference_draft_reference]

theorem draft_titleFor (untitled : options.title = none) (draft : Dashboard) :
    Title.draft (options.titleFor draft) = options.titleFor draft ++ Title.draftMark := by
  rw [titleFor_of_untitled untitled]
  exact Title.draft_of_not_endsIn (Title.not_endsIn_draftMark (Title.endsIn_reference _))

/-- Saving the draft of a document that was saved gives that document with a new
version. -/
theorem documentFor_asDraft (untitled : options.title = none) (draft : Dashboard)
    (first again : Int) :
    options.documentFor (options.documentFor draft first).asDraft again =
      (options.documentFor draft first).setVersion again := by
  have saved := options.identified draft first
  have settled : options.settled (options.documentFor draft first).asDraft =
      (options.documentFor draft first).asDraft := by
    have same : (options.documentFor draft first).asDraft.get? "templating" =
        options.templatingFor draft := by
      rw [Dashboard.get?_asDraft_of_not_mem _ (by decide), saved.templating]
    exact settled_eq_self same
  rw [documentFor, titleFor_asDraft untitled, settled]
  exact Dashboard.identify_asDraft saved.id saved.uid saved.title again

end SaveOptions

/-- Saving, promoting the saved document and saving again is a fixed point: the second
file has the path of the first one, and its text up to the value of the version. -/
theorem save_promote_save {σ : Type} {catalogue : Catalogue (StateM (World σ))}
    {title : String} {options : SaveOptions} {world after : World σ} {saving : Saving}
    (untitled : options.title = none)
    (saved : carryOut (save catalogue World.machine title options) world =
      (.ok saving, after)) :
    ∃ (document : Dashboard) (before behind : String),
      after.files.content? saving.path = some (provisionedText document) ∧
      document.get? "title" = some (.string saving.title) ∧
      document.get? "uid" = some (.string (Title.slug saving.title)) ∧
      document.setVersion after.clock = document ∧
      (∀ version : Int, provisionedText (document.setVersion version) =
        before ++ toString version ++ behind) ∧
      ∀ (provisioned : World Shelf) (hit : Hit),
        provisioned.server.DistinctUids →
        provisioned.server.titled? saving.title = some (hit, document.toJson) →
        ∃ upload promoted,
          carryOut (promote shelves World.machine saving.title) provisioned =
            (.ok (promotionFor saving.title hit document), promoted) ∧
          promoted.server.uploads = provisioned.server.uploads ++ [upload] ∧
          ∀ (stored : World Shelf) (copy : Hit),
            stored.server.DistinctUids →
            stored.server.titled? (saving.title ++ Title.draftMark) =
              some (copy, upload.dashboard.toJson) →
            stored.files.takes saving.path = true →
            ∃ again left,
              carryOut (save shelves World.machine saving.title options) stored =
                (.ok again, left) ∧
              again.path = saving.path ∧
              again.title = saving.title ∧
              left.files.content? saving.path =
                some (provisionedText (document.setVersion stored.clock)) := by
  obtain ⟨_, definition, looked, _, rfl, sameClock, content⟩ := save_ok saved
  have identified := options.identified definition.dashboard looked.clock
  obtain ⟨before, behind, hole⟩ := provisionedText_setVersion
    (options.documentFor definition.dashboard looked.clock)
  rw [SaveOptions.savingFor_path, SaveOptions.savingFor_title]
  refine ⟨_, before, behind, content, identified.title, identified.uid, ?_, hole, ?_⟩
  · rw [sameClock]
    exact Dashboard.set_eq_self identified.version
  · intro provisioned hit distinct first
    obtain ⟨promoted, run, _, uploads⟩ :=
      promote_of_titled first (Shelf.definition_of_titled? distinct first)
    refine ⟨_, promoted, run, uploads, ?_⟩
    intro stored copy distinctStored firstDraft taken
    change stored.server.titled? (options.titleFor definition.dashboard ++ Title.draftMark) =
      some (copy, (options.documentFor definition.dashboard looked.clock).asDraft.toJson)
      at firstDraft
    have fetched := Shelf.definition_of_titled? distinctStored firstDraft
    rw [← SaveOptions.draft_titleFor untitled] at firstDraft
    have samePath : options.pathFor
        (options.documentFor definition.dashboard looked.clock).asDraft =
          options.pathFor definition.dashboard := by
      rw [SaveOptions.pathFor, SaveOptions.titleFor_asDraft untitled, SaveOptions.pathFor]
    obtain ⟨left, again, content⟩ := save_of_titled_of_takes firstDraft fetched
      (samePath.symm ▸ taken)
    simp only [samePath, SaveOptions.documentFor_asDraft untitled] at content
    refine ⟨_, left, again, ?_, ?_, content⟩
    · rw [SaveOptions.savingFor_path, samePath]
    · rw [SaveOptions.savingFor_title, SaveOptions.titleFor_asDraft untitled]

theorem save_promote_save_sample :
    ∃ (document : Dashboard) (upload : Upload) (again : Saving) (left : World Shelf),
      sampleRun.2.files.content? sampleSaving.path = some (provisionedText document) ∧
      carryOut (save shelves World.machine "Disk-ref" sampleOptions)
        (shelved sampleCopy upload.dashboard 9) = (.ok again, left) ∧
      again.path = sampleSaving.path ∧
      left.files.content? sampleSaving.path =
        some (provisionedText (document.setVersion 9)) := by
  have ran : sampleRun = (.ok sampleSaving, sampleRun.2) := rfl
  obtain ⟨document, _, _, content, _, _, _, _, further⟩ := save_promote_save rfl ran
  obtain ⟨upload, _, _, _, onwards⟩ :=
    further (shelved sampleHit document 8) sampleHit (List.pairwise_singleton ..) rfl
  obtain ⟨again, left, run, samePath, _, text⟩ :=
    onwards (shelved sampleCopy upload.dashboard 9) sampleCopy (List.pairwise_singleton ..) rfl rfl
  exact ⟨document, upload, again, left, content, run, samePath, text⟩

end DraftBoard
