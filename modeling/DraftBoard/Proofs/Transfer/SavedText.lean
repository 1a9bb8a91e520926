import DraftBoard.Proofs.Dashboard.Codec
import DraftBoard.Proofs.Transfer.Exchanges
import DraftBoard.Proofs.Transfer.Provisioning

/-!
# Saved texts are read back

The file of a dashboard holds its document one entry a line, the body of an upload holds
it without blanks.  The document is read back from either, at any depth that the reader
allows.
-/

namespace DraftBoard

open Json

variable {σ τ : Type}

/-- The body of an upload holds the text of its document as it stands. -/
theorem Upload.compact_toJson (upload : Upload) :
    ∃ before behind, upload.toJson.compact =
      before ++ upload.dashboard.toJson.compact ++ behind := by
  let others : Fields := [("message", .string upload.message),
    ("overwrite", .bool upload.overwrite)]
  refine ⟨.ofList ('{' :: writeString "dashboard" [':']),
    .ofList (writeFields .compact 0 others ['}']), ?_⟩
  rw [compact, compact, ← String.ofList_append, ← String.ofList_append]
  apply congrArg String.ofList
  have text : write .compact 0 upload.toJson [] =
      '{' :: writeString "dashboard" ([':'] ++
        write .compact 1 upload.dashboard.toJson (writeFields .compact 0 others ['}'])) := rfl
  rw [text, writeString_append, write_eq_append, write_compact_level 1 0]
  simp

theorem provisionedText_eq (dashboard : Dashboard) :
    provisionedText dashboard = .ofList (write .pretty 0 dashboard.toJson ['\n']) := by
  have lineBreak : ("\n" : String) = .ofList ['\n'] := rfl
  rw [provisionedText, pretty, lineBreak, ← String.ofList_append, ← write_eq_append]

/-- A document is read back from its text in every sound layout, blanks behind it or
not. -/
theorem Dashboard.parse_write {layout : Layout} (sound : layout.Sound) {dashboard : Dashboard}
    (readable : Readable depthLimit dashboard.toJson) {blanks : List Char}
    (blank : blanks.all isBlank = true) :
    Dashboard.parse (String.ofList (write layout 0 dashboard.toJson blanks)) =
      .ok dashboard := by
  have reads : ReadsBack (reader depthLimit) (write layout 0 dashboard.toJson) dashboard := by
    intro rest ends
    have read := expectObject_write sound readable 0 rest ends
    rw [reader, Dashboard.toJson, read]
    rfl
  exact readAll_of_readsBack reads blank

theorem Dashboard.parse_compact {dashboard : Dashboard}
    (readable : Readable depthLimit dashboard.toJson) :
    Dashboard.parse dashboard.toJson.compact = .ok dashboard :=
  Dashboard.parse_write Layout.compact_sound readable rfl

theorem Dashboard.parse_provisionedText {dashboard : Dashboard}
    (readable : Readable depthLimit dashboard.toJson) :
    Dashboard.parse (provisionedText dashboard) = .ok dashboard := by
  rw [provisionedText_eq]
  -- The line break at the end is one of the blanks that a reader passes over.
  exact Dashboard.parse_write Layout.pretty_sound readable rfl

/-- The file of a saved dashboard is read back as its document, and so is the text of the
document that the body of an upload holds. -/
theorem saved_text_reads_back {dashboard : Dashboard}
    (readable : Readable depthLimit dashboard.toJson) :
    Dashboard.parse (provisionedText dashboard) = .ok dashboard ∧
    (∀ (path : Path) (before after : World σ),
      carryOut (writeDashboard World.machine path dashboard) before = (.ok (), after) →
      after.files.content? path = some (provisionedText dashboard)) ∧
    Dashboard.parse dashboard.toJson.compact = .ok dashboard ∧
    ∀ (transport : Http.Transport (StateM τ)) (account : Account) (message : String)
      (overwrite : Bool) (before : World (Watched Http.Exchange τ)), ∃ sent,
      (carryOut ((remote transport.watched account).upload ⟨dashboard, message, overwrite⟩)
        before).2.server.history = before.server.history ++ sent ∧
      ∀ exchange ∈ sent, ∃ opening closing,
        exchange.request.body = opening ++ dashboard.toJson.compact ++ closing := by
  refine ⟨Dashboard.parse_provisionedText readable, ?_, Dashboard.parse_compact readable, ?_⟩
  · intro path before after saved
    obtain ⟨log, written⟩ := carryOut_writeDashboard path dashboard before
    rw [saved] at written
    cases provisioned : before.files.provision path (provisionedText dashboard) with
    | mk outcome files =>
        rw [provisioned] at written
        cases written
        exact FileTree.content?_of_provision provisioned
  · intro transport account message overwrite before
    obtain ⟨sent, history, course⟩ :=
      (remote_obeys transport account).upload ⟨dashboard, message, overwrite⟩ before
    refine ⟨sent, history, ?_⟩
    intro exchange member
    obtain ⟨asked, _, request⟩ := Remote.Posts.request_of_mem course exchange member
    rw [request]
    exact Upload.compact_toJson _

/-- A document with whatever its text has to escape, and empty containers. -/
def escapedDocument : Dashboard where
  fields := [("title", .string "a \"b\" \\ /\n\t\x01 \u00e9\u2028"), ("uid", .null),
    ("panels", .array [.object [], .array [], .ofInt (-0x8000000000000000), .bool true]),
    ("\"", .object [("z", .ofInt 0xffffffffffffffff), ("", .array [.string ""])])]

theorem readable_escapedDocument : Readable depthLimit escapedDocument.toJson := by
  have shallow : Readable 3 escapedDocument.toJson := by
    refine .object (by decide) ?_
    simp only [escapedDocument, List.forall_mem_cons]
    refine ⟨.string _, .null, .array ?_, .object (by decide) ?_, ?_⟩
    · simp only [List.forall_mem_cons]
      exact ⟨.object (by decide) (by simp), .array (by simp), .integer (by decide), .bool _,
        by simp⟩
    · simp only [List.forall_mem_cons]
      refine ⟨.integer (by decide), .array ?_, by simp⟩
      simp only [List.forall_mem_cons]
      exact ⟨.string _, by simp⟩
    · simp
  exact shallow.mono (by decide)

def escapedWriting : Except TransferError Unit × World Unit :=
  carryOut (writeDashboard World.machine (.ofString "/out/a.json") escapedDocument)
    ⟨(), ⟨[], []⟩, [], 0⟩

theorem saved_text_reads_back_sample :
    Readable depthLimit escapedDocument.toJson ∧
    ∃ text, escapedWriting.2.files.content? (.ofString "/out/a.json") = some text ∧
      Dashboard.parse text = .ok escapedDocument ∧
      Dashboard.parse escapedDocument.toJson.compact = .ok escapedDocument := by
  have written : escapedWriting = (.ok (), escapedWriting.2) := rfl
  obtain ⟨fileRead, file, bodyRead, _⟩ :=
    @saved_text_reads_back Unit Unit _ readable_escapedDocument
  exact ⟨readable_escapedDocument, _, file _ _ _ written, fileRead, bodyRead⟩

end DraftBoard
